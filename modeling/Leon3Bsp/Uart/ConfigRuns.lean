import Leon3Bsp.Uart.BaudRate
import Leon3Bsp.Uart.Preempted
import Leon3Bsp.Uart.Primitives

/-!
# The configuration in a run

For the caller a device has a setting, which three functions of the driver
change. The driver keeps it in two registers only; what else a run does, sending
and receiving, attaching, polling and serving interrupts, leaves both alone. So
`Uart_setConfig` need not mask the vector, although it reads and writes the
control register once for each flag.
-/

namespace Leon3Bsp.Uart
set_option autoImplicit false
open Wp Execution Coupling Interruption Relation

variable {σ : Type}

/-- The setting of a device. -/
@[ext] structure Setting where
  isRxEnabled : Bool
  isTxEnabled : Bool
  isLoopbackModeEnabled : Bool
  parity : Parity
  /-- The scaler is what is left of the baud rate. -/
  scaler : Word

namespace Setting

/-- No parity and no baud rate leave the ones before. -/
def configure (ticksPerSecond : Word) (setting : Setting) (config : Config) : Setting where
  isRxEnabled := config.isRxEnabled
  isTxEnabled := config.isTxEnabled
  isLoopbackModeEnabled := config.isLoopbackModeEnabled
  parity := if config.parity.isSelected then config.parity else setting.parity
  scaler := if baudRateToValue config.baudRate = 0 then setting.scaler
    else encodeScaler ticksPerSecond (baudRateToValue config.baudRate)

/-- The scaler outlives a shutdown. -/
def shutDown (setting : Setting) : Setting :=
  ⟨false, false, false, .none, setting.scaler⟩

/-- The setting after a call. -/
def step (ticksPerSecond : Word) (setting : Setting) : Call → Setting
  | .setConfig config => setting.configure ticksPerSecond config
  | .init _ | .shutdown => setting.shutDown
  | _ => setting

/-- The setting as it is read back. -/
def config (ticksPerSecond : Word) (setting : Setting) : Config where
  isTxEnabled := setting.isTxEnabled
  isRxEnabled := setting.isRxEnabled
  isLoopbackModeEnabled := setting.isLoopbackModeEnabled
  parity := setting.parity
  baudRate := valueToBaudRate (ticksPerSecond / (8 * (decodeScaler setting.scaler).setWidth 32))
  baudRateClkFreq := ticksPerSecond

/-- The setting that two registers stand for. -/
def ofRegisters (control clkscl : Word) : Setting :=
  ⟨getFlag control Control.RE, getFlag control Control.TE, getFlag control Control.LB, parityOf control, clkscl⟩

end Setting

/-- The registers of the setting are plain memory, beside what arrives. -/
structure SettingIsMemory (device : Device σ) (control clkscl : σ → Word) : Prop where
  inControl : ControlIsMemory device control
  inScaler : ScalerIsMemory device clkscl
  besideControl : ∀ byte s, control (device.arrive byte s) = control s
  besideScaler : ∀ byte s, clkscl (device.arrive byte s) = clkscl s

/-- The setting of the device of a world. -/
def World.setting (w : World σ) (control clkscl : σ → Word) : Setting :=
  .ofRegisters (control w.hw) (clkscl w.hw)

/-- Neither register changed. -/
structure KeepsSetting (control clkscl : σ → Word) (w w' : World σ) : Prop where
  control : control w'.hw = control w.hw
  scaler : clkscl w'.hw = clkscl w.hw

section Registers

variable {control : Word} {config : Config} {setting : Setting}

theorem parityOf_configured : parityOf (configured control config) =
    if config.parity.isSelected then config.parity else parityOf control := by
  have enabled := configured_PE control config
  split
  case isTrue selected =>
    have odd := configured_PS control config selected
    rw [selected, Bool.true_or] at enabled
    rw [parityOf, if_pos enabled, odd]
    cases parity : config.parity <;> simp_all [Parity.isSelected]
  case isFalse ignored =>
    have kept : getFlag (configured control config) Control.PS = getFlag control Control.PS := by
      simp [configured, ignored, getFlag_withFlag, Control.RE, Control.RI, Control.RF, Control.TE, Control.TI, Control.TF,
        Control.LB, Control.PS]
    rw [eq_false_of_ne_true ignored, Bool.false_or] at enabled
    rw [parityOf, enabled, kept, ← parityOf]

/-- `Uart_setConfig` sets what the caller asked for. -/
theorem Setting.ofRegisters_configured (ticksPerSecond clkscl : Word) :
    .ofRegisters (configured control config) (if baudRateToValue config.baudRate = 0 then clkscl
      else encodeScaler ticksPerSecond (baudRateToValue config.baudRate)) =
    (Setting.ofRegisters control clkscl).configure ticksPerSecond config := by
  ext1
  · exact configured_RE control config
  · exact configured_TE control config
  · exact configured_LB control config
  · exact parityOf_configured
  · rfl

theorem Setting.ofRegisters_zero (clkscl : Word) : .ofRegisters 0 clkscl = (Setting.ofRegisters control clkscl).shutDown := by
  ext1 <;> rfl

end Registers

section Driven

variable {env : Env σ} {E : World σ → World σ → Prop} {scope : Scope} {w w' : World σ} {r : Register} {register : σ → Word}

/-- A register that only writes to it change, and that is outside the scope. -/
theorem driven_register (read : ∀ r s, register (env.device.read r s).2 = register s)
    (written : ∀ r' v s, r' ≠ r → register (env.device.write r' v s) = register s) (other : r ≠ .data) (outside : r ∉ scope.registers)
    (returned : ∀ {w w'}, E w w' → register w'.hw = register w.hw) (driven : Driven env E scope w w') :
    register w'.hw = register w.hw := by
  induction driven with
  | refl => rfl
  | tail earlier last ih =>
    rw [← ih]
    cases last with
    | look other w => exact read _ _
    | put _ own value w =>
      apply written
      rintro rfl
      exact outside own
    | send ready fetched byte => exact (written _ _ _ other.symm).trans (read _ _)
    | take ready => exact (read _ _).trans (read _ _)
    | assign assigns registers => rfl
    | service own => rfl
    | push member data => rw [World.afterPush_hw]
    | pull member data w => rw [World.afterPull_hw]
    | call registered related =>
      have kept := returned related
      exact kept

/-- Neither register is in the scope. -/
def Scope.unset : Scope :=
  ⟨Set.univ, Set.univ, {.data, .status}, Set.univ⟩

variable {control clkscl : σ → Word}

theorem driven_keepsSetting (memory : SettingIsMemory env.device control clkscl)
    (returned : ∀ {w w'}, E w w' → KeepsSetting control clkscl w w') (driven : Driven env E .unset w w') :
    KeepsSetting control clkscl w w' := by
  constructor
  · have outside : Register.control ∉ Scope.unset.registers := by rintro (own | own) <;> cases own
    exact driven_register memory.inControl.read memory.inControl.other (by decide) outside (fun related => (returned related).control) driven
  · have outside : Register.clkscl ∉ Scope.unset.registers := by rintro (own | own) <;> cases own
    exact driven_register memory.inScaler.read memory.inScaler.other (by decide) outside (fun related => (returned related).scaler) driven

end Driven

/-- The calls that change the setting. -/
def Call.Sets : Call → Prop
  | .init _ | .shutdown | .setConfig _ => True
  | _ => False

theorem Call.within_unset {call : Call} (other : ¬ call.Sets) : call.Within .unset := by
  cases call with
  | init | shutdown | setConfig => exact absurd trivial other
  | push | pull | registerErrorHandler => exact Set.mem_univ _
  | writeAsync => exact ⟨fun _ _ => Set.mem_univ _, Set.mem_univ _⟩
  | readAsync => exact ⟨fun _ _ => Set.mem_univ _, Set.mem_univ _, Set.mem_univ _⟩
  | _ => trivial

section Calls

variable {env : Env σ} {control clkscl : σ → Word} {may : Fault → Prop} {w : World σ}

theorem wp_shutdown_setting (memory : SettingIsMemory env.device control clkscl) :
    wp may (shutdown env) (fun _ w' => w'.setting control clkscl = (w.setting control clkscl).shutDown) w := by
  have cleared : control (env.device.write .status 0 (env.device.write .control 0 w.hw)) = 0 := by
    rw [memory.inControl.other _ _ _ (by decide), memory.inControl.written]
  have kept : clkscl (env.device.write .status 0 (env.device.write .control 0 w.hw)) = clkscl w.hw := by
    rw [memory.inScaler.other _ _ _ (by decide), memory.inScaler.other _ _ _ (by decide)]
  show Setting.ofRegisters (control _) (clkscl _) = (Setting.ofRegisters (control w.hw) (clkscl w.hw)).shutDown
  exact (congrArg₂ Setting.ofRegisters cleared kept).trans (Setting.ofRegisters_zero (clkscl w.hw))

theorem scaler_setConfig_unsupported (memory : ScalerIsMemory env.device clkscl) {config : Config}
    (unsupported : ¬ config.baudRate.Supported) : Keeps may (fun w : World σ => clkscl w.hw) (setConfig env config) := by
  have trans {w w' w'' : World σ} (first : clkscl w'.hw = clkscl w.hw) (second : clkscl w''.hw = clkscl w'.hw) :
      clkscl w''.hw = clkscl w.hw := second.trans first
  have flag (isSet : Bool) (flag : Nat) : Relates may (fun w w' : World σ => clkscl w'.hw = clkscl w.hw) (setFlag env isSet flag) :=
    scaler_setFlag memory isSet flag
  have baud : Relates may (fun w w' : World σ => clkscl w'.hw = clkscl w.hw) (setBaudRate env config.baudRate) := by
    intro w
    unfold wp
    rw [setBaudRate_unsupported unsupported]
  unfold setConfig
  exact (flag _ _).bind trans fun _ => (flag _ _).bind trans fun _ => (flag _ _).bind trans fun _ => (flag _ _).bind trans fun _ =>
    (flag _ _).bind trans fun _ => (flag _ _).bind trans fun _ => (flag _ _).bind trans fun _ => baud.bind trans fun _ =>
    scaler_setParity memory config.parity

theorem wp_setConfig_setting (memory : SettingIsMemory env.device control clkscl) (config : Config) :
    wp may (setConfig env config)
      (fun _ w' => w'.setting control clkscl = (w.setting control clkscl).configure env.ticksPerSecond config) w := by
  have scaler : wp may (setConfig env config) (fun _ w' => clkscl w'.hw = if baudRateToValue config.baudRate = 0 then clkscl w.hw
      else encodeScaler env.ticksPerSecond (baudRateToValue config.baudRate)) w := by
    by_cases supported : config.baudRate.Supported
    · rw [if_neg (supported_iff.1 supported)]
      exact wp_setConfig_scaler memory.inScaler supported
    · rw [if_pos (not_not.1 (mt supported_iff.2 supported))]
      exact scaler_setConfig_unsupported memory.inScaler supported w
  have flags : wp may (setConfig env config) (fun _ w' => control w'.hw = configured (control w.hw) config) w :=
    wp_setConfig memory.inControl fun _ set => set
  apply wp_mono (wp_and flags scaler)
  rintro _ w' ⟨set, programmed⟩
  rw [World.setting, set, programmed]
  exact Setting.ofRegisters_configured _ _

theorem wp_getConfig_setting (memory : SettingIsMemory env.device control clkscl) :
    wp may (getConfig env) (fun config _ => config = (w.setting control clkscl).config env.ticksPerSecond) w := by
  have clock : wp may (getConfig env) (fun config _ => config.baudRateClkFreq = env.ticksPerSecond) w := by
    unfold getConfig getParity
    rw [getBaudRate_eq]
    simp only [wp_bind, wp_readRegister, wp_ite, wp_pure, ite_self]
  have registers : wp may (getConfig env) (fun config _ => ReadsBack config (control w.hw)) w :=
    wp_getConfig memory.inControl fun _ _ reads _ => reads
  apply wp_mono (wp_and (wp_and registers (wp_getConfig_scaler memory.inScaler)) clock)
  rintro ⟨tx, rx, loopback, parity, baudRate, freq⟩ _ ⟨⟨reads, rate⟩, freq⟩
  cases rate
  cases freq
  obtain ⟨rfl, rfl, rfl, rfl⟩ := reads
  rfl

theorem KeepsSetting.setting {w w' : World σ} (kept : KeepsSetting control clkscl w w') :
    w'.setting control clkscl = w.setting control clkscl := by
  rw [World.setting, kept.control, kept.scaler]
  rfl

/-- What one call does to the setting. -/
theorem step_exec (memory : SettingIsMemory env.device control clkscl)
    (callbacks : Callbacks partially env (KeepsSetting control clkscl)) (call : Call) (w : World σ) :
    wp partially (exec env call)
      (fun _ w' => w'.setting control clkscl = (w.setting control clkscl).step env.ticksPerSecond call) w := by
  by_cases sets : call.Sets
  · cases call with
    | init id =>
      simp only [exec, init, wp_bind, wp_modifyDescriptor, wp_pure]
      exact wp_shutdown_setting memory
    | shutdown => exact (wp_bind _ _ _ _).2 (wp_shutdown_setting memory)
    | setConfig config => exact (wp_bind _ _ _ _).2 (wp_setConfig_setting memory config)
    | _ => exact sets.elim
  · have unset (setting : Setting) : setting.step env.ticksPerSecond call = setting := by
      cases call <;> first | rfl | exact absurd trivial sets
    rw [unset]
    by_cases silent : ∀ byte, call ≠ .arrive byte
    · apply wp_mono (driven_exec callbacks (Call.within_unset sets) silent w)
      intro _ w' driven
      exact (driven_keepsSetting memory (fun related => related) driven).setting
    · push Not at silent
      obtain ⟨byte, rfl⟩ := silent
      show Setting.ofRegisters (control (env.device.arrive byte w.hw)) (clkscl (env.device.arrive byte w.hw)) = _
      rw [memory.besideControl, memory.besideScaler]
      rfl

end Calls

section Preempted

variable {env : Env σ} {control clkscl : σ → Word} {w w' : World σ}

theorem respects_control (memory : SettingIsMemory env.device control clkscl) :
    Respects (KeepsSetting control clkscl) (readRegister env .control) := by
  refine fun w v same => alike_act ?_ ⟨?_, ?_⟩
  · rw [World.value, World.value, memory.inControl.value, memory.inControl.value, same.control]
  · rw [World.afterRead_hw, World.afterRead_hw, memory.inControl.read, memory.inControl.read, same.control]
  · rw [World.afterRead_hw, World.afterRead_hw, memory.inScaler.read, memory.inScaler.read, same.scaler]

theorem respects_assignControl (memory : SettingIsMemory env.device control clkscl) (value : Word) :
    Respects (KeepsSetting control clkscl) (writeRegister env .control value) := by
  refine fun w v same => alike_act rfl ⟨?_, ?_⟩
  · rw [World.afterWrite_hw, World.afterWrite_hw, memory.inControl.written, memory.inControl.written]
  · rw [World.afterWrite_hw, World.afterWrite_hw, memory.inScaler.other _ _ _ (by decide), memory.inScaler.other _ _ _ (by decide),
      same.scaler]

theorem respects_programming (memory : SettingIsMemory env.device control clkscl) (baud : BaudRate) :
    Respects (KeepsSetting control clkscl) (setBaudRate env baud) := by
  intro w v same
  by_cases supported : baud.Supported
  · refine .ended (setBaudRate_supported supported) (setBaudRate_supported supported) ⟨?_, ?_⟩
    · rw [World.afterWrite_hw, World.afterWrite_hw, memory.inControl.other _ _ _ (by decide),
        memory.inControl.other _ _ _ (by decide), same.control]
    · rw [World.afterWrite_hw, World.afterWrite_hw, memory.inScaler.written _ _ (encodeScaler_lt _ _),
        memory.inScaler.written _ _ (encodeScaler_lt _ _)]
  · exact .ended (setBaudRate_unsupported supported) (setBaudRate_unsupported supported) same

theorem respects_rate (memory : SettingIsMemory env.device control clkscl) :
    Respects (KeepsSetting control clkscl) (getBaudRate env) := by
  rw [getBaudRate_eq]
  refine Respects.bind (fun w v same => alike_act ?_ ⟨?_, ?_⟩) fun _ => respects_pure _
  · rw [World.value, World.value, memory.inScaler.value, memory.inScaler.value, same.scaler]
  · rw [World.afterRead_hw, World.afterRead_hw, memory.inControl.read, memory.inControl.read, same.control]
  · rw [World.afterRead_hw, World.afterRead_hw, memory.inScaler.read, memory.inScaler.read, same.scaler]

theorem respectful_setFlag (memory : SettingIsMemory env.device control clkscl) (isSet : Bool) (flag : Nat) :
    Respectful (KeepsSetting control clkscl) (setFlagSteps env isSet flag) :=
  (respectful_once (respects_control memory)).bind fun _ => respectful_once (respects_assignControl memory _)

theorem respectful_setConfig (memory : SettingIsMemory env.device control clkscl) (config : Config) :
    Respectful (KeepsSetting control clkscl) (setConfigSteps env config) := by
  have flag (isSet : Bool) (flag : Nat) : Respectful (KeepsSetting control clkscl) (setFlagSteps env isSet flag) :=
    respectful_setFlag memory isSet flag
  refine (flag _ _).bind fun _ => (flag _ _).bind fun _ => (flag _ _).bind fun _ => (flag _ _).bind fun _ =>
    (flag _ _).bind fun _ => (flag _ _).bind fun _ => (flag _ _).bind fun _ =>
    (respectful_once (respects_programming memory _)).bind fun _ => .ite ?_ (respectful_pure ())
  exact (flag _ _).bind fun _ => flag _ _

theorem respectful_getConfig (memory : SettingIsMemory env.device control clkscl) :
    Respectful (KeepsSetting control clkscl) (getConfigSteps env) := by
  have reads : Respectful (KeepsSetting control clkscl) (.once (readRegister env .control)) :=
    respectful_once (respects_control memory)
  refine reads.bind fun _ => reads.bind fun _ => reads.bind fun _ => Respectful.bind ?_ fun _ =>
    (respectful_once (respects_rate memory)).bind fun _ => respectful_pure _
  exact reads.bind fun _ => .ite (reads.bind fun _ => respectful_pure _) (respectful_pure _)

/-- The interrupt does not configure. -/
theorem interrupted_setting (memory : SettingIsMemory env.device control clkscl)
    (callbacks : Callbacks partially env (KeepsSetting control clkscl)) (interrupted : Interrupted env w w') :
    KeepsSetting control clkscl w w' := by
  obtain ⟨-, answer, ran⟩ := interrupted
  have unset : ¬ Call.handleInterrupt.Sets := fun sets => sets
  have driven := wp_ended (driven_exec callbacks (Call.within_unset unset) (fun _ => by simp) w) ran
  exact driven_keepsSetting memory (fun related => related) driven

theorem served_setting (memory : SettingIsMemory env.device control clkscl)
    (callbacks : Callbacks partially env (KeepsSetting control clkscl)) (served : ReflTransGen (Interrupted env) w w') :
    w'.setting control clkscl = w.setting control clkscl := by
  induction served with
  | refl => rfl
  | tail earlier last ih => exact (interrupted_setting memory callbacks last).setting.trans ih

/-- What `Uart_getConfig` answers. -/
theorem getConfig_answer (memory : SettingIsMemory env.device control clkscl) {answer : Answer}
    (ran : exec env .getConfig w = .ok (answer, w')) :
    answer = .config ((w.setting control clkscl).config env.ticksPerSecond) := by
  have got : wp partially (exec env .getConfig)
      (fun answer _ => answer = .config ((w.setting control clkscl).config env.ticksPerSecond)) w := by
    apply (wp_bind _ _ _ _).2
    apply wp_mono (wp_getConfig_setting memory)
    rintro config _ rfl
    rfl
  have answered := wp_ended got ran
  exact answered

/-- What one call of a task does to the setting, with interrupts inside. -/
theorem step_runs (memory : SettingIsMemory env.device control clkscl)
    (callbacks : Callbacks partially env (KeepsSetting control clkscl)) {call : Call} (asked : call.Asked) {answer : Answer}
    (runs : Runs (Interrupted env) (steps env call) w (.ok (answer, w'))) :
    w'.setting control clkscl = (w.setting control clkscl).step env.ticksPerSecond call ∧
      (call = .getConfig → answer = .config ((w.setting control clkscl).config env.ticksPerSecond)) := by
  have whole (other : ¬ call.Configures) : w'.setting control clkscl = (w.setting control clkscl).step env.ticksPerSecond call ∧
      (call = .getConfig → answer = .config ((w.setting control clkscl).config env.ticksPerSecond)) := by
    have undivided := undivided env fun call (among : call.Asked ∧ ¬ call.Configures) => among
    obtain ⟨w₁, before, followed⟩ := undivided.whole _ _ _ ⟨asked, other⟩ runs
    generalize ran : exec env call w₁ = outcome at followed
    cases followed with
    | ended after =>
      have stepped := wp_ended (step_exec memory callbacks call w₁) ran
      rw [served_setting memory callbacks before] at stepped
      refine ⟨(served_setting memory callbacks after).trans stepped, ?_⟩
      rintro rfl
      exact absurd trivial other
  have divided (respectful : Respectful (KeepsSetting control clkscl) (steps env call)) :
      w'.setting control clkscl = (w.setting control clkscl).step env.ticksPerSecond call ∧
        (call = .getConfig → answer = .config ((w.setting control clkscl).config env.ticksPerSecond)) := by
    have agrees := runs.unseen (R := KeepsSetting control clkscl) (fun s s' t interrupted same => ?_) respectful ⟨rfl, rfl⟩ (t := w)
    · rw [steps_atomic] at agrees
      generalize ran : exec env call w = outcome at agrees
      cases agrees with
      | ended related =>
        have stepped := wp_ended (step_exec memory callbacks call w) ran
        refine ⟨related.setting.symm.trans stepped, ?_⟩
        rintro rfl
        exact getConfig_answer memory ran
    · have kept := interrupted_setting memory callbacks interrupted
      exact ⟨same.control.trans kept.control.symm, same.scaler.trans kept.scaler.symm⟩
  cases call with
  | setConfig config => exact divided ((respectful_setConfig memory config).bind fun _ => respectful_pure _)
  | getConfig => exact divided ((respectful_getConfig memory).bind fun _ => respectful_pure _)
  | _ => exact whole not_false

end Preempted

/-- The setting that calls leave. -/
def settingAfter (env : Env σ) (control clkscl : σ → Word) (start : World σ) (calls : List (Call × Answer)) : Setting :=
  (calls.map Prod.fst).foldl (Setting.step env.ticksPerSecond) (start.setting control clkscl)

theorem plainDevice_setting : SettingIsMemory plainDevice (fun s => s .control) fun s => s .clkscl where
  inControl := ⟨fun _ => rfl, fun _ _ => rfl, fun _ _ => by simp [plainDevice], fun _ _ _ other => by simp [plainDevice, other.symm]⟩
  inScaler := plainDevice_scaler
  besideControl _ _ := rfl
  besideScaler _ _ := rfl

theorem plainEnv_keeps (ticksPerSecond : Word) : Callbacks partially (plainEnv ticksPerSecond)
    (KeepsSetting (fun s => s .control) fun s => s .clkscl) where
  refl _ := ⟨rfl, rfl⟩
  user _ _ w := (wp_pure () _ w).2 ⟨rfl, rfl⟩

/-- A device whose registers are plain memory, with its driver started. -/
def plainStarted : World (Register → Word) :=
  { plainWorld with rtems := ⟨fun _ => true, fun _ => some Board.descriptor.interruptData.rtemsInterruptEntry, fun _ => false⟩ }

end Leon3Bsp.Uart
