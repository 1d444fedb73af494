import Leon3Bsp.Timer.Settled
import Leon3Bsp.Timer.Timing

/-!
# Calls with clocks between their accesses

The driver masks the vector of a timer, but no mask stops the clock: it may come
before every access of a call. Here the calls are given access by access. A timer
that stands, or that a call stops with its first write, does not tell where the
clocks came, and neither does a timer that is only read.
-/

namespace Leon3Bsp.Timer
set_option autoImplicit false
open Wp Execution Coupling Interruption Movers

section Steps

variable {σ : Type} (group : Group) (device : Device σ)

/-- `Timer_setFlag`: the register is read, and then written. -/
def setFlagSteps (timerRegister : Register) (isSet : Bool) (flag : Nat) : Steps Empty (World σ) Unit := do
  let value ← .once (readRegister device timerRegister)
  .once (writeRegister device timerRegister (withFlag value isSet flag))

/-- `Timer_baseInit`. -/
def baseInitSteps (baseConfigurationRegister : Register) : Steps Empty (World σ) Unit := do
  setFlagSteps device baseConfigurationRegister true Configuration.DF
  setFlagSteps device baseConfigurationRegister true Configuration.SI

/-- `Timer_setConfigRegisters`. -/
def setConfigRegistersSteps (timerControlRegister timerReloadRegister : Register) (config : Config) :
    Steps Empty (World σ) Unit := do
  setFlagSteps device timerControlRegister config.isEnabled Control.EN
  setFlagSteps device timerControlRegister config.isInterruptEnabled Control.IE
  setFlagSteps device timerControlRegister config.isAutoReloaded Control.RS
  setFlagSteps device timerControlRegister config.isChained Control.CH
  .once (writeRegister device timerReloadRegister config.reloadValue)

/-- `Timer_start`. -/
def startSteps (timerControlRegister : Register) : Steps Empty (World σ) Unit := do
  setFlagSteps device timerControlRegister true Control.LD
  setFlagSteps device timerControlRegister true Control.EN

/-- In which order a call reads the two registers that it is given as arguments:
C leaves it open. -/
inductive Order
  | controlFirst
  | controlLast
  deriving DecidableEq

/-- The control register of a timer and another one are read. -/
def lookSteps (order : Order) (control other : Register) : Steps Empty (World σ) (Word × Word) :=
  match order with
  | .controlFirst => do
    let control ← .once (readRegister device control)
    let other ← .once (readRegister device other)
    pure (control, other)
  | .controlLast => do
    let other ← .once (readRegister device other)
    let control ← .once (readRegister device control)
    pure (control, other)

/-- `irqInit`. -/
def irqInitSteps (entry : EntryRef) (irqNumber : Nat) : Steps Empty (World σ) Unit := do
  .once (rtems fun s => s.interruptClear irqNumber)
  .once (rtems fun s => s.entryInstall irqNumber entry)
  .once (vectorEnable irqNumber)

/-- `irqDeinit`. -/
def irqDeinitSteps (entry : EntryRef) (irqNumber : Nat) : Steps Empty (World σ) Unit := do
  .once (vectorDisable irqNumber)
  .once (rtems fun s => s.entryRemove irqNumber entry)

namespace Group

/-- `Timer_Apbctrl…_init`. -/
def initSteps (id : Id) (timer : TimerRef) (handler : InterruptHandler) : Steps Empty (World σ) Unit := do
  .once (modifyDescriptor timer fun t => { t with base := group.addressBase, regs := group.addressById id })
  baseInitSteps device ⟨group.addressBase, .configuration⟩
  .once (modifyDescriptor timer fun t => { t with id, irqHandler := handler })
  .once (writeRegister device ⟨group.addressById id, .control⟩ 0)
  .once (writeRegister device ⟨group.addressById id, .counter⟩ 0)
  .once (writeRegister device ⟨group.addressById id, .reload⟩ 0)
  irqInitSteps (rtemsInterruptEntry timer) (group.interruptNumber id)

/-- `Timer_Apbctrl…_setConfigRegisters`. -/
def setConfigRegistersSteps (timer : TimerRef) (config : Config) : Steps Empty (World σ) Unit := do
  let t ← .once (descriptor timer)
  .once (vectorDisable (group.interruptNumber t.id))
  Timer.setConfigRegistersSteps device ⟨t.regs, .control⟩ ⟨t.regs, .reload⟩ config
  .once (vectorEnable (group.interruptNumber t.id))

/-- `Timer_Apbctrl…_getConfigRegisters`. -/
def getConfigRegistersSteps (order : Order) (timer : TimerRef) : Steps Empty (World σ) Config := do
  let t ← .once (descriptor timer)
  let seen ← lookSteps device order ⟨t.regs, .control⟩ ⟨t.regs, .reload⟩
  pure (Timer.getConfigRegisters seen.1 seen.2)

/-- `Timer_Apbctrl…_start`. -/
def startSteps (timer : TimerRef) : Steps Empty (World σ) Unit := do
  let t ← .once (descriptor timer)
  .once (vectorDisable (group.interruptNumber t.id))
  Timer.startSteps device ⟨t.regs, .control⟩
  .once (vectorEnable (group.interruptNumber t.id))

/-- `Timer_Apbctrl…_stop`. -/
def stopSteps (timer : TimerRef) : Steps Empty (World σ) Unit := do
  let t ← .once (descriptor timer)
  .once (vectorDisable (group.interruptNumber t.id))
  setFlagSteps device ⟨t.regs, .control⟩ false Control.EN

/-- `Timer_Apbctrl…_shutdown`. -/
def shutdownSteps (timer : TimerRef) : Steps Empty (World σ) Unit := do
  let t ← .once (descriptor timer)
  .once (vectorDisable (group.interruptNumber t.id))
  setFlagSteps device ⟨t.regs, .control⟩ false Control.EN
  irqDeinitSteps (rtemsInterruptEntry timer) (group.interruptNumber t.id)

/-- `Timer_Apbctrl…_getCounterValue`. -/
def getCounterValueSteps (timer : TimerRef) : Steps Empty (World σ) Word := do
  let t ← .once (descriptor timer)
  .once (readRegister device ⟨t.regs, .counter⟩)

/-- `Timer_Apbctrl…_hasFinished`. -/
def hasFinishedSteps (order : Order) (timer : TimerRef) : Steps Empty (World σ) Bool := do
  let t ← .once (descriptor timer)
  let seen ← lookSteps device order ⟨t.regs, .control⟩ ⟨t.regs, .counter⟩
  pure (Timer.hasFinished seen.1 seen.2)

end Group

/-- A call as its accesses, where `order` is that of its arguments. The two writes of
the scaler count as one. -/
def steps (order : Call → Order) (call : Call) : Steps Empty (World σ) Answer :=
  match call with
  | .init id timer handler => do group.initSteps device id timer handler; pure .done
  | .setConfigRegisters timer config => do group.setConfigRegistersSteps device timer config; pure .done
  | .getConfigRegisters timer => do
    let config ← Group.getConfigRegistersSteps device (order call) timer
    pure (.config config)
  | .start timer => do group.startSteps device timer; pure .done
  | .stop timer => do group.stopSteps device timer; pure .done
  | .shutdown timer => do group.shutdownSteps device timer; pure .done
  | .getCounterValue timer => do let value ← Group.getCounterValueSteps device timer; pure (.count value)
  | .hasFinished timer => do let result ← Group.hasFinishedSteps device (order call) timer; pure (.flag result)
  | call => .once (exec group device call)

end Steps

/-- A look changes nothing, so that either order will do. -/
theorem hasFinishedSteps_atomic (group : Group) (order : Order) (timer : TimerRef) :
    (Group.hasFinishedSteps group.gptimers order timer).atomic = Group.hasFinished group.gptimers timer := by
  cases order <;> rfl

theorem getConfigRegistersSteps_atomic (group : Group) (order : Order) (timer : TimerRef) :
    (Group.getConfigRegistersSteps group.gptimers order timer).atomic = Group.getConfigRegisters group.gptimers timer := by
  cases order <;> rfl

/-- A call is its accesses. -/
theorem steps_atomic (group : Group) (order : Call → Order) (call : Call) :
    (steps group group.gptimers order call).atomic = exec group group.gptimers call := by
  cases call with
  | getConfigRegisters timer =>
    rw [steps, Steps.atomic_bind, getConfigRegistersSteps_atomic]
    rfl
  | hasFinished timer =>
    rw [steps, Steps.atomic_bind, hasFinishedSteps_atomic]
    rfl
  | _ => rfl

/-- What can be seen of a world. -/
def World.settled (w : World Gptimers) : World Gptimers :=
  { w with hw := w.hw.settled }

section Clock

variable (base : Nat) {w v : World Gptimers}

/-- A clock of the system. -/
def clocked (w : World Gptimers) : World Gptimers :=
  w.afterTick (Gptimers.device base)

theorem seen_iff : w.settled = v.settled ↔ w.timers = v.timers ∧ w.rtems = v.rtems ∧ w.hw.settled = v.hw.settled := by
  simp [World.settled]

theorem clocked_seen (w v : World Gptimers) (same : w.settled = v.settled) : (clocked base w).settled = (clocked base v).settled := by
  obtain ⟨timers, rtems, hw⟩ := seen_iff.1 same
  have clock : w.hw.clock.settled = v.hw.clock.settled := by rw [Gptimers.settled_clock, hw, ← Gptimers.settled_clock]
  exact seen_iff.2 ⟨timers, rtems, clock⟩

theorem clocked_iterate (n : Nat) (w : World Gptimers) : (clocked base)^[n] w = { w with hw := Gptimers.clock^[n] w.hw } := by
  induction n generalizing w with
  | zero => rfl
  | succ n ih => exact ih (clocked base w)

/-- The timer with the registers at `pointer` is stopped. -/
def Halted (pointer : Nat) (w : World Gptimers) : Prop :=
  w.hw.StoppedAt base pointer

/-- The timer of the descriptor is stopped. -/
def HaltedOf (timer : TimerRef) (w : World Gptimers) : Prop :=
  w.hw.StoppedAt base (w.timers timer).regs

variable {base}

theorem stable_true : Stable (clocked base) World.settled fun _ => True :=
  ⟨fun _ _ => trivial, fun _ _ _ _ => trivial⟩

theorem stable_halted (pointer : Nat) : Stable (clocked base) World.settled (Halted base pointer) :=
  ⟨fun _ halted => Gptimers.stoppedAt_clock halted, fun _ _ same => Gptimers.stoppedAt_seen (seen_iff.1 same).2.2⟩

theorem stable_haltedOf (timer : TimerRef) : Stable (clocked base) World.settled (HaltedOf base timer) := by
  refine ⟨fun _ halted => Gptimers.stoppedAt_clock halted, fun w v same halted => ?_⟩
  obtain ⟨timers, -, hw⟩ := seen_iff.1 same
  unfold HaltedOf
  rw [← timers]
  exact Gptimers.stoppedAt_seen hw halted

end Clock

section Accesses

variable {base : Nat} {I : World Gptimers → Prop}

/-- What is done to the world before a clock or after it. -/
theorem mover_act {α : Type} {g : World Gptimers → α × World Gptimers} (result : ∀ w, I w → (g (clocked base w)).1 = (g w).1)
    (after : ∀ w, I w → (g (clocked base w)).2.settled = (clocked base (g w).2).settled) (keeps : ∀ w, I w → I (g w).2) :
    Mover (clocked base) World.settled I (act g : Driver Gptimers α) := by
  refine ⟨fun w holds => ⟨(g w).1, (g w).2, (g (clocked base w)).2, rfl, ?_, after w holds⟩, fun w a v holds ran => ?_⟩
  · rw [act, ← result w holds]
  · have ended : g w = (a, v) := Except.ok.inj ran
    have kept := keeps w holds
    rwa [ended] at kept

theorem mover_descriptor (timer : TimerRef) : Mover (clocked base) World.settled I (descriptor timer : Driver Gptimers Timer) :=
  mover_act (fun _ _ => rfl) (fun _ _ => rfl) fun _ holds => holds

theorem mover_rtems (f : Rtems → Rtems) (kept : ∀ w rtems, I w → I { w with rtems }) :
    Mover (clocked base) World.settled I (rtems f : Driver Gptimers Unit) :=
  mover_act (fun _ _ => rfl) (fun _ _ => rfl) fun w holds => kept w _ holds

theorem mover_modifyDescriptor (timer : TimerRef) (f : Timer → Timer) :
    Mover (clocked base) World.settled (fun _ => True) (modifyDescriptor timer f : Driver Gptimers Unit) :=
  mover_act (fun _ _ => rfl) (fun _ _ => rfl) fun _ _ => trivial

/-- A register that stands still is read. -/
theorem mover_readRegister {r : Register} (still : ∀ w, I w → w.hw.clock.read base r = w.hw.read base r) :
    Mover (clocked base) World.settled I (readRegister (Gptimers.device base) r) :=
  mover_act (fun w holds => still w holds) (fun _ _ => rfl) fun _ holds => holds

theorem mover_configuration (value : Word) : Mover (clocked base) World.settled (fun _ => True)
    (writeRegister (Gptimers.device base) ⟨base, .configuration⟩ value) := by
  refine mover_act (fun _ _ => rfl) (fun w _ => seen_iff.2 ⟨rfl, rfl, ?_⟩) fun _ _ => trivial
  show (w.hw.clock.write base ⟨base, .configuration⟩ value).settled = (w.hw.write base ⟨base, .configuration⟩ value).clock.settled
  unfold Gptimers.write Gptimers.clock
  simp only [if_true]
  split <;> rfl

/-- A stopped timer is written and stays stopped. -/
theorem mover_writeRegister {pointer : Nat} {field : Field} {value : Word}
    (own : field = .counter ∨ field = .reload ∨ field = .control) (clear : field = .control → getFlag value Control.EN = false) :
    Mover (clocked base) World.settled (Halted base pointer) (writeRegister (Gptimers.device base) ⟨pointer, field⟩ value) := by
  refine mover_act (fun _ _ => rfl) (fun w halted => seen_iff.2 ⟨rfl, rfl, ?_⟩) fun w halted => ?_
  · exact (Gptimers.clock_write own halted clear).symm
  · exact Gptimers.stoppedAt_write own (.inr halted) clear

theorem sees_act {α : Type} {g : World Gptimers → α × World Gptimers} (result : ∀ w v, w.settled = v.settled → (g v).1 = (g w).1)
    (after : ∀ w v, w.settled = v.settled → (g w).2.settled = (g v).2.settled) :
    Respects (Seen World.settled) (act g : Driver Gptimers α) :=
  fun w v same => alike_act (result w v same) (after w v same)

theorem sees_descriptor (timer : TimerRef) : Respects (Seen World.settled) (descriptor timer : Driver Gptimers Timer) :=
  sees_act (fun _ _ same => (congrFun (seen_iff.1 same).1 timer).symm) fun _ _ same => same

theorem sees_modifyDescriptor (timer : TimerRef) (f : Timer → Timer) :
    Respects (Seen World.settled) (modifyDescriptor timer f : Driver Gptimers Unit) := by
  refine sees_act (fun _ _ _ => rfl) fun w v same => ?_
  obtain ⟨timers, rtems, hw⟩ := seen_iff.1 same
  refine seen_iff.2 ⟨?_, rtems, hw⟩
  rw [World.withTimer_timers, World.withTimer_timers, timers]

theorem sees_rtems (f : Rtems → Rtems) : Respects (Seen World.settled) (rtems f : Driver Gptimers Unit) := by
  refine sees_act (fun _ _ _ => rfl) fun w v same => ?_
  obtain ⟨timers, rtems, hw⟩ := seen_iff.1 same
  exact seen_iff.2 ⟨timers, congrArg f rtems, hw⟩

theorem sees_readRegister (r : Register) : Respects (Seen World.settled) (readRegister (Gptimers.device base) r) := by
  refine sees_act (fun w v same => ?_) fun _ _ same => same
  show v.hw.read base r = w.hw.read base r
  rw [← Gptimers.settled_read, ← Gptimers.settled_read base r w.hw, (seen_iff.1 same).2.2]

theorem sees_writeRegister (r : Register) (value : Word) :
    Respects (Seen World.settled) (writeRegister (Gptimers.device base) r value) := by
  refine sees_act (fun _ _ _ => rfl) fun w v same => ?_
  obtain ⟨timers, rtems, hw⟩ := seen_iff.1 same
  refine seen_iff.2 ⟨timers, rtems, ?_⟩
  show (w.hw.write base r value).settled = (v.hw.write base r value).settled
  rw [Gptimers.settled_write, hw, ← Gptimers.settled_write]

end Accesses

section Blocks

variable {base : Nat} {I : World Gptimers → Prop}

theorem sees_setFlagSteps (r : Register) (isSet : Bool) (flag : Nat) :
    Respectful (Seen World.settled) (setFlagSteps (Gptimers.device base) r isSet flag) :=
  (respectful_once (sees_readRegister r)).bind fun _ => respectful_once (sees_writeRegister r _)

/-- A flag that does not enable is set while the timer is stopped. -/
theorem drifts_setFlagSteps (pointer : Nat) (isSet : Bool) {flag : Nat} (other : flag ≠ Control.EN) (inside : flag < 32) :
    Drifts (clocked base) World.settled (Halted base pointer) (setFlagSteps (Gptimers.device base) ⟨pointer, .control⟩ isSet flag) := by
  refine ⟨mover_readRegister fun w halted => Gptimers.read_stopped halted (.inr (.inr rfl)), fun w value w' halted ran => ?_⟩
  have looked : value = w.hw.read base ⟨pointer, .control⟩ := congrArg Prod.fst (Except.ok.inj ran).symm
  refine ⟨mover_writeRegister (.inr (.inr rfl)) fun _ => ?_, fun _ _ _ _ _ => trivial⟩
  rw [getFlag_withFlag _ _ inside, if_neg (Ne.symm other), looked]
  exact halted

/-- `EN` is cleared at the write, whatever it was when it was read. -/
theorem whole_clear (pointer : Nat) (w : World Gptimers) : Whole (clocked base) World.settled
    (setFlagSteps (Gptimers.device base) ⟨pointer, .control⟩ false Control.EN) w := by
  refine whole_pair (r := fun _ done => done) (clocked_seen base) (fun w n value w₁ u w₂ looked wrote => ?_) w
  cases looked
  refine ⟨n, 0, w₂, rfl, ?_, rfl⟩
  rw [clocked_iterate] at wrote ⊢
  show writeRegister (Gptimers.device base) ⟨pointer, .control⟩
    (withFlag ((Gptimers.clock^[n] w.hw).read base ⟨pointer, .control⟩) false Control.EN) _ = _
  rw [Gptimers.clocks_clear]
  exact wrote

/-- Cleared, the timer is stopped. -/
theorem halted_clear {pointer : Nat} {w v : World Gptimers} {u : Unit}
    (ran : (setFlagSteps (Gptimers.device base) ⟨pointer, .control⟩ false Control.EN).atomic w = .ok (u, v)) : Halted base pointer v := by
  cases ran
  refine Gptimers.stoppedAt_write (.inr (.inr rfl)) (.inl rfl) fun _ => ?_
  rw [getFlag_withFlag _ _ (by decide), if_pos rfl]

/-- A stopped timer is enabled by the last write. -/
theorem whole_startSteps {pointer : Nat} {w : World Gptimers} (halted : Halted base pointer w) :
    Whole (clocked base) World.settled (Timer.startSteps (Gptimers.device base) ⟨pointer, .control⟩) w := by
  have read : Mover (clocked base) World.settled (Halted base pointer) (readRegister (Gptimers.device base) ⟨pointer, .control⟩) :=
    mover_readRegister fun w halted => Gptimers.read_stopped halted (.inr (.inr rfl))
  refine whole_before (clocked_seen base) (drifts_setFlagSteps pointer true (by decide) (by decide)) (sees_setFlagSteps _ _ _)
    (fun _ => sees_setFlagSteps _ _ _) (stable_halted pointer) halted fun _ _ _ w' _ _ _ halted' => ?_
  exact whole_before (clocked_seen base) ⟨read, fun _ _ _ _ _ => trivial⟩ (respectful_once (sees_readRegister _))
    (fun _ => respectful_once (sees_writeRegister _ _)) (stable_halted pointer) halted' fun _ _ _ _ _ _ _ _ => whole_once _ _

theorem sees_baseInitSteps : Respectful (Seen World.settled) (baseInitSteps (Gptimers.device base) ⟨base, .configuration⟩) :=
  (sees_setFlagSteps _ _ _).bind fun _ => sees_setFlagSteps _ _ _

/-- No clock touches the configuration of the group. -/
theorem drifts_baseInitSteps : Drifts (clocked base) World.settled (fun _ => True)
    (baseInitSteps (Gptimers.device base) ⟨base, .configuration⟩) := by
  have still (g : Gptimers) : g.clock.read base ⟨base, .configuration⟩ = g.read base ⟨base, .configuration⟩ := by
    unfold Gptimers.read Gptimers.clock
    simp only [if_true]
    split <;> rfl
  have setFlag (flag : Nat) : Drifts (clocked base) World.settled (fun _ => True)
      (setFlagSteps (Gptimers.device base) ⟨base, .configuration⟩ true flag) :=
    (drifts_once (mover_readRegister fun w _ => still w.hw)).bind fun _ => drifts_once (mover_configuration _)
  exact (setFlag _).bind fun _ => setFlag _

end Blocks

section Calls

variable (group : Group)

/-- Clocks do not divide the call: it does not set the scaler, it leaves its timer
disabled or alone, or it starts a timer that is stopped. -/
def Undividable (w : World Gptimers) : Call → Prop
  | .setBaseScalerReloadValue _ _ | .tick => False
  | .setConfigRegisters _ config => config.isEnabled = false
  | .start timer => HaltedOf group.addressBase timer w
  | _ => True

variable {group} {w : World Gptimers}

/-- The descriptor is read first. -/
theorem whole_descriptor {α : Type} {I : World Gptimers → Prop} {timer : TimerRef} {f : Timer → Steps Empty (World Gptimers) α}
    (stable : Stable (clocked group.addressBase) World.settled I) (holds : I w)
    (sees : ∀ t, Respectful (Seen World.settled) (f t))
    (then_ : ∀ w, I w → Whole (clocked group.addressBase) World.settled (f (w.timers timer)) w) :
    Whole (clocked group.addressBase) World.settled (Steps.once (descriptor timer) >>= f) w := by
  refine whole_before (clocked_seen _) (drifts_once (mover_descriptor timer)) (respectful_once (sees_descriptor timer)) sees stable
    holds fun t w₀ w₁ w' _ ran same holds' => ?_
  cases ran
  rw [(seen_iff.1 same).1]
  exact then_ w' holds'

/-- And then the vector is masked. -/
theorem whole_masked {α : Type} {I : World Gptimers → Prop} {vector : Nat} {f : Unit → Steps Empty (World Gptimers) α}
    (stable : Stable (clocked group.addressBase) World.settled I) (kept : ∀ w rtems, I w → I { w with rtems }) (holds : I w)
    (sees : ∀ u, Respectful (Seen World.settled) (f u))
    (then_ : ∀ w, I w → Whole (clocked group.addressBase) World.settled (f ()) w) :
    Whole (clocked group.addressBase) World.settled (Steps.once (vectorDisable vector) >>= f) w :=
  whole_before (clocked_seen _) (drifts_once (mover_rtems _ kept)) (respectful_once (sees_rtems _)) sees stable holds
    fun _ _ _ w' _ _ _ holds' => then_ w' holds'

section Sees

variable {base : Nat}

theorem sees_service (f : Rtems → Rtems) : Respectful (Seen World.settled) (Steps.once (rtems f : Driver Gptimers Unit)) :=
  respectful_once (sees_rtems f)

theorem sees_look (r : Register) : Respectful (Seen World.settled) (Steps.once (readRegister (Gptimers.device base) r)) :=
  respectful_once (sees_readRegister r)

theorem sees_store (r : Register) (value : Word) :
    Respectful (Seen World.settled) (Steps.once (writeRegister (Gptimers.device base) r value)) :=
  respectful_once (sees_writeRegister r value)

/-- The flags after `EN`, and the reload value. -/
def settingSteps (device : Device Gptimers) (control reload : Register) (config : Config) : Steps Empty (World Gptimers) Unit := do
  setFlagSteps device control config.isInterruptEnabled Control.IE
  setFlagSteps device control config.isAutoReloaded Control.RS
  setFlagSteps device control config.isChained Control.CH
  .once (writeRegister device reload config.reloadValue)

theorem sees_settingSteps (control reload : Register) (config : Config) :
    Respectful (Seen World.settled) (settingSteps (Gptimers.device base) control reload config) :=
  (sees_setFlagSteps _ _ _).bind fun _ => (sees_setFlagSteps _ _ _).bind fun _ => (sees_setFlagSteps _ _ _).bind fun _ =>
    sees_store _ _

theorem drifts_settingSteps (pointer : Nat) (config : Config) : Drifts (clocked base) World.settled (Halted base pointer)
    (settingSteps (Gptimers.device base) ⟨pointer, .control⟩ ⟨pointer, .reload⟩ config) :=
  (drifts_setFlagSteps pointer _ (by decide) (by decide)).bind fun _ =>
    (drifts_setFlagSteps pointer _ (by decide) (by decide)).bind fun _ =>
    (drifts_setFlagSteps pointer _ (by decide) (by decide)).bind fun _ =>
    drifts_once (mover_writeRegister (.inr (.inl rfl)) fun other => by cases other)

end Sees

/-- The vector is unmasked last. -/
theorem whole_unmasked {vector : Nat} {p : Steps Empty (World Gptimers) Unit}
    (whole : Whole (clocked group.addressBase) World.settled p w) : Whole (clocked group.addressBase) World.settled
      (p >>= fun _ => Steps.once (vectorEnable vector)) w :=
  whole_after (clocked_seen _) whole stable_true
    (fun _ _ _ _ => ⟨trivial, drifts_once (mover_rtems _ fun _ _ _ => trivial)⟩) fun _ => sees_service _

theorem whole_setConfigRegisters (timer : TimerRef) {config : Config} (disabled : config.isEnabled = false) :
    Whole (clocked group.addressBase) World.settled (group.setConfigRegistersSteps group.gptimers timer config) w := by
  have sees (t : Timer) : Respectful (Seen World.settled) (Timer.setConfigRegistersSteps group.gptimers ⟨t.regs, .control⟩
      ⟨t.regs, .reload⟩ config >>= fun _ => Steps.once (vectorEnable (group.interruptNumber t.id))) :=
    ((sees_setFlagSteps _ _ _).bind fun _ => sees_settingSteps _ _ _).bind fun _ => sees_service _
  refine whole_descriptor stable_true trivial (fun t => (sees_service _).bind fun _ => sees t) fun w _ => ?_
  refine whole_masked stable_true (fun _ _ _ => trivial) trivial (fun _ => sees _) fun w' _ => whole_unmasked ?_
  -- the first flag stops the timer, and then clocks pass
  unfold Timer.setConfigRegistersSteps
  rw [disabled]
  exact whole_after (clocked_seen _) (whole_clear _ w') (stable_halted _)
    (fun _ _ _ ran => ⟨halted_clear ran, drifts_settingSteps _ config⟩) fun _ => sees_settingSteps _ _ _

theorem whole_start {timer : TimerRef} (halted : HaltedOf group.addressBase timer w) :
    Whole (clocked group.addressBase) World.settled (group.startSteps group.gptimers timer) w := by
  have sees (t : Timer) : Respectful (Seen World.settled) (Timer.startSteps group.gptimers ⟨t.regs, .control⟩ >>=
      fun _ => Steps.once (vectorEnable (group.interruptNumber t.id))) :=
    ((sees_setFlagSteps _ _ _).bind fun _ => sees_setFlagSteps _ _ _).bind fun _ => sees_service _
  refine whole_descriptor (stable_haltedOf timer) halted (fun t => (sees_service _).bind fun _ => sees t) fun w halted => ?_
  exact whole_masked (stable_halted _) (fun _ _ holds => holds) halted (fun _ => sees _)
    fun w' halted' => whole_unmasked (whole_startSteps halted')

theorem whole_stop (timer : TimerRef) :
    Whole (clocked group.addressBase) World.settled (group.stopSteps group.gptimers timer) w := by
  refine whole_descriptor stable_true trivial (fun t => (sees_service _).bind fun _ => sees_setFlagSteps _ _ _) fun w _ => ?_
  exact whole_masked stable_true (fun _ _ _ => trivial) trivial (fun _ => sees_setFlagSteps _ _ _) fun w' _ => whole_clear _ w'

theorem whole_shutdown (timer : TimerRef) :
    Whole (clocked group.addressBase) World.settled (group.shutdownSteps group.gptimers timer) w := by
  have deinit (t : Timer) : Respectful (Seen World.settled)
      (irqDeinitSteps (rtemsInterruptEntry timer) (group.interruptNumber t.id) : Steps Empty (World Gptimers) Unit) :=
    (sees_service _).bind fun _ => sees_service _
  have sees (t : Timer) : Respectful (Seen World.settled) (setFlagSteps group.gptimers ⟨t.regs, .control⟩ false Control.EN >>=
      fun _ => irqDeinitSteps (rtemsInterruptEntry timer) (group.interruptNumber t.id)) :=
    (sees_setFlagSteps _ _ _).bind fun _ => deinit t
  have drifts (t : Timer) : Drifts (clocked group.addressBase) World.settled (fun _ => True)
      (irqDeinitSteps (rtemsInterruptEntry timer) (group.interruptNumber t.id)) :=
    (drifts_once (mover_rtems _ fun _ _ _ => trivial)).bind fun _ => drifts_once (mover_rtems _ fun _ _ _ => trivial)
  refine whole_descriptor stable_true trivial (fun t => (sees_service _).bind fun _ => sees t) fun w _ => ?_
  refine whole_masked stable_true (fun _ _ _ => trivial) trivial (fun _ => sees _) fun w' _ => ?_
  exact whole_after (clocked_seen _) (whole_clear _ w') stable_true (fun _ _ _ _ => ⟨trivial, drifts _⟩) fun _ => deinit _

theorem whole_getCounterValue (timer : TimerRef) :
    Whole (clocked group.addressBase) World.settled (Group.getCounterValueSteps group.gptimers timer) w :=
  whole_descriptor stable_true trivial (fun _ => sees_look _) fun w _ => whole_once _ w

theorem sees_lookSteps (base : Nat) (order : Order) (control other : Register) :
    Respectful (Seen World.settled) (lookSteps (Gptimers.device base) order control other) := by
  cases order with
  | controlFirst | controlLast => exact (sees_look _).bind fun _ => (sees_look _).bind fun _ => respectful_pure _

/-- What is told from two looks at the registers of a timer, in either order, is
right at a clock between them. -/
theorem whole_look {α : Type} {base pointer : Nat} {field : Field} (order : Order) (r : Word → Word → α)
    (first : ∀ n g, ∃ j k, j + k = n ∧
      r (Gptimers.read base ⟨pointer, .control⟩ g) ((Gptimers.clock^[n] g).read base ⟨pointer, field⟩) =
        r ((Gptimers.clock^[j] g).read base ⟨pointer, .control⟩) ((Gptimers.clock^[j] g).read base ⟨pointer, field⟩))
    (last : ∀ n g, ∃ j k, j + k = n ∧
      r ((Gptimers.clock^[n] g).read base ⟨pointer, .control⟩) (Gptimers.read base ⟨pointer, field⟩ g) =
        r ((Gptimers.clock^[j] g).read base ⟨pointer, .control⟩) ((Gptimers.clock^[j] g).read base ⟨pointer, field⟩))
    (w : World Gptimers) : Whole (clocked base) World.settled
      (lookSteps (Gptimers.device base) order ⟨pointer, .control⟩ ⟨pointer, field⟩ >>= fun seen => pure (r seen.1 seen.2)) w := by
  have together {n j k : Nat} (sum : j + k = n) (v : World Gptimers) : ((clocked base)^[k] ((clocked base)^[j] v)).settled =
      World.settled { v with hw := Gptimers.clock^[n] v.hw } := by
    rw [← Function.iterate_add_apply, Nat.add_comm k j, sum, clocked_iterate]
  cases order with
  | controlFirst =>
    refine whole_pair (r := r) (clocked_seen base) (fun v n control v₁ other v₂ looked looked' => ?_) w
    cases looked
    rw [clocked_iterate] at looked'
    cases looked'
    obtain ⟨j, k, sum, same⟩ := first n v.hw
    refine ⟨j, k, (clocked base)^[j] v, sum, ?_, together sum v⟩
    rw [clocked_iterate]
    exact congrArg (fun a => Except.ok (a, _)) same.symm
  | controlLast =>
    refine whole_pair (r := fun other control => r control other) (clocked_seen base)
      (fun v n other v₁ control v₂ looked looked' => ?_) w
    cases looked
    rw [clocked_iterate] at looked'
    cases looked'
    obtain ⟨j, k, sum, same⟩ := last n v.hw
    refine ⟨j, k, (clocked base)^[j] v, sum, ?_, together sum v⟩
    rw [clocked_iterate]
    exact congrArg (fun a => Except.ok (a, _)) same.symm

/-- The configuration is that of the look at the control register. -/
theorem whole_getConfigRegisters (order : Order) (timer : TimerRef) :
    Whole (clocked group.addressBase) World.settled (Group.getConfigRegistersSteps group.gptimers order timer) w := by
  refine whole_descriptor stable_true trivial (fun t => (sees_lookSteps _ _ _ _).bind fun _ => respectful_pure _) fun w _ => ?_
  refine whole_look order Timer.getConfigRegisters (fun n g => ⟨0, n, Nat.zero_add n, ?_⟩) (fun n g => ⟨n, 0, Nat.add_zero n, ?_⟩) w
  · rw [Gptimers.clocks_reload]
    rfl
  · rw [Gptimers.clocks_reload]

/-- A timer has finished or not at the look at its control register, or at that at its
counter before. -/
theorem whole_hasFinished (order : Order) (timer : TimerRef) :
    Whole (clocked group.addressBase) World.settled (Group.hasFinishedSteps group.gptimers order timer) w := by
  refine whole_descriptor stable_true trivial (fun t => (sees_lookSteps _ _ _ _).bind fun _ => respectful_pure _) fun w _ => ?_
  exact whole_look order Timer.hasFinished (fun n g => ⟨0, n, Nat.zero_add n, Gptimers.hasFinished_clocks _ _ n g⟩)
    (fun n g => Gptimers.hasFinished_last _ _ n g) w

/-- The timer is stopped by the first write to its registers. -/
theorem whole_init (id : Id) (timer : TimerRef) (handler : InterruptHandler) :
    Whole (clocked group.addressBase) World.settled (group.initSteps group.gptimers id timer handler) w := by
  have zero : getFlag 0 Control.EN = false := by decide
  have sees : Respectful (Seen World.settled) (do
      .once (writeRegister group.gptimers ⟨group.addressById id, .counter⟩ 0)
      .once (writeRegister group.gptimers ⟨group.addressById id, .reload⟩ 0)
      irqInitSteps (rtemsInterruptEntry timer) (group.interruptNumber id)) :=
    (sees_store _ _).bind fun _ => (sees_store _ _).bind fun _ => (sees_service _).bind fun _ =>
      (sees_service _).bind fun _ => sees_service _
  have sees' : Respectful (Seen World.settled) (do
      .once (writeRegister group.gptimers ⟨group.addressById id, .control⟩ 0)
      .once (writeRegister group.gptimers ⟨group.addressById id, .counter⟩ 0)
      .once (writeRegister group.gptimers ⟨group.addressById id, .reload⟩ 0)
      irqInitSteps (rtemsInterruptEntry timer) (group.interruptNumber id)) := (sees_store _ _).bind fun _ => sees
  have assign (f : Timer → Timer) : Drifts (clocked group.addressBase) World.settled (fun _ => True)
      (Steps.once (modifyDescriptor timer f : Driver Gptimers Unit)) := drifts_once (mover_modifyDescriptor timer f)
  have assigns (f : Timer → Timer) : Respectful (Seen World.settled) (Steps.once (modifyDescriptor timer f : Driver Gptimers Unit)) :=
    respectful_once (sees_modifyDescriptor timer f)
  refine whole_before (clocked_seen _) (assign _) (assigns _)
    (fun _ => sees_baseInitSteps.bind fun _ => (assigns _).bind fun _ => sees') stable_true trivial fun _ _ _ w₁ _ _ _ _ => ?_
  refine whole_before (clocked_seen _) drifts_baseInitSteps sees_baseInitSteps (fun _ => (assigns _).bind fun _ => sees')
    stable_true trivial fun _ _ _ w₂ _ _ _ _ => ?_
  refine whole_before (clocked_seen _) (assign _) (assigns _) (fun _ => sees') stable_true trivial fun _ _ _ w₃ _ _ _ _ => ?_
  refine whole_after (clocked_seen _) (whole_once _ w₃) (stable_halted (group.addressById id)) (fun j _ w' ran => ⟨?_, ?_⟩)
    fun _ => sees
  · cases ran
    exact Gptimers.stoppedAt_write (.inr (.inr rfl)) (.inl rfl) fun _ => zero
  · have keeps (w : World Gptimers) (rtems : Rtems) (halted : Halted group.addressBase (group.addressById id) w) :
        Halted group.addressBase (group.addressById id) { w with rtems } := halted
    exact (drifts_once (mover_writeRegister (.inl rfl) fun other => by cases other)).bind fun _ =>
      (drifts_once (mover_writeRegister (.inr (.inl rfl)) fun other => by cases other)).bind fun _ =>
      (drifts_once (mover_rtems _ keeps)).bind fun _ => (drifts_once (mover_rtems _ keeps)).bind fun _ =>
      drifts_once (mover_rtems _ keeps)

/-- **A call goes as a whole** between two clocks. -/
theorem whole_steps (order : Call → Order) {call : Call} (undividable : Undividable group w call) :
    Whole (clocked group.addressBase) World.settled (steps group group.gptimers order call) w := by
  have answers {α : Type} {p : Steps Empty (World Gptimers) α} (answer : α → Answer)
      (whole : Whole (clocked group.addressBase) World.settled p w) : Whole (clocked group.addressBase) World.settled
        (p >>= fun a => pure (answer a)) w :=
    whole_after (clocked_seen _) whole stable_true (fun _ _ _ _ => ⟨trivial, trivial⟩) fun _ => respectful_pure _
  cases call with
  | init id timer handler => exact answers _ (whole_init id timer handler)
  | setBaseScalerReloadValue => exact undividable.elim
  | setConfigRegisters timer config => exact answers _ (whole_setConfigRegisters timer undividable)
  | getConfigRegisters timer => exact answers _ (whole_getConfigRegisters _ timer)
  | start timer => exact answers _ (whole_start undividable)
  | stop timer => exact answers _ (whole_stop timer)
  | shutdown timer => exact answers _ (whole_shutdown timer)
  | getCounterValue timer => exact answers _ (whole_getCounterValue timer)
  | hasFinished timer => exact answers _ (whole_hasFinished _ timer)
  | tick => exact undividable.elim

/-- Enabling a timer is no whole: a clock right after `EN` was set finds the timer
at zero, before it was told to start over, and leaves it disabled. -/
theorem enabling_divided (order : Call → Order) : ¬ Whole (clocked 0x80000300) World.settled
    (steps apbctrl1 apbctrl1.gptimers order (.setConfigRegisters 0 ⟨true, true, true, false, 9⟩))
    { Gptimers.blank with timers := fun _ => ⟨.id1, 0x80000300, 0x80000310, ⟨0, 0⟩⟩ } := by
  intro whole
  have paced := whole 1 .done _ <| .stepped rfl <| .stepped rfl <| .stepped rfl <| .stepped rfl <| .ticked <| .stepped rfl <|
    .stepped rfl <| .stepped rfl <| .stepped rfl <| .stepped rfl <| .stepped rfl <| .stepped rfl <| .stepped rfl <| .done _ _
  obtain ⟨j, k, t, sum, ran, same⟩ := paced
  have control := congrArg (fun w : World Gptimers => w.hw.read 0x80000300 ⟨0x80000310, .control⟩) same
  have split : (j = 0 ∧ k = 1) ∨ (j = 1 ∧ k = 0) := by omega
  rcases split with ⟨rfl, rfl⟩ | ⟨rfl, rfl⟩ <;> cases ran <;> revert control <;> decide

/-- What a call does can be seen alike. -/
theorem sees_steps (order : Call → Order) (call : Call) :
    Respectful (Seen World.settled) (steps group group.gptimers order call) := by
  have answers {α : Type} {p : Steps Empty (World Gptimers) α} (answer : α → Answer) (sees : Respectful (Seen World.settled) p) :
      Respectful (Seen World.settled) (p >>= fun a => pure (answer a)) := sees.bind fun _ => respectful_pure _
  have assign (timer : TimerRef) (f : Timer → Timer) : Respectful (Seen World.settled)
      (Steps.once (modifyDescriptor timer f : Driver Gptimers Unit)) := respectful_once (sees_modifyDescriptor timer f)
  have look (timer : TimerRef) : Respectful (Seen World.settled) (Steps.once (descriptor timer : Driver Gptimers Timer)) :=
    respectful_once (sees_descriptor timer)
  cases call with
  | init id timer handler =>
    exact answers _ ((assign _ _).bind fun _ => sees_baseInitSteps.bind fun _ => (assign _ _).bind fun _ =>
      (sees_store _ _).bind fun _ => (sees_store _ _).bind fun _ => (sees_store _ _).bind fun _ =>
      (sees_service _).bind fun _ => (sees_service _).bind fun _ => sees_service _)
  | setBaseScalerReloadValue timer value =>
    exact respectful_once (((sees_descriptor timer).bind fun _ => (sees_writeRegister _ _).bind fun _ =>
      sees_writeRegister _ _).bind fun _ => respects_pure _)
  | setConfigRegisters timer config =>
    exact answers _ ((look _).bind fun _ => (sees_service _).bind fun _ => ((sees_setFlagSteps _ _ _).bind fun _ =>
      sees_settingSteps _ _ _).bind fun _ => sees_service _)
  | getConfigRegisters timer =>
    exact answers _ ((look _).bind fun _ => (sees_lookSteps _ _ _ _).bind fun _ => respectful_pure _)
  | start timer =>
    exact answers _ ((look _).bind fun _ => (sees_service _).bind fun _ => ((sees_setFlagSteps _ _ _).bind fun _ =>
      sees_setFlagSteps _ _ _).bind fun _ => sees_service _)
  | stop timer => exact answers _ ((look _).bind fun _ => (sees_service _).bind fun _ => sees_setFlagSteps _ _ _)
  | shutdown timer =>
    exact answers _ ((look _).bind fun _ => (sees_service _).bind fun _ => (sees_setFlagSteps _ _ _).bind fun _ =>
      (sees_service _).bind fun _ => sees_service _)
  | getCounterValue timer => exact answers _ ((look _).bind fun _ => sees_look _)
  | hasFinished timer =>
    exact answers _ ((look _).bind fun _ => (sees_lookSteps _ _ _ _).bind fun _ => respectful_pure _)
  | tick => exact respectful_once (sees_act (fun _ _ _ => rfl) (clocked_seen group.addressBase))

end Calls

end Leon3Bsp.Timer
