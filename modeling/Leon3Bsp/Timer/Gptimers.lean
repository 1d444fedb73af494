import Leon3Bsp.Lib.Cascade
import Leon3Bsp.Timer.Finished

/-!
# The timers of a group

The hardware of one `GPTIMER`: a scaler that all its timers share and the timers
in a row. A clock counts the scaler down, and the scaler at zero starts over with
a tick of the row. A chained timer waits for the underflow of the one before it.
-/

namespace Leon3Bsp.Timer
set_option autoImplicit false
open Wp Execution Cascade

structure Gptimers where
  scaler : Word
  scalerReload : Word
  configuration : Word
  timers : List Gptimer

/-- A timer in the row: it carries where it underflows. -/
def Gptimer.stage : Stage Gptimer where
  step g := (getFlag g.control Control.EN && g.counter = 0, g.tick)
  gated g := getFlag g.control Control.CH
  gated_step g := g.tick_flag (by decide)

/-- A turn of its stage leaves a timer its reload value and its flags but for `EN`. -/
theorem Gptimer.turn_reload (g : Gptimer) (carry : Bool) : (stage.turn carry g).2.reload = g.reload := by
  unfold Stage.turn
  split
  · rfl
  · exact g.tick_reload

theorem Gptimer.turn_flag (g : Gptimer) (carry : Bool) {flag : Nat} (other : flag ≠ Control.EN) :
    getFlag (stage.turn carry g).2.control flag = getFlag g.control flag := by
  unfold Stage.turn
  split
  · rfl
  · exact g.tick_flag other

namespace Gptimers

/-- A clock of the system. -/
def clock (g : Gptimers) : Gptimers :=
  if g.scaler = 0 then
    { g with scaler := g.scalerReload, timers := Gptimer.stage.round false g.timers }
  else { g with scaler := g.scaler - 1 }

/-- The place in the row of the timer with the registers at `pointer`: the
registers of the timers follow those of the base, sixteen bytes for each. -/
def slot (base pointer : Nat) : Option Nat :=
  if base < pointer ∧ (pointer - base) % 0x10 = 0 then some ((pointer - base) / 0x10 - 1) else none

/-- One timer of the row is changed. -/
def change (slot : Option Nat) (f : Gptimer → Gptimer) (g : Gptimers) : Gptimers :=
  match slot with
  | some n => { g with timers := g.timers.modify n f }
  | none => g

def read (base : Nat) (r : Register) (g : Gptimers) : Word :=
  if r.pointer = base then
    match r.field with
    | .scaler => g.scaler
    | .scalerReload => g.scalerReload
    | .configuration => g.configuration
    | _ => 0
  else ((slot base r.pointer).bind fun n => g.timers[n]?).elim 0 fun timer => timer.read r.field

def write (base : Nat) (r : Register) (value : Word) (g : Gptimers) : Gptimers :=
  if r.pointer = base then
    match r.field with
    | .scaler => { g with scaler := value }
    | .scalerReload => { g with scalerReload := value }
    | .configuration => { g with configuration := value }
    | _ => g
  else g.change (slot base r.pointer) fun timer => timer.write value r.field

def device (base : Nat) : Device Gptimers where
  read r g := (g.read base r, g)
  write := write base
  tick := clock

theorem slot_base (base : Nat) : slot base base = none := by
  simp [slot]

@[simp] theorem change_none (f : Gptimer → Gptimer) (g : Gptimers) : g.change none f = g := rfl

@[simp] theorem change_scaler (slot : Option Nat) (f : Gptimer → Gptimer) (g : Gptimers) :
    (g.change slot f).scaler = g.scaler := by
  cases slot <;> rfl

@[simp] theorem change_scalerReload (slot : Option Nat) (f : Gptimer → Gptimer) (g : Gptimers) :
    (g.change slot f).scalerReload = g.scalerReload := by
  cases slot <;> rfl

/-- Changes of one timer are one change. -/
theorem change_change (slot : Option Nat) (f f' : Gptimer → Gptimer) (g : Gptimers) :
    (g.change slot f).change slot f' = g.change slot (fun timer => f' (f timer)) := by
  cases slot with
  | none => rfl
  | some n =>
    simp only [change, List.modify_modify_eq]
    rfl

/-- A change is told by what it does to the timer as it stands. -/
theorem change_congr {slot : Option Nat} {f f' : Gptimer → Gptimer} {g : Gptimers}
    (same : ∀ timer, (slot.bind fun n => g.timers[n]?) = some timer → f timer = f' timer) :
    g.change slot f = g.change slot f' := by
  cases slot with
  | none => rfl
  | some n =>
    have timers : g.timers.modify n f = g.timers.modify n f' := by
      apply List.ext_getElem?
      intro m
      rw [List.getElem?_modify, List.getElem?_modify]
      cases there : g.timers[m]? with
      | none => rfl
      | some timer =>
        by_cases here : n = m
        · subst here
          simp [same timer there]
        · simp [here]
    rw [change, change, timers]

theorem change_timers (slot : Option Nat) (f : Gptimer → Gptimer) (g : Gptimers) (n : Nat) :
    (g.change slot f).timers[n]? = if slot = some n then g.timers[n]?.map f else g.timers[n]? := by
  cases slot with
  | none => simp
  | some m => simp only [change, List.getElem?_modify, Option.some.injEq]; split <;> simp

/-- A register of a timer is written in its place of the row only. -/
theorem write_timer (base pointer : Nat) {field : Field} (value : Word) (g : Gptimers)
    (own : field = .counter ∨ field = .reload ∨ field = .control) :
    g.write base ⟨pointer, field⟩ value = g.change (slot base pointer) fun timer => timer.write value field := by
  unfold write
  split
  · rename_i same
    rw [show slot base pointer = none from same ▸ slot_base pointer]
    rcases own with rfl | rfl | rfl <;> rfl
  · rfl

/-- So it is read. -/
theorem read_timer (base pointer : Nat) {field : Field} (g : Gptimers)
    (own : field = .counter ∨ field = .reload ∨ field = .control) :
    g.read base ⟨pointer, field⟩ =
      ((slot base pointer).bind fun n => g.timers[n]?).elim 0 fun timer => timer.read field := by
  unfold read
  split
  · rename_i same
    rw [show slot base pointer = none from same ▸ slot_base pointer]
    rcases own with rfl | rfl | rfl <;> rfl
  · rfl

end Gptimers

/-- `init` on the registers of the timer. -/
def Gptimer.cleared (g : Gptimer) : Gptimer :=
  ((g.write 0 .control).write 0 .counter).write 0 .reload

/-- `Timer_setConfigRegisters`. -/
def Gptimer.configured (config : Config) (g : Gptimer) : Gptimer :=
  ((((g.assign config.isEnabled Control.EN).assign config.isInterruptEnabled Control.IE).assign config.isAutoReloaded
    Control.RS).assign config.isChained Control.CH).write config.reloadValue .reload

/-- What the scaler is set to: the argument is converted to the width of the parameter. -/
def Group.scalerValue (group : Group) (scalerReloadValue : Word) : Word :=
  (scalerReloadValue.setWidth group.scalerBits).setWidth 32

/-- What a call does to the hardware. -/
def Group.onGptimers (group : Group) (w : World Gptimers) : Call → Gptimers
  | .init id _ _ =>
    ({ w.hw with
      configuration := withFlag (withFlag w.hw.configuration true Configuration.DF) true Configuration.SI }).change
        (Gptimers.slot group.addressBase (group.addressById id)) Gptimer.cleared
  | .setBaseScalerReloadValue timer value =>
    (w.hw.write group.addressBase ⟨(w.timers timer).base, .scalerReload⟩ (group.scalerValue value)).write group.addressBase
      ⟨(w.timers timer).base, .scaler⟩ (group.scalerValue value)
  | .setConfigRegisters timer config =>
    w.hw.change (Gptimers.slot group.addressBase (w.timers timer).regs) (Gptimer.configured config)
  | .start timer => w.hw.change (Gptimers.slot group.addressBase (w.timers timer).regs) Gptimer.started
  | .stop timer | .shutdown timer =>
    w.hw.change (Gptimers.slot group.addressBase (w.timers timer).regs) (fun g => g.assign false Control.EN)
  | .tick => w.hw.clock
  | _ => w.hw

section Program

variable {may : Empty → Prop} (base : Nat) (w : World Gptimers)

theorem wp_writeRegister_gptimers (pointer : Nat) {field : Field} (value : Word) (Q : Unit → World Gptimers → Prop)
    (own : field = .counter ∨ field = .reload ∨ field = .control) :
    wp may (writeRegister (Gptimers.device base) ⟨pointer, field⟩ value) Q w ↔
      Q () { w with hw := w.hw.change (Gptimers.slot base pointer) fun timer => timer.write value field } := by
  rw [wp_writeRegister, World.afterWrite, ← Gptimers.write_timer base pointer value w.hw own]
  rfl

/-- `Timer_setFlag` is about the timer of the pointer alone. -/
theorem wp_setFlag_gptimers (pointer : Nat) (isSet : Bool) (flag : Nat) (Q : Unit → World Gptimers → Prop) :
    wp may (setFlag (Gptimers.device base) ⟨pointer, .control⟩ isSet flag) Q w ↔
      Q () { w with hw := w.hw.change (Gptimers.slot base pointer) fun timer => timer.assign isSet flag } := by
  have stored : w.hw.change (Gptimers.slot base pointer) (fun timer => timer.write
      (withFlag (w.hw.read base ⟨pointer, .control⟩) isSet flag) .control) =
        w.hw.change (Gptimers.slot base pointer) fun timer => timer.assign isSet flag := by
    apply Gptimers.change_congr
    intro timer mine
    rw [Gptimers.read_timer base pointer w.hw (.inr (.inr rfl)), mine]
    rfl
  simp only [setFlag, wp_bind, wp_readRegister]
  rw [wp_writeRegister_gptimers base _ pointer _ _ (.inr (.inr rfl))]
  exact iff_of_eq (congrArg (fun hw => Q () { w with hw := hw }) stored)

/-- `Timer_baseInit`. -/
theorem wp_baseInit_gptimers (Q : Unit → World Gptimers → Prop) :
    wp may (baseInit (Gptimers.device base) ⟨base, .configuration⟩) Q w ↔
      Q () { w with
        hw := { w.hw with
          configuration := withFlag (withFlag w.hw.configuration true Configuration.DF) true Configuration.SI } } := by
  simp [baseInit, setFlag, World.value, World.afterRead, World.afterWrite, Gptimers.device, Gptimers.read, Gptimers.write]

end Program

section Effect

variable {group : Group} {w w' : World Gptimers} {call : Call} {answer : Answer}

theorem exec_gptimers (run : exec group (Gptimers.device group.addressBase) call w = .ok (answer, w')) :
    w'.hw = group.onGptimers w call := by
  have spec : wp total (exec group (Gptimers.device group.addressBase) call) (fun _ w' => w'.hw = group.onGptimers w call) w := by
    cases call with
    | init id timer handler =>
      simp only [exec, Group.init, irqInit, wp_bind, wp_modifyDescriptor, wp_baseInit_gptimers, wp_vectorEnable, wp_rtems,
        wp_pure, World.withTimer_hw, World.withRtems_hw, Gptimers.change_change,
        wp_writeRegister_gptimers _ _ _ _ _ (.inl rfl), wp_writeRegister_gptimers _ _ _ _ _ (.inr (.inl rfl)),
        wp_writeRegister_gptimers _ _ _ _ _ (.inr (.inr rfl))]
      rfl
    | setConfigRegisters | start | stop | shutdown =>
      simp only [exec, Group.setConfigRegisters, Timer.setConfigRegisters, Group.start, Timer.start, Group.stop,
        Group.shutdown, Timer.stop, irqDeinit, wp_bind, wp_descriptor, wp_vectorDisable, wp_vectorEnable, wp_rtems, wp_pure,
        wp_setFlag_gptimers, World.withRtems_hw, Gptimers.change_change, wp_writeRegister_gptimers _ _ _ _ _ (.inr (.inl rfl))]
      rfl
    | _ => exact (rfl : _ = _)
  have ended := wp_ended spec run
  exact ended

variable {σ : Type}

/-- What a call does to the descriptors. -/
def Group.onTimers (group : Group) (w : World σ) : Call → TimerRef → Timer
  | .init id timer handler =>
    Function.update w.timers timer ⟨id, group.addressBase, group.addressById id, handler⟩
  | _ => w.timers

theorem exec_timers {device : Device σ} {w w' : World σ} (run : exec group device call w = .ok (answer, w')) :
    w'.timers = group.onTimers w call := by
  have spec : wp total (exec group device call) (fun _ w' => w'.timers = group.onTimers w call) w := by
    cases call with
    | init id timer handler =>
      have base : ∀ r w, wp total (baseInit device r) (fun _ w' => w'.timers = w.timers) w := fun _ _ => rfl
      simp only [exec, Group.init, irqInit, wp_bind, wp_modifyDescriptor, wp_writeRegister, wp_rtems, wp_vectorEnable, wp_pure]
      apply wp_mono (base _ _)
      intro _ w₁ same
      simp [same, Group.onTimers]
    | _ => exact (rfl : _ = _)
  have ended := wp_ended spec run
  exact ended

theorem Group.onGptimers_scaler (group : Group) {w : World Gptimers} {timer : TimerRef} (value : Word)
    (mine : (w.timers timer).base = group.addressBase) :
    (group.onGptimers w (.setBaseScalerReloadValue timer value)).scaler = group.scalerValue value ∧
      (group.onGptimers w (.setBaseScalerReloadValue timer value)).scalerReload = group.scalerValue value := by
  rw [Group.onGptimers, mine]
  simp [Gptimers.write]

/-- What a call does to the timer it is for. -/
def Call.onTimer : Call → Gptimer → Gptimer
  | .init _ _ _ => Gptimer.cleared
  | .setConfigRegisters _ config => Gptimer.configured config
  | .start _ => Gptimer.started
  | .stop _ | .shutdown _ => fun g => g.assign false Control.EN
  | _ => fun g => g

/-- The place in the row of the timer that a call is for. -/
def Group.placeOf (group : Group) (w : World σ) : Call → Option Nat
  | .init id _ _ => Gptimers.slot group.addressBase (group.addressById id)
  | .setConfigRegisters timer _ | .start timer | .stop timer | .shutdown timer =>
    Gptimers.slot group.addressBase (w.timers timer).regs
  | _ => none

/-- Between ticks a call changes no timer but its own. -/
theorem Group.onGptimers_timer (group : Group) (w : World Gptimers) {call : Call} (still : call ≠ .tick) (n : Nat) :
    (group.onGptimers w call).timers[n]? =
      if group.placeOf w call = some n then w.hw.timers[n]?.map call.onTimer else w.hw.timers[n]? := by
  cases call with
  | tick => exact absurd rfl still
  | setBaseScalerReloadValue timer value =>
    have timers (r : Register) (value : Word) (other : r.field = .scaler ∨ r.field = .scalerReload) (g : Gptimers) :
        (g.write group.addressBase r value).timers[n]? = g.timers[n]? := by
      unfold Gptimers.write
      split
      · rcases other with field | field <;> rw [field]
      · rw [Gptimers.change_timers]
        rcases other with field | field <;> simp [field, Gptimer.write]
    rw [Group.onGptimers, timers _ _ (.inl rfl), timers _ _ (.inr rfl)]
    rfl
  | getConfigRegisters | getCounterValue | hasFinished => rfl
  | _ => exact Gptimers.change_timers _ _ _ n

/-- What a call does but for the vectors. -/
structure Group.Does (group : Group) (call : Call) (w w' : World Gptimers) : Prop where
  timers : w'.timers = group.onTimers w call
  hw : w'.hw = group.onGptimers w call

theorem exec_does (run : exec group (Gptimers.device group.addressBase) call w = .ok (answer, w')) : group.Does call w w' :=
  ⟨exec_timers run, exec_gptimers run⟩

theorem Group.Does.timer {w w' : World Gptimers} (does : group.Does call w w') (still : call ≠ .tick) (n : Nat) :
    w'.hw.timers[n]? = if group.placeOf w call = some n then w.hw.timers[n]?.map call.onTimer else w.hw.timers[n]? := by
  rw [does.hw]
  exact group.onGptimers_timer w still n

end Effect

/-- The hardware of the group. -/
abbrev Group.gptimers (group : Group) : Device Gptimers :=
  Gptimers.device group.addressBase

/-- The place of a timer in the row of its group. -/
def Group.place (group : Group) (id : Id) : Option Nat :=
  Gptimers.slot group.addressBase (group.addressById id)

theorem apbctrl1_place (id : Id) : apbctrl1.place id =
    match id with
    | .id1 => some 0
    | .id2 => some 1
    | .id3 => some 2
    | .id4 => some 3
    | _ => none := by
  cases id <;> rfl

end Leon3Bsp.Timer
