import Leon3Bsp.Lib.Assignments
import Leon3Bsp.Lib.Execution
import Leon3Bsp.Timer.Driver

/-!
# Runs of the timer driver

A call is a function of `Timer.h` on one of the caller's descriptors, or a tick
of the scaler. Calls are atomic and none of them faults. What a call does to the
interrupt vectors depends on its timer alone, and is said once, in `onRtems`.
-/

namespace Leon3Bsp.Timer
set_option autoImplicit false
open Wp Execution

inductive Call
  | init (id : Id) (timer : TimerRef) (handler : InterruptHandler)
  | setBaseScalerReloadValue (timer : TimerRef) (scalerReloadValue : Word)
  | setConfigRegisters (timer : TimerRef) (config : Config)
  | getConfigRegisters (timer : TimerRef)
  | start (timer : TimerRef)
  | stop (timer : TimerRef)
  | shutdown (timer : TimerRef)
  | getCounterValue (timer : TimerRef)
  | hasFinished (timer : TimerRef)
  | tick
  deriving DecidableEq

inductive Answer
  | done
  | config (config : Config)
  | count (value : Word)
  | flag (result : Bool)
  deriving DecidableEq

variable {σ : Type}

/-- The scaler ticks. -/
def World.afterTick (w : World σ) (device : Device σ) : World σ :=
  { w with hw := device.tick w.hw }

def exec (group : Group) (device : Device σ) : Call → Driver σ Answer
  | .init id timer handler => do group.init device id timer handler; pure .done
  | .setBaseScalerReloadValue timer value => do
    group.setBaseScalerReloadValue device timer (value.setWidth group.scalerBits)
    pure .done
  | .setConfigRegisters timer config => do group.setConfigRegisters device timer config; pure .done
  | .getConfigRegisters timer => do let config ← Group.getConfigRegisters device timer; pure (.config config)
  | .start timer => do group.start device timer; pure .done
  | .stop timer => do group.stop device timer; pure .done
  | .shutdown timer => do group.shutdown device timer; pure .done
  | .getCounterValue timer => do let value ← Group.getCounterValue device timer; pure (.count value)
  | .hasFinished timer => do let result ← Group.hasFinished device timer; pure (.flag result)
  | .tick => act fun w => (.done, w.afterTick device)

/-- The calls of `Apbctrl1` are those of its group. -/
def Apbctrl1.exec (device : Device σ) : Call → Driver σ Answer
  | .init id timer handler => do init device timer id handler; pure .done
  | .setBaseScalerReloadValue timer value => do setBaseScalerReloadValue device timer (value.setWidth 16); pure .done
  | .setConfigRegisters timer config => do setConfigRegisters device timer config; pure .done
  | .getConfigRegisters timer => do let config ← getConfigRegisters device timer; pure (.config config)
  | .start timer => do start device timer; pure .done
  | .stop timer => do stop device timer; pure .done
  | .shutdown timer => do shutdown device timer; pure .done
  | .getCounterValue timer => do let value ← getCounterValue device timer; pure (.count value)
  | .hasFinished timer => do let result ← hasFinished device timer; pure (.flag result)
  | .tick => act fun w => (.done, w.afterTick device)

/-- And those of `Apbctrl2`. -/
def Apbctrl2.exec (device : Device σ) : Call → Driver σ Answer
  | .init id timer handler => do init device timer id handler; pure .done
  | .setBaseScalerReloadValue timer value => do setBaseScalerReloadValue device timer (value.setWidth 8); pure .done
  | .setConfigRegisters timer config => do setConfigRegisters device timer config; pure .done
  | .getConfigRegisters timer => do let config ← getConfigRegisters device timer; pure (.config config)
  | .start timer => do start device timer; pure .done
  | .stop timer => do stop device timer; pure .done
  | .shutdown timer => do shutdown device timer; pure .done
  | .getCounterValue timer => do let value ← getCounterValue device timer; pure (.count value)
  | .hasFinished timer => do let result ← hasFinished device timer; pure (.flag result)
  | .tick => act fun w => (.done, w.afterTick device)

theorem Apbctrl1.exec_eq (device : Device σ) : exec device = Timer.exec apbctrl1 device := by
  funext call
  cases call <;> rfl

theorem Apbctrl2.exec_eq (device : Device σ) : exec device = Timer.exec apbctrl2 device := by
  funext call
  cases call <;> rfl

/-- A call that was made in a run. -/
abbrev Made (σ : Type) := Taken (World σ) Call Answer

abbrev Run (group : Group) (device : Device σ) (allowed : World σ → Call → Prop) (start : World σ)
    (calls : List (Made σ)) (w : World σ) : Prop :=
  Execution.Run (exec group device) allowed start calls w

/-- The descriptor a call is given. -/
def Call.timer : Call → Option TimerRef
  | .init _ timer _ | .setBaseScalerReloadValue timer _ | .setConfigRegisters timer _ | .getConfigRegisters timer
  | .start timer | .stop timer | .shutdown timer | .getCounterValue timer | .hasFinished timer => some timer
  | .tick => none

/-- The timer a call is for: the one it initialises, or that of its descriptor. -/
def World.target (w : World σ) : Call → Option Id
  | .init id _ _ => some id
  | call => call.timer.map fun timer => (w.timers timer).id

/-- What a call does to RTEMS. -/
def Group.onRtems (group : Group) (w : World σ) : Call → Rtems
  | .init id timer _ =>
    ((w.rtems.interruptClear (group.interruptNumber id)).entryInstall (group.interruptNumber id)
      (rtemsInterruptEntry timer)).vectorEnable (group.interruptNumber id)
  | .setConfigRegisters timer _ | .start timer =>
    (w.rtems.vectorDisable (group.interruptNumber (w.timers timer).id)).vectorEnable
      (group.interruptNumber (w.timers timer).id)
  | .stop timer => w.rtems.vectorDisable (group.interruptNumber (w.timers timer).id)
  | .shutdown timer =>
    ((w.rtems.vectorDisable (group.interruptNumber (w.timers timer).id)).vectorDisable
      (group.interruptNumber (w.timers timer).id)).entryRemove (group.interruptNumber (w.timers timer).id)
        (rtemsInterruptEntry timer)
  | _ => w.rtems

/-- How a call leaves the mask of its vector. -/
def Call.leavesEnabled : Call → Option Bool
  | .init _ _ _ | .setConfigRegisters _ _ | .start _ => some true
  | .stop _ | .shutdown _ => some false
  | _ => none

section Calls

variable {group : Group} {device : Device σ} {w w' : World σ} {call : Call} {answer : Answer}

/-- Every call returns. -/
theorem exec_returns (group : Group) (device : Device σ) (call : Call) (w : World σ) :
    ∃ answer w', exec group device call w = .ok (answer, w') := by
  cases call <;> exact ⟨_, _, rfl⟩

theorem exec_rtems (run : exec group device call w = .ok (answer, w')) : w'.rtems = group.onRtems w call := by
  have spec : wp total (exec group device call) (fun _ w' => w'.rtems = group.onRtems w call) w := by
    cases call <;> exact (rfl : _ = _)
  have ended := wp_ended spec run
  exact ended

/-- `init` clears the registers of its timer, the control register first. -/
theorem wp_init {may : Empty → Prop} (group : Group) (device : Device σ) (id : Id) (timer : TimerRef)
    (handler : InterruptHandler) (start : World σ) :
    wp may (group.init device id timer handler) (fun _ ready => (ready.timers timer).regs = group.addressById id ∧
      ∃ s, ready.hw = device.write ⟨group.addressById id, .reload⟩ 0 (device.write ⟨group.addressById id, .counter⟩ 0
        (device.write ⟨group.addressById id, .control⟩ 0 s))) start := by
  have base : ∀ r w, wp may (baseInit device r) (fun _ w' => w'.timers = w.timers) w := fun _ _ => rfl
  simp only [Group.init, wp_bind, wp_modifyDescriptor]
  apply wp_mono (base _ _)
  intro _ w same
  refine ⟨?_, w.hw, rfl⟩
  have assigned : w.timers timer = { start.timers timer with base := group.addressBase, regs := group.addressById id } := by
    rw [same]
    exact Function.update_self _ _ _
  simp [assigned]

/-- A call changes the mask of no vector but that of its timer. -/
theorem Group.onRtems_enabled (group : Group) (w : World σ) (call : Call) (vector : Nat) :
    (group.onRtems w call).enabled vector = if (w.target call).map group.interruptNumber = some vector
      then call.leavesEnabled.getD (w.rtems.enabled vector) else w.rtems.enabled vector := by
  cases call with
  | tick => simp [onRtems, World.target, Call.timer]
  | init | setConfigRegisters | start | stop | shutdown =>
    simp only [onRtems, World.target, Call.timer, Call.leavesEnabled, Rtems.vectorEnable_enabled,
      Rtems.vectorDisable_enabled, Rtems.entryInstall_enabled, Rtems.entryRemove_enabled, Rtems.interruptClear_enabled,
      Option.map_some,
      Option.some.injEq, Option.getD_some]
    grind
  | setBaseScalerReloadValue | getConfigRegisters | getCounterValue | hasFinished => exact (ite_self _).symm

/-- A call changes the entries by an install or a removal of its own. -/
theorem Group.onRtems_installed (group : Group) (w : World σ) (call : Call) :
    (group.onRtems w call).installed = match call with
      | .init id timer _ =>
        (w.rtems.entryInstall (group.interruptNumber id) (rtemsInterruptEntry timer)).installed
      | .shutdown timer =>
        (w.rtems.entryRemove (group.interruptNumber (w.timers timer).id) (rtemsInterruptEntry timer)).installed
      | _ => w.rtems.installed := by
  cases call with
  | init id timer handler =>
    simp only [onRtems, Rtems.vectorEnable_installed, Rtems.entryInstall_installed]
    rfl
  | shutdown timer =>
    simp only [onRtems, Rtems.entryRemove_installed]
    rfl
  | _ => rfl

/-- A call clears what is pending on a vector that it initialises. -/
theorem Group.onRtems_pending (group : Group) (w : World σ) (call : Call) (vector : Nat) :
    (group.onRtems w call).pending vector = match call with
      | .init id _ _ => if vector = group.interruptNumber id then false else w.rtems.pending vector
      | _ => w.rtems.pending vector := by
  cases call with
  | init id timer handler =>
    simp only [onRtems, Rtems.vectorEnable_pending, Rtems.entryInstall_pending, Rtems.interruptClear_pending]
  | shutdown timer =>
    simp only [onRtems, Rtems.entryRemove_pending, Rtems.vectorDisable_pending]
  | _ => rfl

end Calls

section History

/-- What the calls for a timer say of it, the last that says anything: `fact`
is what one call says. -/
def history (fact : Call → Option Bool) (t : Id) (calls : List (Made σ)) : Bool :=
  Assignments.after (fun made => if made.before.target made.input = some t then fact made.input else none) false calls

variable (fact : Call → Option Bool) (t : Id) (calls : List (Made σ)) (made : Made σ)

@[simp] theorem history_nil : history fact t ([] : List (Made σ)) = false := rfl

theorem history_snoc : history fact t (calls ++ [made]) =
    if made.before.target made.input = some t then (fact made.input).getD (history fact t calls)
    else history fact t calls := by
  rw [history, Assignments.after_snoc]
  split <;> rfl

end History

end Leon3Bsp.Timer
