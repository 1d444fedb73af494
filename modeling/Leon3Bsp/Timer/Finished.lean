import Leon3Bsp.Timer.Gptimer

/-!
# What `hasFinished` says

For the driver a timer has finished when it is disabled with all ones in its
counter. The underflow of a timer that runs once leaves it so, and so does a
stop, where all ones were just loaded.
-/

namespace Leon3Bsp.Timer
set_option autoImplicit false
open Wp Execution

/-- `Timer_setFlag` on the control register. -/
def Gptimer.assign (g : Gptimer) (isSet : Bool) (flag : Nat) : Gptimer :=
  g.writeControl (withFlag g.control isSet flag)

namespace Gptimer

/-- `Timer_start`. -/
def started (g : Gptimer) : Gptimer :=
  (g.assign true Control.LD).assign true Control.EN

variable (g : Gptimer)

theorem assign_plain {flag : Nat} (plain : getFlag g.control Control.LD = false) (inside : flag < 32) (other : flag ≠ Control.LD)
    (isSet : Bool) : g.assign isSet flag = { g with control := withFlag g.control isSet flag } := by
  apply writeControl_plain
  rw [getFlag_withFlag _ _ inside, if_neg other.symm, plain]

theorem assign_load : g.assign true Control.LD =
    { g with
      counter := g.reload
      control := withFlag (withFlag g.control true Control.LD) false Control.LD
      log := g.log ++ [.loaded] } := by
  apply writeControl_load
  rw [getFlag_withFlag _ _ (by decide), if_pos rfl]

theorem started_eq : g.started =
    { g with
      counter := g.reload
      control := withFlag (withFlag (withFlag g.control true Control.LD) false Control.LD) true Control.EN
      log := g.log ++ [.loaded] } := by
  rw [started, assign_plain _ _ (by decide) (by decide), assign_load]
  rw [assign_load, getFlag_withFlag _ _ (by decide), if_pos rfl]

theorem started_flag (flag : Nat) : getFlag g.started.control flag =
    if flag = Control.EN then true else if flag = Control.LD then false else getFlag g.control flag := by
  rw [started_eq, getFlag_withFlag _ _ (by decide), getFlag_withFlag _ _ (by decide), getFlag_withFlag _ _ (by decide)]
  split
  · rfl
  · split <;> rfl

theorem started_counter : g.started.counter = g.reload := by
  rw [started_eq]

/-- The timer stands at zero with no bit set but that of the interrupt. -/
structure Off (g : Gptimer) : Prop where
  flags : ∀ flag ≠ Control.IE, getFlag g.control flag = false
  zero : g.counter = 0

theorem Off.assign {g : Gptimer} (off : g.Off) (isSet : Bool) (flag : Nat) (inside : flag < 32)
    (other : flag ≠ Control.LD) (kept : isSet = true → flag = Control.IE) : (g.assign isSet flag).Off := by
  rw [g.assign_plain (off.flags Control.LD (by decide)) inside other]
  refine ⟨fun k notIE => ?_, off.zero⟩
  rw [getFlag_withFlag _ _ inside]
  split
  · rename_i same
    rw [Bool.eq_false_iff]
    intro set
    exact notIE (same.trans (kept set))
  · exact off.flags k notIE

end Gptimer

/-- The timer is started, stopped and ticked, and nothing else. -/
def OnlyDriven (timer : TimerRef) (call : Call) : Prop :=
  call = .start timer ∨ call = .stop timer ∨ call = .tick

/-- The calls since the most recent start. -/
def sinceStart (timer : TimerRef) (calls : List (Made Gptimer)) : Option (List (Made Gptimer)) :=
  calls.foldl (fun since made => if made.input = .start timer then some [] else since.map (· ++ [made])) none

/-- The hardware underflowed in the call. -/
def Underflows (made : Made Gptimer) : Prop :=
  ∃ interrupt, made.after.hw.log = made.before.hw.log ++ [.underflowed interrupt]

/-- The timer was started, and has underflowed since the most recent start. -/
def HasUnderflowed (timer : TimerRef) (calls : List (Made Gptimer)) : Prop :=
  ∃ since, sinceStart timer calls = some since ∧ ∃ made ∈ since, Underflows made

/-- The call that followed the most recent start was a stop. -/
def StoppedAtOnce (timer : TimerRef) (calls : List (Made Gptimer)) : Prop :=
  ∃ stop later, sinceStart timer calls = some (stop :: later) ∧ stop.input = .stop timer

section Calls

variable {timer : TimerRef} {calls : List (Made Gptimer)} {made : Made Gptimer}

theorem sinceStart_snoc : sinceStart timer (calls ++ [made]) =
    if made.input = .start timer then some [] else (sinceStart timer calls).map (· ++ [made]) := by
  rw [sinceStart, List.foldl_append]
  rfl

theorem sinceStart_start (start : made.input = .start timer) : sinceStart timer (calls ++ [made]) = some [] := by
  rw [sinceStart_snoc, if_pos start]

theorem sinceStart_other {since : List (Made Gptimer)} (started : sinceStart timer calls = some since)
    (other : made.input ≠ .start timer) : sinceStart timer (calls ++ [made]) = some (since ++ [made]) := by
  rw [sinceStart_snoc, if_neg other, started]
  rfl

theorem sinceStart_none (never : sinceStart timer calls = none) (other : made.input ≠ .start timer) :
    sinceStart timer (calls ++ [made]) = none := by
  rw [sinceStart_snoc, if_neg other, never]
  rfl

theorem not_underflows_of_log (same : made.after.hw.log = made.before.hw.log) : ¬ Underflows made := by
  rintro ⟨interrupt, log⟩
  rw [same] at log
  simp at log

theorem not_underflows_of_ticked (ticked : made.after.hw.log = made.before.hw.log ++ [.ticked]) : ¬ Underflows made := by
  rintro ⟨interrupt, log⟩
  rw [ticked] at log
  simp at log

theorem not_hasUnderflowed {since : List (Made Gptimer)} (started : sinceStart timer calls = some since)
    (quiet : ∀ m ∈ since, ¬ Underflows m) : ¬ HasUnderflowed timer calls := by
  rintro ⟨_, same, made, member, under⟩
  rw [started] at same
  cases same
  exact quiet made member under

theorem quiet_snoc {since : List (Made Gptimer)} (earlier : ∀ m ∈ since, ¬ Underflows m) (last : ¬ Underflows made) :
    ∀ m ∈ since ++ [made], ¬ Underflows m := by
  rw [List.forall_mem_append, List.forall_mem_singleton]
  exact ⟨earlier, last⟩

end Calls

/-- What a timer that runs once was last told, and what it has come to. -/
inductive Phase (timer : TimerRef) (reload : Word) (calls : List (Made Gptimer)) (g : Gptimer) : Prop
  | fresh (never : sinceStart timer calls = none) (stopped : getFlag g.control Control.EN = false) (zero : g.counter = 0)
  | counting (since : List (Made Gptimer)) (started : sinceStart timer calls = some since)
      (ticks : ∀ made ∈ since, made.input = .tick) (quiet : ∀ made ∈ since, ¬ Underflows made)
      (enabled : getFlag g.control Control.EN = true) (left : g.counter.toNat + since.length = reload.toNat)
  | halted (first : Made Gptimer) (later : List (Made Gptimer)) (started : sinceStart timer calls = some (first :: later))
      (quiet : ∀ made ∈ first :: later, ¬ Underflows made) (stopped : getFlag g.control Control.EN = false)
      (marked : g.counter = UNDERFLOWED ↔ reload = UNDERFLOWED ∧ first.input = .stop timer)
  | expired (first : Made Gptimer) (later : List (Made Gptimer)) (started : sinceStart timer calls = some (first :: later))
      (ticked : first.input = .tick) (underflow : ∃ made ∈ first :: later, Underflows made)
      (stopped : getFlag g.control Control.EN = false) (marked : g.counter = UNDERFLOWED)

section Phase

variable {timer : TimerRef} {reload : Word} {calls : List (Made Gptimer)} {made : Made Gptimer}

/-- The counter of a timer that counted at all is below what was loaded. -/
theorem counter_marked_iff {counter : Word} {n : Nat} (left : counter.toNat + n = reload.toNat) :
    counter = UNDERFLOWED ↔ reload = UNDERFLOWED ∧ n = 0 := by
  have top : UNDERFLOWED.toNat = 2 ^ 32 - 1 := rfl
  have bound := reload.isLt
  rw [← BitVec.toNat_inj, ← BitVec.toNat_inj, top]
  omega

theorem Phase.start (reloaded : made.before.hw.reload = reload) (input : made.input = .start timer)
    (after : made.after.hw = made.before.hw.started) : Phase timer reload (calls ++ [made]) made.after.hw := by
  rw [after]
  refine .counting [] (sinceStart_start input) (by simp) (by simp) (by rw [Gptimer.started_flag, if_pos rfl]) ?_
  rw [made.before.hw.started_counter, reloaded, List.length_nil, Nat.add_zero]

theorem Phase.stop (phase : Phase timer reload calls made.before.hw) (input : made.input = .stop timer)
    (after : made.after.hw = { made.before.hw with control := withFlag made.before.hw.control false Control.EN }) :
    Phase timer reload (calls ++ [made]) made.after.hw := by
  have other : made.input ≠ .start timer := by simp [input]
  have quiet : ¬ Underflows made := not_underflows_of_log (by rw [after])
  have counter : made.after.hw.counter = made.before.hw.counter := by rw [after]
  have stopped : getFlag made.after.hw.control Control.EN = false := by
    rw [after, getFlag_withFlag _ _ (by decide), if_pos rfl]
  cases phase with
  | fresh never _ zero => exact .fresh (sinceStart_none never other) stopped (counter.trans zero)
  | counting since started ticks quieter _ left =>
    have marked := counter_marked_iff left
    rw [← counter] at marked
    cases since with
    | nil => exact .halted made [] (sinceStart_other started other) (by simpa using quiet) stopped (by simp [marked, input])
    | cons first later =>
      refine .halted first (later ++ [made]) (sinceStart_other started other) (quiet_snoc quieter quiet) stopped ?_
      simp [marked, ticks first (List.mem_cons_self ..)]
  | halted first later started quieter _ marked =>
    exact .halted first (later ++ [made]) (sinceStart_other started other) (quiet_snoc quieter quiet) stopped
      (by rw [counter, marked])
  | expired first later started ticked underflow _ marked =>
    obtain ⟨m, member, under⟩ := underflow
    exact .expired first (later ++ [made]) (sinceStart_other started other) ticked
      ⟨m, List.mem_append_left [made] member, under⟩ stopped (counter.trans marked)

theorem Phase.tick (phase : Phase timer reload calls made.before.hw) (input : made.input = .tick)
    (once : getFlag made.before.hw.control Control.RS = false) (after : made.after.hw = made.before.hw.tick) :
    Phase timer reload (calls ++ [made]) made.after.hw := by
  have other : made.input ≠ .start timer := by simp [input]
  -- a disabled timer lets the tick pass
  have passed (stopped : getFlag made.before.hw.control Control.EN = false) :
      ¬ Underflows made ∧ getFlag made.after.hw.control Control.EN = false ∧ made.after.hw.counter = made.before.hw.counter := by
    rw [Gptimer.tick_stopped stopped] at after
    refine ⟨not_underflows_of_ticked (by rw [after]), ?_, ?_⟩ <;> rw [after]
    exact stopped
  cases phase with
  | fresh never stopped zero =>
    obtain ⟨-, stopped, counter⟩ := passed stopped
    exact .fresh (sinceStart_none never other) stopped (counter.trans zero)
  | counting since started ticks quiet enabled left =>
    by_cases expired : made.before.hw.counter = 0
    · rw [Gptimer.tick_expired enabled expired, Gptimer.underflow_once once] at after
      have under : Underflows made := ⟨_, by rw [after]⟩
      have stopped : getFlag made.after.hw.control Control.EN = false := by
        rw [after, getFlag_withFlag _ _ (by decide), if_pos rfl]
      have marked : made.after.hw.counter = UNDERFLOWED := by rw [after]; rfl
      cases since with
      | nil => exact .expired made [] (sinceStart_other started other) input ⟨made, by simp, under⟩ stopped marked
      | cons first later =>
        exact .expired first (later ++ [made]) (sinceStart_other started other) (ticks first (List.mem_cons_self ..))
          ⟨made, by simp, under⟩ stopped marked
    · rw [Gptimer.tick_counting enabled expired] at after
      have quieter : ¬ Underflows made := not_underflows_of_ticked (by rw [after])
      have one : (made.before.hw.counter - 1).toNat + 1 = made.before.hw.counter.toNat := by
        have positive : made.before.hw.counter.toNat ≠ 0 := fun zero => expired (BitVec.eq_of_toNat_eq zero)
        bv_omega
      refine .counting (since ++ [made]) (sinceStart_other started other) ?_ (quiet_snoc quiet quieter) ?_ ?_
      · rw [List.forall_mem_append, List.forall_mem_singleton]
        exact ⟨ticks, input⟩
      · rw [after]
        exact enabled
      · rw [after, List.length_append, List.length_singleton]
        show (made.before.hw.counter - 1).toNat + (since.length + 1) = reload.toNat
        omega
  | halted first later started quiet stopped marked =>
    obtain ⟨quieter, stopped, counter⟩ := passed stopped
    exact .halted first (later ++ [made]) (sinceStart_other started other) (quiet_snoc quiet quieter) stopped
      (by rw [counter, marked])
  | expired first later started ticked underflow stopped marked =>
    obtain ⟨-, stopped, counter⟩ := passed stopped
    obtain ⟨m, member, under⟩ := underflow
    exact .expired first (later ++ [made]) (sinceStart_other started other) ticked
      ⟨m, List.mem_append_left [made] member, under⟩ stopped (counter.trans marked)

theorem Phase.finished_iff {g : Gptimer} (phase : Phase timer reload calls g) :
    (hasFinished g.control g.counter = true ↔ HasUnderflowed timer calls) ↔
      ¬ (reload = UNDERFLOWED ∧ StoppedAtOnce timer calls) := by
  cases phase with
  | fresh never stopped zero =>
    have unfinished : hasFinished g.control g.counter = false := by simp [hasFinished, zero, UNDERFLOWED]
    simp [unfinished, HasUnderflowed, StoppedAtOnce, never]
  | counting since started ticks quiet enabled left =>
    have unfinished : hasFinished g.control g.counter = false := by simp [hasFinished, enabled]
    have underflow := not_hasUnderflowed started quiet
    have ticking : ¬ StoppedAtOnce timer calls := by
      rintro ⟨stop, later, same, input⟩
      rw [started] at same
      cases same
      rw [ticks stop (List.mem_cons_self ..)] at input
      cases input
    simp [unfinished, underflow, ticking]
  | halted first later started quiet stopped marked =>
    have finished : hasFinished g.control g.counter = true ↔ g.counter = UNDERFLOWED := by simp [hasFinished, stopped]
    have underflow := not_hasUnderflowed started quiet
    have atOnce : StoppedAtOnce timer calls ↔ first.input = .stop timer := by simp [StoppedAtOnce, started]
    simp only [finished, marked, underflow, atOnce, iff_false]
  | expired first later started ticked underflow stopped marked =>
    have finished : hasFinished g.control g.counter = true := by simp [hasFinished, stopped, marked]
    have underflow : HasUnderflowed timer calls := ⟨_, started, underflow⟩
    have atOnce : ¬ StoppedAtOnce timer calls := by simp [StoppedAtOnce, started, ticked]
    simp [finished, underflow, atOnce]

end Phase

section Program

variable {may : Empty → Prop} (regs : Nat) (w : World Gptimer)

theorem wp_setFlag_gptimer (isSet : Bool) (flag : Nat) (Q : Unit → World Gptimer → Prop) :
    wp may (setFlag (Gptimer.device regs) ⟨regs, .control⟩ isSet flag) Q w ↔ Q () { w with hw := w.hw.assign isSet flag } := by
  have read : (w.value (Gptimer.device regs) ⟨regs, .control⟩) = w.hw.control := by
    simp [World.value, Gptimer.device, Gptimer.read]
  have stored : (w.afterRead (Gptimer.device regs) ⟨regs, .control⟩).afterWrite (Gptimer.device regs) ⟨regs, .control⟩
      (withFlag w.hw.control isSet flag) = { w with hw := w.hw.assign isSet flag } := by
    simp [World.afterRead, World.afterWrite, Gptimer.device, Gptimer.assign, Gptimer.write]
  simp only [setFlag, wp_bind, wp_readRegister, wp_writeRegister, read, stored]

theorem write_gptimer (field : Field) (value : Word) (g : Gptimer) :
    (Gptimer.device regs).write ⟨regs, field⟩ value g = g.write value field :=
  if_pos rfl

theorem wp_writeRegister_gptimer (field : Field) (value : Word) (Q : Unit → World Gptimer → Prop) :
    wp may (writeRegister (Gptimer.device regs) ⟨regs, field⟩ value) Q w ↔ Q () { w with hw := w.hw.write value field } := by
  rw [wp_writeRegister, World.afterWrite, write_gptimer]

end Program

/-- A timer set up to run once, after the calls that drove it. -/
structure Driven (regs : Nat) (timer : TimerRef) (reload : Word) (calls : List (Made Gptimer)) (w : World Gptimer) : Prop where
  mine : (w.timers timer).regs = regs
  once : getFlag w.hw.control Control.RS = false
  plain : getFlag w.hw.control Control.LD = false
  loads : w.hw.reload = reload
  phase : Phase timer reload calls w.hw

section Driven

variable {group : Group} {regs : Nat} {timer : TimerRef} {reload : Word} {calls : List (Made Gptimer)}
variable {w w' : World Gptimer} {call : Call} {answer : Answer}

theorem exec_start (mine : (w.timers timer).regs = regs)
    (run : exec group (Gptimer.device regs) (.start timer) w = .ok (answer, w')) :
    w'.timers = w.timers ∧ w'.hw = w.hw.started := by
  have spec : wp total (exec group (Gptimer.device regs) (.start timer))
      (fun _ w' => w'.timers = w.timers ∧ w'.hw = w.hw.started) w := by
    simp only [exec, Group.start, Timer.start, wp_bind, wp_descriptor, wp_vectorDisable, wp_vectorEnable, wp_pure, mine,
      wp_setFlag_gptimer]
    exact ⟨rfl, rfl⟩
  have ended := wp_ended spec run
  exact ended

theorem exec_stop (mine : (w.timers timer).regs = regs)
    (run : exec group (Gptimer.device regs) (.stop timer) w = .ok (answer, w')) :
    w'.timers = w.timers ∧ w'.hw = w.hw.assign false Control.EN := by
  have spec : wp total (exec group (Gptimer.device regs) (.stop timer))
      (fun _ w' => w'.timers = w.timers ∧ w'.hw = w.hw.assign false Control.EN) w := by
    simp only [exec, Group.stop, Timer.stop, wp_bind, wp_descriptor, wp_vectorDisable, wp_pure, mine, wp_setFlag_gptimer]
    exact ⟨rfl, rfl⟩
  have ended := wp_ended spec run
  exact ended

theorem start_driven (driven : Driven regs timer reload calls w)
    (run : exec group (Gptimer.device regs) (.start timer) w = .ok (answer, w')) :
    Driven regs timer reload (calls ++ [⟨w, .start timer, answer, w'⟩]) w' := by
  obtain ⟨mine, once, plain, loads, -⟩ := driven
  obtain ⟨timers, hw⟩ := exec_start mine run
  refine ⟨by rw [timers, mine], ?_, ?_, ?_, Phase.start loads rfl hw⟩
  · rw [hw, Gptimer.started_flag, if_neg (by decide), if_neg (by decide), once]
  · rw [hw, Gptimer.started_flag, if_neg (by decide), if_pos rfl]
  · rw [hw, Gptimer.started_eq]
    exact loads

theorem stop_driven (driven : Driven regs timer reload calls w)
    (run : exec group (Gptimer.device regs) (.stop timer) w = .ok (answer, w')) :
    Driven regs timer reload (calls ++ [⟨w, .stop timer, answer, w'⟩]) w' := by
  obtain ⟨mine, once, plain, loads, phase⟩ := driven
  obtain ⟨timers, hw⟩ := exec_stop mine run
  rw [Gptimer.assign_plain _ plain (by decide) (by decide)] at hw
  refine ⟨by rw [timers, mine], ?_, ?_, ?_, phase.stop rfl hw⟩
  · rw [hw, getFlag_withFlag _ _ (by decide), if_neg (by decide), once]
  · rw [hw, getFlag_withFlag _ _ (by decide), if_neg (by decide), plain]
  · rw [hw]
    exact loads

theorem tick_driven (driven : Driven regs timer reload calls w)
    (run : exec group (Gptimer.device regs) .tick w = .ok (answer, w')) :
    Driven regs timer reload (calls ++ [⟨w, .tick, answer, w'⟩]) w' := by
  obtain ⟨mine, once, plain, loads, phase⟩ := driven
  cases run
  refine ⟨mine, ?_, ?_, ?_, phase.tick rfl once rfl⟩
  · exact (w.hw.tick_flag (by decide)).trans once
  · exact (w.hw.tick_flag (by decide)).trans plain
  · exact w.hw.tick_reload.trans loads

/-- `init` clears the registers. -/
theorem init_off {id : Id} {handler : InterruptHandler} {start fresh : World Gptimer}
    (initialised : group.init (Gptimer.device (group.addressById id)) id timer handler start = .ok ((), fresh)) :
    (fresh.timers timer).regs = group.addressById id ∧ fresh.hw.Off := by
  have spec : wp total (group.init (Gptimer.device (group.addressById id)) id timer handler) _ start :=
    wp_init group _ id timer handler start
  have ended := wp_ended spec initialised
  obtain ⟨mine, g, hw⟩ := ended
  have control : fresh.hw.control = 0 ∧ fresh.hw.counter = 0 := by
    simp only [write_gptimer] at hw
    rw [hw]
    exact ⟨rfl, rfl⟩
  refine ⟨mine, fun flag _ => ?_, control.2⟩
  simp [control.1, getFlag, FLAG_MASK]

/-- `init` and `setConfigRegisters` leave the timer stopped at zero. -/
theorem setUp_driven {id : Id} {handler : InterruptHandler} {isInterruptEnabled : Bool} {start fresh : World Gptimer}
    (initialised : group.init (Gptimer.device (group.addressById id)) id timer handler start = .ok ((), fresh))
    (configured : group.setConfigRegisters (Gptimer.device (group.addressById id)) timer
      ⟨isInterruptEnabled, false, false, false, reload⟩ fresh = .ok ((), w)) :
    Driven (group.addressById id) timer reload [] w := by
  obtain ⟨mine, cleared⟩ := init_off initialised
  have stopped := cleared.assign false Control.EN (by decide) (by decide) (by simp)
  have interrupt := stopped.assign isInterruptEnabled Control.IE (by decide) (by decide) (by simp)
  have once := interrupt.assign false Control.RS (by decide) (by decide) (by simp)
  have unchained := once.assign false Control.CH (by decide) (by decide) (by simp)
  have spec : wp total (group.setConfigRegisters (Gptimer.device (group.addressById id)) timer
      ⟨isInterruptEnabled, false, false, false, reload⟩) (fun _ w => w.timers = fresh.timers ∧ w.hw =
        { (((fresh.hw.assign false Control.EN).assign isInterruptEnabled Control.IE).assign false Control.RS).assign false
            Control.CH with reload }) fresh := by
    simp only [Group.setConfigRegisters, setConfigRegisters, wp_bind, wp_descriptor, wp_vectorDisable, wp_vectorEnable,
      World.withRtems_timers, World.withRtems_hw, mine, wp_setFlag_gptimer, wp_writeRegister_gptimer]
    exact ⟨trivial, rfl⟩
  have ended := wp_ended spec configured
  obtain ⟨timers, hw⟩ := ended
  refine ⟨by rw [timers, mine], ?_, ?_, by rw [hw], .fresh rfl ?_ ?_⟩ <;> rw [hw]
  · exact unchained.flags Control.RS (by decide)
  · exact unchained.flags Control.LD (by decide)
  · exact unchained.flags Control.EN (by decide)
  · exact unchained.zero

/-- A timer that is set up stays so, whatever it is told. -/
theorem run_driven {ready : World Gptimer} (setUp : Driven regs timer reload [] ready)
    (run : Run group (Gptimer.device regs) (fun _ => OnlyDriven timer) ready calls w) :
    Driven regs timer reload calls w := by
  apply run.invariant (I := Driven regs timer reload) setUp
  rintro calls w call answer w' driven (rfl | rfl | rfl) ran
  · exact start_driven driven ran
  · exact stop_driven driven ran
  · exact tick_driven driven ran

/-- What `hasFinished` returns. -/
theorem Driven.hasFinished_returns (driven : Driven regs timer reload calls w) :
    ∃ finished, Group.hasFinished (Gptimer.device regs) timer w = .ok (finished, w) ∧
      ((finished = true ↔ HasUnderflowed timer calls) ↔ ¬ (reload = UNDERFLOWED ∧ StoppedAtOnce timer calls)) := by
  have spec : wp total (Group.hasFinished (Gptimer.device regs) timer)
      (fun finished w' => finished = hasFinished w.hw.control w.hw.counter ∧ w' = w) w := by
    have read (field : Field) : w.value (Gptimer.device regs) ⟨regs, field⟩ =
        w.hw.read field := by
      simp [World.value, Gptimer.device]
    have kept (r : Register) : w.afterRead (Gptimer.device regs) r = w := rfl
    simp only [Group.hasFinished, wp_bind, wp_descriptor, wp_readRegister, wp_pure, driven.mine, read, kept]
    exact ⟨rfl, trivial⟩
  obtain ⟨finished, w', ran, rfl, rfl⟩ := wp_total spec
  exact ⟨_, ran, driven.phase.finished_iff⟩

end Driven

/-- **A timer that runs once has finished** when it underflowed since its start,
unless all ones were loaded and the next call stopped it. -/
theorem hasFinished_iff (group : Group) {id : Id} {timer : TimerRef} {handler : InterruptHandler} {isInterruptEnabled : Bool}
    {reload : Word} {start fresh ready w : World Gptimer} {calls : List (Made Gptimer)}
    (initialised : group.init (Gptimer.device (group.addressById id)) id timer handler start = .ok ((), fresh))
    (configured : group.setConfigRegisters (Gptimer.device (group.addressById id)) timer
      ⟨isInterruptEnabled, false, false, false, reload⟩ fresh = .ok ((), ready))
    (run : Run group (Gptimer.device (group.addressById id)) (fun _ => OnlyDriven timer) ready calls w) :
    ∃ finished, Group.hasFinished (Gptimer.device (group.addressById id)) timer w = .ok (finished, w) ∧
      ((finished = true ↔ HasUnderflowed timer calls) ↔ ¬ (reload = UNDERFLOWED ∧ StoppedAtOnce timer calls)) := by
  exact (run_driven (setUp_driven initialised configured) run).hasFinished_returns

/-- A timer that is all zeros. -/
def Gptimer.blank : World Gptimer :=
  World.blank ⟨0, 0, 0, []⟩

/-- One tick before the stop: all ones were loaded, and the timer has not finished. -/
theorem hasFinished_stopped :
    ∃ fresh ready calls w, apbctrl1.init (Gptimer.device 0x80000310) .id1 0 ⟨0, 0⟩ Gptimer.blank = .ok ((), fresh) ∧
      apbctrl1.setConfigRegisters (Gptimer.device 0x80000310) 0 ⟨true, false, false, false, 0xFFFFFFFF⟩ fresh = .ok ((), ready) ∧
      calls.map (fun made => made.input) = [.start 0, .tick, .stop 0] ∧
      Run apbctrl1 (Gptimer.device 0x80000310) (fun _ => OnlyDriven 0) ready calls w ∧
      ∃ finished, Group.hasFinished (Gptimer.device 0x80000310) 0 w = .ok (finished, w) ∧
        (finished = true ↔ HasUnderflowed 0 calls) := by
  obtain ⟨fresh, initialised⟩ : ∃ fresh, apbctrl1.init (Gptimer.device (apbctrl1.addressById .id1)) .id1 0 ⟨0, 0⟩
    Gptimer.blank = .ok ((), fresh) := ⟨_, rfl⟩
  obtain ⟨ready, configured⟩ : ∃ ready, apbctrl1.setConfigRegisters (Gptimer.device 0x80000310) 0
    ⟨true, false, false, false, 0xFFFFFFFF⟩ fresh = .ok ((), ready) := ⟨_, rfl⟩
  have run₁ : Run apbctrl1 (Gptimer.device 0x80000310) (fun _ => OnlyDriven 0) ready _ _ :=
    .snoc (i := .start 0) .nil (.inl rfl) rfl
  have run₂ := run₁.snoc (i := .tick) (.inr (.inr rfl)) rfl
  have run₃ := run₂.snoc (i := .stop 0) (.inr (.inl rfl)) rfl
  obtain ⟨finished, ran, told⟩ := hasFinished_iff apbctrl1 initialised configured run₃
  refine ⟨_, _, _, _, initialised, configured, rfl, run₃, finished, ran, told.2 ?_⟩
  rintro ⟨-, stop, later, since, input⟩
  cases since
  cases input

/-- All ones are loaded and the timer is stopped: it has finished without an underflow. -/
theorem finished_unexpired :
    ∃ fresh ready calls w, apbctrl1.init (Gptimer.device 0x80000310) .id1 0 ⟨0, 0⟩ Gptimer.blank = .ok ((), fresh) ∧
      apbctrl1.setConfigRegisters (Gptimer.device 0x80000310) 0 ⟨true, false, false, false, 0xFFFFFFFF⟩ fresh = .ok ((), ready) ∧
      calls.map (fun made => made.input) = [.start 0, .stop 0] ∧
      Run apbctrl1 (Gptimer.device 0x80000310) (fun _ => OnlyDriven 0) ready calls w ∧
      Group.hasFinished (Gptimer.device 0x80000310) 0 w = .ok (true, w) ∧ ¬ HasUnderflowed 0 calls := by
  obtain ⟨fresh, initialised⟩ : ∃ fresh, apbctrl1.init (Gptimer.device (apbctrl1.addressById .id1)) .id1 0 ⟨0, 0⟩
    Gptimer.blank = .ok ((), fresh) := ⟨_, rfl⟩
  obtain ⟨ready, configured⟩ : ∃ ready, apbctrl1.setConfigRegisters (Gptimer.device 0x80000310) 0
    ⟨true, false, false, false, 0xFFFFFFFF⟩ fresh = .ok ((), ready) := ⟨_, rfl⟩
  obtain ⟨_, w₁, start⟩ := exec_returns apbctrl1 (Gptimer.device 0x80000310) (.start 0) ready
  obtain ⟨_, w₂, stop⟩ := exec_returns apbctrl1 (Gptimer.device 0x80000310) (.stop 0) w₁
  have run₁ : Run apbctrl1 (Gptimer.device 0x80000310) (fun _ => OnlyDriven 0) ready _ w₁ := .snoc .nil (.inl rfl) start
  have started := run_driven (setUp_driven initialised configured) run₁
  obtain ⟨-, hw⟩ := exec_stop started.mine stop
  have log : w₂.hw.log = w₁.hw.log := by rw [hw, Gptimer.assign_plain _ started.plain (by decide) (by decide)]
  obtain ⟨calls, inputs, run, quiet, atOnce⟩ : ∃ calls, calls.map (fun made => made.input) = [.start 0, .stop 0] ∧
      Run apbctrl1 (Gptimer.device 0x80000310) (fun _ => OnlyDriven 0) ready calls w₂ ∧ ¬ HasUnderflowed 0 calls ∧
      StoppedAtOnce 0 calls := by
    refine ⟨_, rfl, run₁.snoc (.inr (.inl rfl)) stop, not_hasUnderflowed rfl ?_, _, _, rfl, rfl⟩
    exact List.forall_mem_singleton.2 (not_underflows_of_log log)
  obtain ⟨finished, ran, told⟩ := (run_driven (setUp_driven initialised configured) run).hasFinished_returns
  refine ⟨fresh, ready, calls, w₂, initialised, configured, inputs, run, ?_, quiet⟩
  cases finished with
  | true => exact ran
  | false => exact absurd ⟨rfl, atOnce⟩ (told.1 (iff_of_false Bool.false_ne_true quiet))

end Leon3Bsp.Timer
