import Leon3Bsp.Lib.Movers
import Leon3Bsp.Timer.Gptimers

/-!
# Clocks that a stopped timer lets pass

The log of a timer tells its ticks too, which no register does. Up to these, a
stopped timer is the same after a clock, and what is done to it before the clock
may as well be done after it.
-/

namespace Leon3Bsp.Timer
set_option autoImplicit false
open Wp Cascade Movers

namespace Gptimer

/-- The timer with its loads and underflows alone. -/
def settled (g : Gptimer) : Gptimer :=
  { g with log := g.log.filter (· ≠ .ticked) }

/-- What is done to a timer does not depend on its log. -/
def Blind (f : Gptimer → Gptimer) : Prop :=
  ∀ g, (f g).settled = f g.settled

variable {g : Gptimer}

theorem settled_idem (g : Gptimer) : g.settled.settled = g.settled := by
  simp [settled]

theorem write_blind (value : Word) (field : Field) : Blind fun g => g.write value field := by
  intro g
  cases field with
  | control =>
    show (g.writeControl value).settled = g.settled.writeControl value
    unfold writeControl
    split <;> simp [settled]
  | _ => rfl

/-- A control word enables the timer or not. -/
theorem writeControl_enabled (g : Gptimer) (value : Word) :
    getFlag (g.writeControl value).control Control.EN = getFlag value Control.EN := by
  unfold writeControl
  split
  · rw [getFlag_withFlag _ _ (by decide), if_neg (by decide)]
  · rfl

theorem settled_tick (g : Gptimer) : g.tick.settled = g.settled.tick.settled := by
  have flags (flag : Nat) : getFlag g.settled.control flag = getFlag g.control flag := rfl
  have counter : g.settled.counter = g.counter := rfl
  unfold tick underflow
  rw [flags, flags, flags, counter]
  split
  · split
    · split <;> simp [settled]
    · simp [settled]
  · simp [settled]

/-- A tick of a stopped timer. -/
theorem settled_stopped (stopped : getFlag g.control Control.EN = false) : g.tick.settled = g.settled := by
  rw [tick_stopped stopped]
  simp [settled]

end Gptimer

section Row

open Gptimer (stage)

variable {g : Gptimer} {row : List Gptimer}

theorem turn_stopped (stopped : getFlag g.control Control.EN = false) (carry : Bool) :
    (stage.turn carry g).1 = false ∧ (stage.turn carry g).2.settled = g.settled := by
  unfold Stage.turn
  split
  · exact ⟨rfl, rfl⟩
  · refine ⟨?_, Gptimer.settled_stopped stopped⟩
    simp [stage, stopped]

/-- A turn of the stage of a timer clears `EN` at most. -/
theorem turn_clear (carry : Bool) (g : Gptimer) :
    withFlag (stage.turn carry g).2.control false Control.EN = withFlag g.control false Control.EN := by
  unfold Stage.turn
  split
  · rfl
  · show withFlag g.tick.control false Control.EN = _
    unfold Gptimer.tick Gptimer.underflow
    split
    · split
      · split
        · rfl
        · simp [withFlag, BitVec.and_assoc]
      · rfl
    · rfl

/-- A turn that disables a timer is an underflow of one that runs once. -/
theorem turn_underflowed {carry : Bool} (enabled : getFlag g.control Control.EN = true)
    (stops : getFlag (stage.turn carry g).2.control Control.EN = false) : (stage.turn carry g).2.counter = UNDERFLOWED := by
  unfold Stage.turn at stops ⊢
  split at stops
  · rw [enabled] at stops
    cases stops
  · rename_i steps
    rw [if_neg steps]
    show g.tick.counter = UNDERFLOWED
    have stopped : getFlag g.tick.control Control.EN = false := stops
    unfold Gptimer.tick Gptimer.underflow at stopped ⊢
    rw [if_pos enabled] at stopped ⊢
    split at stopped
    · rename_i expired
      rw [if_pos expired]
      split at stopped
      · rw [enabled] at stopped
        cases stopped
      · rename_i once
        rw [if_neg once]
        rfl
    · rw [enabled] at stopped
      cases stopped

theorem settled_turn (carry : Bool) (g : Gptimer) : (stage.turn carry g).1 = (stage.turn carry g.settled).1 ∧
    (stage.turn carry g).2.settled = (stage.turn carry g.settled).2.settled := by
  have gated : stage.gated g.settled = stage.gated g := rfl
  unfold Stage.turn
  rw [gated]
  split
  · exact ⟨rfl, g.settled_idem.symm⟩
  · exact ⟨rfl, g.settled_tick⟩

theorem settled_round (carry : Bool) (row : List Gptimer) :
    (stage.round carry row).map Gptimer.settled = (stage.round carry (row.map Gptimer.settled)).map Gptimer.settled := by
  induction row generalizing carry with
  | nil => rfl
  | cons g rest ih =>
    obtain ⟨carried, turned⟩ := settled_turn carry g
    rw [Stage.round, List.map_cons, List.map_cons, Stage.round, List.map_cons, ← carried, turned, ih]

/-- A round of a row in which a stopped timer is changed and stays stopped. -/
theorem settled_round_modify (carry : Bool) {f : Gptimer → Gptimer} (blind : Gptimer.Blind f) {n : Nat}
    (stopped : ∀ timer ∈ row[n]?, getFlag timer.control Control.EN = false ∧ getFlag (f timer).control Control.EN = false) :
    (stage.round carry (row.modify n f)).map Gptimer.settled = ((stage.round carry row).modify n f).map Gptimer.settled := by
  induction row generalizing n carry with
  | nil => rw [List.modify_nil, Stage.round, List.modify_nil]
  | cons first rest ih =>
    cases n with
    | zero =>
      obtain ⟨stops, stays⟩ := stopped first rfl
      obtain ⟨carried, turned⟩ := turn_stopped stops carry
      obtain ⟨carried', turned'⟩ := turn_stopped stays carry
      simp only [List.modify_zero_cons, Stage.round, List.map_cons, carried, carried', turned', blind _, turned]
    | succ n =>
      simp only [List.modify_succ_cons, Stage.round, List.map_cons]
      rw [ih _ stopped]

end Row

namespace Gptimers

/-- What can be seen of the timers of a group. -/
def settled (g : Gptimers) : Gptimers :=
  { g with timers := g.timers.map Gptimer.settled }

variable {g h : Gptimers}

theorem settled_clock (g : Gptimers) : g.clock.settled = g.settled.clock.settled := by
  have scaler : g.settled.scaler = g.scaler := rfl
  have timers : g.settled.timers = g.timers.map Gptimer.settled := rfl
  unfold clock
  rw [scaler]
  split
  · rw [settled, settled, settled_round, ← timers]
    rfl
  · simp [settled, Function.comp_def, Gptimer.settled_idem]

theorem settled_change {f : Gptimer → Gptimer} (blind : Gptimer.Blind f) (slot : Option Nat) (g : Gptimers) :
    (g.change slot f).settled = g.settled.change slot f := by
  cases slot with
  | none => rfl
  | some n =>
    have timers : (g.timers.modify n f).map Gptimer.settled = (g.timers.map Gptimer.settled).modify n f := by
      apply List.ext_getElem?
      intro m
      simp only [List.getElem?_map, List.getElem?_modify]
      cases g.timers[m]? with
      | none => rfl
      | some timer =>
        by_cases here : n = m
        · simp [here, blind timer]
        · simp [here]
    simp only [change, settled, timers]

/-- What is done to a timer that can be seen by the driver. -/
theorem settled_write (base : Nat) (r : Register) (value : Word) (g : Gptimers) :
    (g.write base r value).settled = g.settled.write base r value := by
  unfold write
  split
  · split <;> rfl
  · exact settled_change (Gptimer.write_blind value r.field) _ g

theorem settled_read (base : Nat) (r : Register) (g : Gptimers) : g.settled.read base r = g.read base r := by
  unfold read
  split
  · rfl
  · cases slot base r.pointer with
    | none => rfl
    | some n =>
      simp only [settled, Option.bind_some, List.getElem?_map]
      cases g.timers[n]? with
      | none => rfl
      | some timer => cases r.field <;> rfl

/-- The timer with the registers at `pointer`. -/
def timerAt (base pointer : Nat) (g : Gptimers) : Option Gptimer :=
  (slot base pointer).bind fun n => g.timers[n]?

theorem read_timerAt (base pointer : Nat) {field : Field} (g : Gptimers)
    (own : field = .counter ∨ field = .reload ∨ field = .control) :
    g.read base ⟨pointer, field⟩ = (g.timerAt base pointer).elim 0 fun timer => timer.read field :=
  read_timer base pointer g own

theorem timerAt_change (base pointer : Nat) (f : Gptimer → Gptimer) (g : Gptimers) :
    (g.change (slot base pointer) f).timerAt base pointer = (g.timerAt base pointer).map f := by
  unfold timerAt
  cases slot base pointer with
  | none => rfl
  | some n => rw [Option.bind_some, Option.bind_some, change_timers, if_pos rfl]

/-- In a clock a timer of the row has its turn, or the scaler counts. -/
theorem clock_timerAt (base pointer : Nat) (g : Gptimers) : g.clock.timerAt base pointer = g.timerAt base pointer ∨
    ∃ carry, g.clock.timerAt base pointer = (g.timerAt base pointer).map fun timer => (Gptimer.stage.turn carry timer).2 := by
  unfold timerAt
  cases slot base pointer with
  | none => exact Or.inl rfl
  | some n =>
    simp only [Option.bind_some, clock]
    split
    · exact Or.inr (Gptimer.stage.getElem?_round false g.timers n)
    · exact Or.inl rfl

/-- A register that every turn keeps a clock keeps. -/
theorem read_clock {base pointer : Nat} {field : Field} (own : field = .counter ∨ field = .reload ∨ field = .control)
    (kept : ∀ timer ∈ g.timerAt base pointer, ∀ carry, (Gptimer.stage.turn carry timer).2.read field = timer.read field) :
    g.clock.read base ⟨pointer, field⟩ = g.read base ⟨pointer, field⟩ := by
  rw [read_timerAt _ _ _ own, read_timerAt _ _ _ own]
  rcases clock_timerAt base pointer g with same | ⟨carry, turned⟩
  · rw [same]
  · rw [turned]
    cases there : g.timerAt base pointer with
    | none => rfl
    | some timer => exact kept timer there carry

/-- The timer with the registers at `pointer` is stopped. -/
def StoppedAt (base pointer : Nat) (g : Gptimers) : Prop :=
  getFlag (g.read base ⟨pointer, .control⟩) Control.EN = false

theorem stoppedAt_iff {base pointer : Nat} {g : Gptimers} :
    g.StoppedAt base pointer ↔ ∀ timer ∈ g.timerAt base pointer, getFlag timer.control Control.EN = false := by
  unfold StoppedAt
  rw [read_timerAt _ _ _ (.inr (.inr rfl))]
  cases g.timerAt base pointer with
  | none => simp [getFlag]
  | some timer => simp [Gptimer.read]

theorem stoppedAt_seen {base pointer : Nat} (same : g.settled = h.settled) (stopped : g.StoppedAt base pointer) :
    h.StoppedAt base pointer := by
  unfold StoppedAt at stopped ⊢
  rwa [← settled_read, ← same, settled_read]

/-- The registers of a stopped timer stand still. -/
theorem read_stopped {base pointer : Nat} {field : Field} (stopped : g.StoppedAt base pointer)
    (own : field = .counter ∨ field = .reload ∨ field = .control) :
    g.clock.read base ⟨pointer, field⟩ = g.read base ⟨pointer, field⟩ := by
  refine read_clock own fun timer there carry => ?_
  obtain ⟨-, same⟩ := turn_stopped (stoppedAt_iff.1 stopped timer there) carry
  have fields (t : Gptimer) : t.settled.read field = t.read field := by cases field <;> rfl
  rw [← fields, same, fields]

/-- So does the reload register of any timer. -/
theorem read_reload (base pointer : Nat) (g : Gptimers) :
    g.clock.read base ⟨pointer, .reload⟩ = g.read base ⟨pointer, .reload⟩ :=
  read_clock (.inr (.inl rfl)) fun timer _ carry => timer.turn_reload carry

/-- And the control register of any timer but for `EN`. -/
theorem read_clear (base pointer : Nat) (g : Gptimers) :
    withFlag (g.clock.read base ⟨pointer, .control⟩) false Control.EN = withFlag (g.read base ⟨pointer, .control⟩) false Control.EN := by
  rw [read_timerAt _ _ _ (.inr (.inr rfl)), read_timerAt _ _ _ (.inr (.inr rfl))]
  rcases clock_timerAt base pointer g with same | ⟨carry, turned⟩
  · rw [same]
  · rw [turned]
    cases g.timerAt base pointer with
    | none => rfl
    | some timer => exact turn_clear carry timer

theorem stoppedAt_clock {base pointer : Nat} (stopped : g.StoppedAt base pointer) : g.clock.StoppedAt base pointer := by
  unfold StoppedAt
  rw [read_stopped stopped (.inr (.inr rfl))]
  exact stopped

theorem clocks_reload (base pointer : Nat) (n : Nat) (g : Gptimers) :
    (clock^[n] g).read base ⟨pointer, .reload⟩ = g.read base ⟨pointer, .reload⟩ := by
  induction n generalizing g with
  | zero => rfl
  | succ n ih => exact (ih g.clock).trans (read_reload base pointer g)

theorem clocks_clear (base pointer : Nat) (n : Nat) (g : Gptimers) :
    withFlag ((clock^[n] g).read base ⟨pointer, .control⟩) false Control.EN =
      withFlag (g.read base ⟨pointer, .control⟩) false Control.EN := by
  induction n generalizing g with
  | zero => rfl
  | succ n ih => exact (ih g.clock).trans (read_clear base pointer g)

theorem clocks_stopped {base pointer : Nat} (stopped : g.StoppedAt base pointer) (n : Nat) :
    (clock^[n] g).read base ⟨pointer, .counter⟩ = g.read base ⟨pointer, .counter⟩ := by
  induction n generalizing g with
  | zero => rfl
  | succ n ih => exact (ih (stoppedAt_clock stopped)).trans (read_stopped stopped (.inl rfl))

/-- Whether a timer has finished does not change from the look at its control
register to the look at its counter. -/
theorem hasFinished_clocks (base pointer : Nat) (n : Nat) (g : Gptimers) :
    hasFinished (g.read base ⟨pointer, .control⟩) ((clock^[n] g).read base ⟨pointer, .counter⟩) =
      hasFinished (g.read base ⟨pointer, .control⟩) (g.read base ⟨pointer, .counter⟩) := by
  cases enabled : getFlag (g.read base ⟨pointer, .control⟩) Control.EN with
  | true => simp [hasFinished, enabled]
  | false => rw [clocks_stopped enabled]

theorem stoppedAt_clocks {base pointer : Nat} (stopped : g.StoppedAt base pointer) (n : Nat) :
    (clock^[n] g).StoppedAt base pointer := by
  induction n generalizing g with
  | zero => exact stopped
  | succ n ih => exact ih (stoppedAt_clock stopped)

/-- The clock in which a timer is disabled leaves it all ones. -/
theorem clock_underflowed {base pointer : Nat} (enabled : getFlag (g.read base ⟨pointer, .control⟩) Control.EN = true)
    (stops : g.clock.StoppedAt base pointer) : g.clock.read base ⟨pointer, .counter⟩ = UNDERFLOWED := by
  unfold StoppedAt at stops
  rw [read_timerAt _ _ _ (.inr (.inr rfl))] at enabled stops
  rw [read_timerAt _ _ _ (.inl rfl)]
  rcases clock_timerAt base pointer g with same | ⟨carry, turned⟩
  · rw [same, enabled] at stops
    cases stops
  · rw [turned] at stops ⊢
    cases there : g.timerAt base pointer with
    | none => simp [there, getFlag] at enabled
    | some timer =>
      rw [there] at enabled stops
      exact turn_underflowed enabled stops

/-- So it stays. -/
theorem clocks_underflowed {base pointer : Nat} {n : Nat}
    (enabled : getFlag (g.read base ⟨pointer, .control⟩) Control.EN = true) (stops : (clock^[n] g).StoppedAt base pointer) :
    (clock^[n] g).read base ⟨pointer, .counter⟩ = UNDERFLOWED := by
  induction n generalizing g with
  | zero =>
    have stopped : getFlag (g.read base ⟨pointer, .control⟩) Control.EN = false := stops
    rw [enabled] at stopped
    cases stopped
  | succ n ih =>
    cases next : getFlag (g.clock.read base ⟨pointer, .control⟩) Control.EN with
    | true => exact ih next stops
    | false => exact (clocks_stopped next n).trans (clock_underflowed enabled next)

/-- Where the counter is looked at first, the answer is right at the one look or the
other. -/
theorem hasFinished_last (base pointer : Nat) (n : Nat) (g : Gptimers) : ∃ j k, j + k = n ∧
    hasFinished ((clock^[n] g).read base ⟨pointer, .control⟩) (g.read base ⟨pointer, .counter⟩) =
      hasFinished ((clock^[j] g).read base ⟨pointer, .control⟩) ((clock^[j] g).read base ⟨pointer, .counter⟩) := by
  cases enabled : getFlag (g.read base ⟨pointer, .control⟩) Control.EN with
  | false =>
    have later : getFlag ((clock^[n] g).read base ⟨pointer, .control⟩) Control.EN = false := stoppedAt_clocks enabled n
    refine ⟨0, n, Nat.zero_add n, ?_⟩
    simp only [hasFinished, Function.iterate_zero, id_eq, enabled, later]
    rfl
  | true =>
    cases later : getFlag ((clock^[n] g).read base ⟨pointer, .control⟩) Control.EN with
    | true =>
      refine ⟨0, n, Nat.zero_add n, ?_⟩
      simp only [hasFinished, Function.iterate_zero, id_eq, enabled, later]
      rfl
    | false =>
      by_cases ones : g.read base ⟨pointer, .counter⟩ = UNDERFLOWED
      · -- it is disabled between the looks, by an underflow
        refine ⟨n, 0, Nat.add_zero n, ?_⟩
        rw [ones, clocks_underflowed enabled later]
      · refine ⟨0, n, Nat.zero_add n, ?_⟩
        simp [hasFinished, enabled, ones]

/-- A change of a stopped timer that leaves it stopped passes a clock. -/
theorem clock_change {base pointer : Nat} {f : Gptimer → Gptimer} (blind : Gptimer.Blind f) (stopped : g.StoppedAt base pointer)
    (stays : ∀ timer ∈ g.timerAt base pointer, getFlag (f timer).control Control.EN = false) :
    (g.change (slot base pointer) f).clock.settled = (g.clock.change (slot base pointer) f).settled := by
  rw [stoppedAt_iff] at stopped
  cases here : slot base pointer with
  | none => rfl
  | some n =>
    have row : ∀ timer ∈ g.timers[n]?, getFlag timer.control Control.EN = false ∧ getFlag (f timer).control Control.EN = false := by
      intro timer there
      have mine : timer ∈ g.timerAt base pointer := by rwa [timerAt, here]
      exact ⟨stopped timer mine, stays timer mine⟩
    have round := settled_round_modify false blind row
    unfold clock
    rw [change_scaler]
    split
    · exact congrArg (fun timers => { g with scaler := g.scalerReload, timers }) round
    · rfl

theorem write_stays {timer : Gptimer} {field : Field} {value : Word} (stopped : getFlag timer.control Control.EN = false)
    (clear : field = .control → getFlag value Control.EN = false) : getFlag (timer.write value field).control Control.EN = false := by
  cases field with
  | control => exact (timer.writeControl_enabled value).trans (clear rfl)
  | _ => exact stopped

theorem stoppedAt_write {base pointer : Nat} {field : Field} {value : Word} (own : field = .counter ∨ field = .reload ∨ field = .control)
    (stopped : field = .control ∨ g.StoppedAt base pointer) (clear : field = .control → getFlag value Control.EN = false) :
    (g.write base ⟨pointer, field⟩ value).StoppedAt base pointer := by
  rw [write_timer base pointer value g own, stoppedAt_iff, timerAt_change]
  intro timer member
  obtain ⟨before, there, rfl⟩ := Option.mem_map.1 member
  rcases stopped with rfl | stopped
  · exact (before.writeControl_enabled value).trans (clear rfl)
  · exact write_stays (stoppedAt_iff.1 stopped before there) clear

/-- A register of a stopped timer is written before a clock or after it. -/
theorem clock_write {base pointer : Nat} {field : Field} {value : Word} (own : field = .counter ∨ field = .reload ∨ field = .control)
    (stopped : g.StoppedAt base pointer) (clear : field = .control → getFlag value Control.EN = false) :
    (g.write base ⟨pointer, field⟩ value).clock.settled = (g.clock.write base ⟨pointer, field⟩ value).settled := by
  rw [write_timer base pointer value g own, write_timer base pointer value g.clock own]
  refine clock_change (Gptimer.write_blind value field) stopped fun timer there => ?_
  exact write_stays (stoppedAt_iff.1 stopped timer there) clear

end Gptimers

end Leon3Bsp.Timer
