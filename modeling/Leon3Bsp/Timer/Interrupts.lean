import Leon3Bsp.Timer.Timing

/-!
# From an underflow to the callback

The interrupts between the hardware and the callbacks of `Apbctrl1`: an underflow
of a timer leaves its vector pending, `init` clears it, and RTEMS serves a vector
that is pending and enabled through the entry installed on it. A dispatch may come
at any time between the calls. Every interrupt of a running timer is served by one
callback, unless another one came before it was.
-/

namespace Leon3Bsp.Timer
set_option autoImplicit false
open Wp Execution Cascade

/-- The driver on its hardware, and the callbacks that were made, each with its
vector. -/
structure Machine where
  world : World Gptimers
  called : List (Nat × InterruptHandler)

/-- A call of the driver, or RTEMS serves a vector. -/
inductive Step
  | call (call : Call)
  | serve (vector : Nat)
  deriving DecidableEq

def Id.all : List Id :=
  [.id0, .id1, .id2, .id3, .id4, .max]

/-- A timer with the vector raised its interrupt. -/
def Group.raises (group : Group) (vector : Nat) (before after : Gptimers) : Bool :=
  Id.all.any fun id => group.interruptNumber id = vector &&
    (group.place id).any fun n => before.interrupts n < after.interrupts n

namespace Machine

variable (m : Machine)

/-- The driver has brought the machine to `world`, and timers may have raised their
interrupts meanwhile. -/
def reaches (world : World Gptimers) : Machine :=
  { m with world := world.withRtems (world.rtems.raise fun vector => apbctrl1.raises vector m.world.hw world.hw) }

/-- `Timer_handleIrq`, on the handler of the entry. -/
def handleIrq (vector : Nat) (handler : InterruptHandler) : Machine :=
  { m with called := m.called ++ [(vector, handler)] }

/-- The vector is not pending any more. -/
def acknowledged (vector : Nat) : Machine :=
  { m with world := m.world.withRtems (m.world.rtems.interruptClear vector) }

/-- RTEMS serves a vector. -/
def serve (vector : Nat) : Machine :=
  if m.world.rtems.pending vector && m.world.rtems.enabled vector then
    match m.world.rtems.installed vector with
    | some entry => (m.acknowledged vector).handleIrq vector (m.world.timers entry).irqHandler
    | none => m.acknowledged vector
  else m

def exec : Step → Program Empty Machine Answer
  | .call call => fun m =>
    match Apbctrl1.exec apbctrl1.gptimers call m.world with
    | .ok (answer, world) => .ok (answer, m.reaches world)
    | .error e => .error e
  | .serve vector => act fun m => (.done, m.serve vector)

variable {m}

theorem reaches_pending (world : World Gptimers) (vector : Nat) : (m.reaches world).world.rtems.pending vector =
    (world.rtems.pending vector || apbctrl1.raises vector m.world.hw world.hw) := rfl

/-- A dispatch changes no more of the world than what is pending. -/
theorem serve_world (vector : Nat) (m : Machine) : (m.serve vector).world = m.world ∨
    (m.serve vector).world = (m.acknowledged vector).world := by
  unfold serve
  split
  · split <;> exact .inr rfl
  · exact .inl rfl

theorem serve_kept (vector : Nat) (m : Machine) : (m.serve vector).world.timers = m.world.timers ∧
    (m.serve vector).world.hw = m.world.hw ∧ (m.serve vector).world.rtems.enabled = m.world.rtems.enabled ∧
    (m.serve vector).world.rtems.installed = m.world.rtems.installed := by
  rcases m.serve_world vector with same | acknowledged
  · rw [same]
    exact ⟨rfl, rfl, rfl, rfl⟩
  · rw [acknowledged]
    exact ⟨rfl, rfl, rfl, rfl⟩

theorem exec_call_iff {call : Call} {answer : Answer} {m' : Machine} : exec (.call call) m = .ok (answer, m') ↔
    ∃ world, Timer.exec apbctrl1 apbctrl1.gptimers call m.world = .ok (answer, world) ∧ m' = m.reaches world := by
  rw [← Apbctrl1.exec_eq]
  constructor
  · intro run
    dsimp only [exec] at run
    split at run
    · rename_i answer' world ran
      cases run
      exact ⟨world, ran, rfl⟩
    · rename_i e ran
      exact e.elim
  · rintro ⟨world, ran, rfl⟩
    dsimp only [exec]
    rw [ran]

theorem exec_returns (step : Step) (m : Machine) : ∃ answer m', exec step m = .ok (answer, m') := by
  cases step with
  | call call =>
    obtain ⟨answer, world, ran⟩ := Timer.exec_returns apbctrl1 apbctrl1.gptimers call m.world
    exact ⟨answer, _, exec_call_iff.2 ⟨world, ran, rfl⟩⟩
  | serve vector => exact ⟨_, _, rfl⟩

/-- The callbacks made for a vector. -/
def callbacks (m : Machine) (vector : Nat) : List InterruptHandler :=
  (m.called.filter fun made => made.1 = vector).map fun made => made.2

theorem callbacks_handleIrq (vector other : Nat) (m : Machine) (handler : InterruptHandler) :
    (m.handleIrq other handler).callbacks vector =
      m.callbacks vector ++ if other = vector then [handler] else [] := by
  simp only [callbacks, handleIrq, List.filter_append, List.map_append]
  by_cases same : other = vector <;> simp [same]

/-- A dispatch makes the callback of the entry, where its vector is due. -/
theorem serve_callbacks (vector other : Nat) (m : Machine) : (m.serve other).callbacks vector = m.callbacks vector ++
    if other = vector ∧ m.world.rtems.pending vector = true ∧ m.world.rtems.enabled vector = true then
      (m.world.rtems.installed vector).toList.map fun entry => (m.world.timers entry).irqHandler
    else [] := by
  have acknowledged : (m.acknowledged other).callbacks vector = m.callbacks vector := rfl
  unfold serve
  split
  · rename_i due
    rw [Bool.and_eq_true] at due
    split
    · rename_i entry installed
      rw [callbacks_handleIrq, acknowledged]
      by_cases same : other = vector
      · subst same
        rw [if_pos rfl, if_pos ⟨rfl, due⟩, installed]
        rfl
      · rw [if_neg same, if_neg fun own => same own.1]
    · rename_i installed
      rw [acknowledged]
      by_cases same : other = vector
      · subst same
        rw [installed, Option.toList_none, List.map_nil, ite_self, List.append_nil]
      · rw [if_neg fun own => same own.1, List.append_nil]
  · rename_i idle
    rw [if_neg, List.append_nil]
    rintro ⟨rfl, due⟩
    exact idle (Bool.and_eq_true_iff.2 due)

theorem serve_pending (vector other : Nat) (m : Machine) : (m.serve other).world.rtems.pending vector =
    (m.world.rtems.pending vector && !(other = vector && m.world.rtems.enabled vector)) := by
  unfold serve
  split
  · rename_i due
    rw [Bool.and_eq_true] at due
    have acknowledged : (m.acknowledged other).world.rtems.pending vector =
        (m.world.rtems.pending vector && !(other = vector && m.world.rtems.enabled vector)) := by
      rw [acknowledged, World.withRtems_rtems, Rtems.interruptClear_pending]
      by_cases same : other = vector
      · subst same
        simp [due.2]
      · rw [if_neg (Ne.symm same)]
        simp [same]
    split <;> exact acknowledged
  · rename_i idle
    by_cases same : other = vector
    · subst same
      rw [Bool.and_eq_true, not_and, Bool.not_eq_true] at idle
      cases pending : m.world.rtems.pending other with
      | false => rfl
      | true => rw [idle pending, Bool.and_false, Bool.not_false, Bool.and_true]
    · simp [same]

end Machine

theorem Gptimer.turn_interrupts (timer : Gptimer) (carry : Bool) :
    (stage.turn carry timer).2.log.count (.underflowed true) = timer.log.count (.underflowed true) ∨
      (stage.turn carry timer).2.log.count (.underflowed true) = timer.log.count (.underflowed true) + 1 := by
  have tick : ∃ event, timer.tick.log = timer.log ++ [event] := by
    unfold tick
    split
    · split
      · exact ⟨_, timer.underflow_log⟩
      · exact ⟨_, rfl⟩
    · exact ⟨_, rfl⟩
  obtain ⟨event, log⟩ := tick
  unfold Stage.turn
  split
  · exact .inl rfl
  · show timer.tick.log.count _ = _ ∨ timer.tick.log.count _ = _
    rw [log, List.count_append, List.count_singleton]
    split
    · exact .inr rfl
    · exact .inl rfl

/-- A clock raises the interrupt of a timer once at most. -/
theorem Gptimers.clock_interrupts (n : Nat) (g : Gptimers) :
    g.clock.interrupts n = g.interrupts n + (decide (g.interrupts n < g.clock.interrupts n)).toNat := by
  have once : g.clock.interrupts n = g.interrupts n ∨ g.clock.interrupts n = g.interrupts n + 1 := by
    by_cases zero : g.scaler = 0
    · obtain ⟨carry, turned⟩ := Gptimer.stage.getElem?_round false g.timers n
      rw [clock, if_pos zero, interrupts, interrupts, turned]
      cases g.timers[n]? with
      | none => exact .inl rfl
      | some timer => exact timer.turn_interrupts carry
    · rw [clock, if_neg zero]
      exact .inl rfl
  rcases once with same | more
  · rw [same, decide_eq_false (Nat.lt_irrefl _), Bool.toNat_false, Nat.add_zero]
  · rw [more, decide_eq_true (Nat.lt_succ_self _), Bool.toNat_true]

/-- Each timer of `Apbctrl1` has a vector of its own. -/
theorem apbctrl1_raises {id : Id} {n : Nat} (placed : apbctrl1.place id = some n) (before after : Gptimers) :
    apbctrl1.raises (apbctrl1.interruptNumber id) before after = decide (before.interrupts n < after.interrupts n) := by
  have vectors : apbctrl1.interruptNumber .id1 = 8 ∧ apbctrl1.interruptNumber .id2 = 9 ∧
      apbctrl1.interruptNumber .id3 = 10 ∧ apbctrl1.interruptNumber .id4 = 11 := ⟨rfl, rfl, rfl, rfl⟩
  rw [apbctrl1_place] at placed
  cases id with
  | id0 | max => cases placed
  | id1 | id2 | id3 | id4 =>
    cases placed
    simp [Group.raises, Id.all, apbctrl1_place, vectors]

/-- The call is not for a timer with the vector. -/
def Elsewhere (group : Group) (vector : Nat) (w : World Gptimers) (call : Call) : Prop :=
  call.leavesEnabled.isSome → (w.target call).map group.interruptNumber ≠ some vector

section Apart

variable {group : Group} {timer : TimerRef} {vector n : Nat} {w w' : World Gptimers} {call : Call} {answer : Answer}

/-- Such a call leaves the vector as it is. -/
theorem exec_elsewhere (elsewhere : Elsewhere group vector w call)
    (run : exec group (Gptimers.device group.addressBase) call w = .ok (answer, w')) :
    w'.rtems.enabled vector = w.rtems.enabled vector ∧ w'.rtems.installed vector = w.rtems.installed vector := by
  rw [exec_rtems run, Group.onRtems_enabled, Group.onRtems_installed]
  cases call with
  | init id other handler =>
    have apart : some (group.interruptNumber id) ≠ some vector := elsewhere rfl
    refine ⟨if_neg apart, ?_⟩
    dsimp only [Rtems.entryInstall]
    split
    · exact Function.update_of_ne (fun same => apart (congrArg some same.symm)) _ _
    · rfl
  | shutdown other =>
    have apart : some (group.interruptNumber (w.timers other).id) ≠ some vector := elsewhere rfl
    refine ⟨if_neg apart, ?_⟩
    dsimp only
    rw [Rtems.entryRemove_installed]
    split
    · exact Function.update_of_ne (fun same => apart (congrArg some same.symm)) _ _
    · rfl
  | setConfigRegisters | start | stop => exact ⟨if_neg (elsewhere rfl), rfl⟩
  | _ => exact ⟨ite_self _, rfl⟩

theorem exec_interrupts (apart : Apart group [timer] n 1 w call) (still : call ≠ .tick)
    (run : exec group (Gptimers.device group.addressBase) call w = .ok (answer, w')) :
    w'.hw.interrupts n = w.hw.interrupts n := by
  have other : group.placeOf w call ≠ some n := by
    intro same
    have outside : ∀ slot, slot = some n → ¬ Outside n 1 slot := by
      rintro _ rfl outside
      have := outside n rfl
      omega
    cases call with
    | init => exact outside _ same apart.2
    | setConfigRegisters | start | stop | shutdown => exact outside _ same apart
    | _ => cases same
  rw [Gptimers.interrupts, (exec_does run).timer still, if_neg other, Gptimers.interrupts]

/-- `init` raises no interrupt. -/
theorem init_interrupts {id : Id} {handler : InterruptHandler}
    (run : exec group (Gptimers.device group.addressBase) (.init id timer handler) w = .ok (answer, w')) :
    w'.hw.interrupts n = w.hw.interrupts n := by
  have log (g : Gptimer) : g.cleared.log = g.log := by
    have plain : getFlag 0 Control.LD = false := by decide
    simp only [Gptimer.cleared, Gptimer.write, Gptimer.writeControl_plain plain]
  rw [Gptimers.interrupts, (exec_does run).timer (by simp), Gptimers.interrupts]
  split
  · cases w.hw.timers[n]? with
    | none => rfl
    | some g => exact congrArg (List.count _) (log g)
  · rfl

end Apart

namespace Machine

/-- A dispatch, or a call that is neither for the timer nor for its vector. -/
def Beside (timer : TimerRef) (vector n : Nat) (m : Machine) : Step → Prop
  | .call call => Apart apbctrl1 [timer] n 1 m.world call ∧ Elsewhere apbctrl1 vector m.world call
  | .serve _ => True

/-- Dispatches, clocks, and calls for other timers and vectors. -/
def Meanwhile (timer : TimerRef) (vector n : Nat) (m m' : Machine) : Prop :=
  ∃ steps, Execution.Run exec (Beside timer vector n) m steps m'

/-- How often the timer raised its interrupt while its vector was still pending. -/
def overruns (vector n : Nat) (steps : List (Taken Machine Step Answer)) : Nat :=
  steps.countP fun taken => taken.before.world.rtems.pending vector &&
    taken.before.world.hw.interrupts n < taken.after.world.hw.interrupts n

/-- How many clocks have passed. -/
def clocks (steps : List (Taken Machine Step Answer)) : Nat :=
  steps.countP fun taken => taken.input = .call .tick

/-- The entry of the descriptor is on the vector. -/
structure Wired (timer : TimerRef) (vector : Nat) (m : Machine) : Prop where
  installed : m.world.rtems.installed vector = some timer
  enabled : m.world.rtems.enabled vector = true

section Beside

variable {timer : TimerRef} {vector n passed : Nat} {m m' : Machine} {steps : List (Taken Machine Step Answer)}
variable {step : Step} {call : Call} {answer : Answer}

theorem clocks_snoc (taken : Taken Machine Step Answer) :
    clocks (steps ++ [taken]) = clocks steps + if taken.input = .call .tick then 1 else 0 := by
  rw [clocks, List.countP_append, List.countP_singleton, clocks]
  simp

theorem overruns_snoc (vector n : Nat) (taken : Taken Machine Step Answer) : overruns vector n (steps ++ [taken]) =
    overruns vector n steps + (taken.before.world.rtems.pending vector &&
      decide (taken.before.world.hw.interrupts n < taken.after.world.hw.interrupts n)).toNat := by
  rw [overruns, List.countP_append, List.countP_singleton, overruns]
  cases (_ && _ : Bool) <;> rfl

theorem exec_does (run : exec (.call call) m = .ok (answer, m')) : apbctrl1.Does call m.world m'.world := by
  obtain ⟨world, ran, rfl⟩ := exec_call_iff.1 run
  exact ⟨(Timer.exec_does ran).timers, (Timer.exec_does ran).hw⟩

/-- What lasts in the driver's world lasts on the machine. -/
theorem lasts_step {J : Nat → World Gptimers → Prop} (lasts : Lasts [timer] n 1 J) (holds : J passed m.world)
    (beside : Beside timer vector n m step) (run : exec step m = .ok (answer, m')) :
    J (passed + if step = .call .tick then 1 else 0) m'.world := by
  cases step with
  | call call =>
    have done := lasts.does holds beside.1 (exec_does run)
    simp only [Step.call.injEq]
    exact done
  | serve other =>
    cases run
    obtain ⟨timers, hw, -, -⟩ := m.serve_kept other
    rw [if_neg (by simp)]
    refine lasts.besides _ _ _ holds (fun _ _ => congrFun timers _) ?_ ?_ ?_ <;> rw [hw]

theorem lasts_run {J : Nat → World Gptimers → Prop} (lasts : Lasts [timer] n 1 J) (holds : J passed m.world)
    (run : Execution.Run exec (Beside timer vector n) m steps m') : J (passed + clocks steps) m'.world := by
  apply run.invariant (I := fun steps m => J (passed + clocks steps) m.world)
  · exact holds
  · intro steps m step answer m' holds beside ran
    rw [clocks_snoc, ← Nat.add_assoc]
    exact lasts_step lasts holds beside ran

/-- The vector keeps its entry and its mask. -/
theorem beside_vector (beside : Beside timer vector n m step) (run : exec step m = .ok (answer, m')) :
    m'.world.rtems.enabled vector = m.world.rtems.enabled vector ∧
      m'.world.rtems.installed vector = m.world.rtems.installed vector := by
  cases step with
  | call call =>
    obtain ⟨world, ran, rfl⟩ := exec_call_iff.1 run
    obtain ⟨enabled, installed⟩ := exec_elsewhere beside.2 ran
    exact ⟨enabled, installed⟩
  | serve other =>
    cases run
    obtain ⟨-, -, enabled, installed⟩ := m.serve_kept other
    exact ⟨congrFun enabled vector, congrFun installed vector⟩

theorem meanwhile_vector (later : Meanwhile timer vector n m m') :
    m'.world.rtems.enabled vector = m.world.rtems.enabled vector ∧
      m'.world.rtems.installed vector = m.world.rtems.installed vector := by
  obtain ⟨steps, run⟩ := later
  apply run.invariant (I := fun _ m' => m'.world.rtems.enabled vector = m.world.rtems.enabled vector ∧
    m'.world.rtems.installed vector = m.world.rtems.installed vector)
  · exact ⟨rfl, rfl⟩
  · rintro steps m₁ step answer m₂ ⟨enabled, installed⟩ beside ran
    obtain ⟨enabled', installed'⟩ := beside_vector beside ran
    exact ⟨enabled'.trans enabled, installed'.trans installed⟩

end Beside

section SetUp

variable {id : Id} {timer : TimerRef} {n : Nat} {handler : InterruptHandler} {scalerReloadValue : Word} {config : Config}
variable {start ready : Machine}

/-- A timer that was set up on the machine is about to count. -/
theorem setUp_ready (placed : apbctrl1.place id = some n) (present : n < start.world.hw.timers.length)
    (setUp : SetUp exec Step.call (Meanwhile timer (apbctrl1.interruptNumber id) n) id timer handler scalerReloadValue config
      start ready) :
    Stands timer (apbctrl1.initialised id handler) n (Gptimer.Ready config) ready.world ∧
      Scaled (apbctrl1.scalerValue scalerReloadValue) ready.world := by
  obtain ⟨set, amid, started⟩ := setUp
  let between (w w' : World Gptimers) : Prop :=
    ∃ m m', Meanwhile timer (apbctrl1.interruptNumber id) n m m' ∧ m.world = w ∧ m'.world = w'
  have passes : Passes [timer] n 1 between := by
    rintro J lasts passed _ _ holds ⟨m, m', ⟨steps, run⟩, rfl, rfl⟩
    exact ⟨_, lasts_run lasts holds run⟩
  have does : ∀ call (m m' : Machine), Gives exec (.call call) m m' → apbctrl1.Does call m.world m'.world :=
    fun _ _ _ ⟨_, ran⟩ => exec_does ran
  have betweens : ∀ m m', Meanwhile timer (apbctrl1.interruptNumber id) n m m' → between m.world m'.world :=
    fun m m' later => ⟨m, m', later, rfl, rfl⟩
  have went := amid.map Machine.world Step.call does betweens [.init id timer handler,
    .setBaseScalerReloadValue timer scalerReloadValue, .setConfigRegisters timer config]
  exact ready_of_amid passes placed present went (exec_does started)

/-- And its entry is on its vector. -/
theorem setUp_wired (placed : apbctrl1.place id = some n) (present : n < start.world.hw.timers.length)
    (free : start.world.rtems.installed (apbctrl1.interruptNumber id) = none)
    (setUp : SetUp exec Step.call (Meanwhile timer (apbctrl1.interruptNumber id) n) id timer handler scalerReloadValue config
      start ready) : Wired timer (apbctrl1.interruptNumber id) ready := by
  obtain ⟨⟨mine, -⟩, -⟩ := setUp_ready placed present setUp
  obtain ⟨set, ⟨m₁, m₂, later₁, ⟨_, initialised⟩, m₃, m₄, later₂, ⟨_, scaled⟩, m₅, m₆, later₃, ⟨_, configured⟩, later₄⟩,
    started⟩ := setUp
  obtain ⟨w₂, ran₂, rfl⟩ := exec_call_iff.1 initialised
  obtain ⟨w₄, ran₄, rfl⟩ := exec_call_iff.1 scaled
  obtain ⟨w₆, ran₆, rfl⟩ := exec_call_iff.1 configured
  obtain ⟨world, ran, rfl⟩ := exec_call_iff.1 started
  have own : (set.world.timers timer).id = id := by
    have same : (m₁.reaches w₂).world.timers timer = _ := rfl
    have timers : world.timers = set.world.timers := exec_timers ran
    rw [← timers]
    exact congrArg Timer.id mine
  refine ⟨?_, ?_⟩
  · show world.rtems.installed _ = _
    rw [exec_rtems ran, Group.onRtems_installed]
    refine (meanwhile_vector later₄).2.trans ?_
    show w₆.rtems.installed _ = _
    rw [exec_rtems ran₆, Group.onRtems_installed]
    refine (meanwhile_vector later₃).2.trans ?_
    show w₄.rtems.installed _ = _
    rw [exec_rtems ran₄, Group.onRtems_installed]
    refine (meanwhile_vector later₂).2.trans ?_
    show w₂.rtems.installed _ = _
    rw [exec_rtems ran₂, Group.onRtems_installed]
    exact Rtems.entryInstall_free ((meanwhile_vector later₁).2.trans free)
  · show world.rtems.enabled _ = _
    rw [exec_rtems ran, Group.onRtems_enabled, if_pos]
    · rfl
    · simp [World.target, Call.timer, own]

end SetUp

/-- The timer keeps its vector, and its interrupts since `ready` are, with the one
that was pending then, the callbacks made, the one that is pending, and those that
came before another was served. -/
structure Serving (timer : TimerRef) (vector n : Nat) (handler : InterruptHandler) (ready : Machine)
    (steps : List (Taken Machine Step Answer)) (m : Machine) : Prop where
  wired : Wired timer vector m
  mine : (m.world.timers timer).irqHandler = handler
  counted : ∃ made, m.callbacks vector = ready.callbacks vector ++ List.replicate made handler ∧
    m.world.hw.interrupts n + (ready.world.rtems.pending vector).toNat = ready.world.hw.interrupts n +
      (made + (m.world.rtems.pending vector).toNat + overruns vector n steps)

section Serving

variable {id : Id} {timer : TimerRef} {n : Nat} {handler : InterruptHandler} {ready m m' : Machine}
variable {steps : List (Taken Machine Step Answer)} {call : Call} {answer : Answer}

/-- RTEMS serves some vector. -/
theorem Serving.serve {vector : Nat} (serving : Serving timer vector n handler ready steps m) (other : Nat) :
    Serving timer vector n handler ready (steps ++ [⟨m, .serve other, .done, m.serve other⟩]) (m.serve other) := by
  obtain ⟨⟨installed, enabled⟩, mine, made, callbacks, counted⟩ := serving
  obtain ⟨timers, hw, sameEnabled, sameInstalled⟩ := m.serve_kept other
  have called := m.serve_callbacks vector other
  have pending := m.serve_pending vector other
  rw [installed, enabled] at called
  rw [enabled, Bool.and_true] at pending
  have served : ∃ more, (m.serve other).callbacks vector = m.callbacks vector ++ List.replicate more handler ∧
      more + ((m.serve other).world.rtems.pending vector).toNat = (m.world.rtems.pending vector).toNat := by
    by_cases due : other = vector ∧ m.world.rtems.pending vector = true
    · rw [if_pos ⟨due.1, due.2, rfl⟩] at called
      refine ⟨1, called.trans ?_, ?_⟩
      · rw [← mine]
        rfl
      · rw [pending, due.2, decide_eq_true due.1]
        rfl
    · rw [if_neg fun own => due ⟨own.1, own.2.1⟩] at called
      refine ⟨0, called, ?_⟩
      rw [pending]
      cases idle : m.world.rtems.pending vector with
      | false => rfl
      | true => simp [show other ≠ vector from fun same => due ⟨same, idle⟩]
  obtain ⟨more, called, pending⟩ := served
  refine ⟨⟨by rw [sameInstalled, installed], by rw [sameEnabled, enabled]⟩, by rw [timers, mine], made + more, ?_, ?_⟩
  · rw [called, callbacks, List.append_assoc, ← List.replicate_append_replicate]
  · rw [overruns_snoc, hw, counted]
    simp only [Nat.lt_irrefl, decide_false, Bool.and_false, Bool.toNat_false]
    omega

/-- A call that is apart from the timer. -/
theorem Serving.called (placed : apbctrl1.place id = some n)
    (serving : Serving timer (apbctrl1.interruptNumber id) n handler ready steps m)
    (beside : Beside timer (apbctrl1.interruptNumber id) n m (.call call)) (run : exec (.call call) m = .ok (answer, m')) :
    Serving timer (apbctrl1.interruptNumber id) n handler ready (steps ++ [⟨m, .call call, answer, m'⟩]) m' := by
  obtain ⟨⟨installed, enabled⟩, mine, made, callbacks, counted⟩ := serving
  obtain ⟨sameEnabled, sameInstalled⟩ := beside_vector beside run
  obtain ⟨apart, elsewhere⟩ := beside
  obtain ⟨world, ran, rfl⟩ := exec_call_iff.1 run
  have sameTimer : world.timers timer = m.world.timers timer := by
    rw [exec_timers ran]
    cases call with
    | init other _ _ => exact Function.update_of_ne (Ne.symm (List.ne_of_not_mem_cons apart.1)) _ _
    | _ => rfl
  refine ⟨⟨sameInstalled.trans installed, sameEnabled.trans enabled⟩, (congrArg Timer.irqHandler sameTimer).trans mine, made,
    callbacks, ?_⟩
  have pending : world.rtems.pending (apbctrl1.interruptNumber id) = m.world.rtems.pending (apbctrl1.interruptNumber id) := by
    rw [exec_rtems ran, Group.onRtems_pending]
    cases call with
    | init other _ _ =>
      have different : some (apbctrl1.interruptNumber other) ≠ some (apbctrl1.interruptNumber id) := elsewhere rfl
      exact if_neg fun same => different (congrArg some same.symm)
    | _ => rfl
  have once : world.hw.interrupts n = m.world.hw.interrupts n +
      (decide (m.world.hw.interrupts n < world.hw.interrupts n)).toNat := by
    by_cases tick : call = .tick
    · subst tick
      have clock : world.hw = m.world.hw.clock := exec_gptimers ran
      rw [clock]
      exact m.world.hw.clock_interrupts n
    · have still := exec_interrupts apart tick ran
      simp [still]
  rw [overruns_snoc, reaches_pending, apbctrl1_raises placed, pending]
  show world.hw.interrupts n + _ = _ + (_ + _ + (_ + (_ && decide (m.world.hw.interrupts n < world.hw.interrupts n)).toNat))
  generalize decide (m.world.hw.interrupts n < world.hw.interrupts n) = raised at once ⊢
  generalize m.world.rtems.pending (apbctrl1.interruptNumber id) = held at counted ⊢
  -- a raise leaves the vector pending, or is lost on it
  cases held <;> cases raised <;>
    simp only [Bool.or_true, Bool.or_false, Bool.and_true, Bool.and_false, Bool.toNat_true, Bool.toNat_false] at once counted ⊢ <;>
    omega

/-- The timer is served through a run. -/
theorem run_serving (placed : apbctrl1.place id = some n)
    (serving : Serving timer (apbctrl1.interruptNumber id) n handler ready [] ready)
    (run : Execution.Run exec (Beside timer (apbctrl1.interruptNumber id) n) ready steps m) :
    Serving timer (apbctrl1.interruptNumber id) n handler ready steps m := by
  apply run.invariant (I := fun steps m => Serving timer (apbctrl1.interruptNumber id) n handler ready steps m)
  · exact serving
  · intro steps m step answer m' serving beside ran
    cases step with
    | call call => exact serving.called placed beside ran
    | serve vector =>
      cases ran
      exact serving.serve vector

end Serving

end Machine

/-- **A callback for each period**: after the set-up of a reloaded timer with its
interrupt on, and whatever calls for other timers, clocks and dispatches come
before, between and after its calls, the callbacks since the start, one that is
pending and those that came too early for the one before add up to the periods
that have passed, and to one more if an interrupt was pending at the start. -/
theorem called_each_period {id : Id} {n : Nat} {timer : TimerRef} {handler : InterruptHandler}
    {scalerReloadValue : Word} {config : Config} {start ready m : Machine} {steps : List (Taken Machine Step Answer)}
    (placed : apbctrl1.place id = some n) (present : n < start.world.hw.timers.length)
    (free : start.world.rtems.installed (apbctrl1.interruptNumber id) = none)
    (interrupting : config.isInterruptEnabled = true) (reloaded : config.isAutoReloaded = true)
    (unchained : config.isChained = false)
    (setUp : SetUp Machine.exec Step.call (Machine.Meanwhile timer (apbctrl1.interruptNumber id) n) id timer handler
      scalerReloadValue config start ready)
    (run : Execution.Run Machine.exec (Machine.Beside timer (apbctrl1.interruptNumber id) n) ready steps m) :
    let s := (apbctrl1.scalerValue scalerReloadValue).toNat
    let ticks := (Machine.clocks steps + (s - ready.world.hw.scaler.toNat)) / (s + 1)
    ready.world.hw.scaler.toNat ≤ s ∧
    ∃ made, m.callbacks (apbctrl1.interruptNumber id) =
        ready.callbacks (apbctrl1.interruptNumber id) ++ List.replicate made handler ∧
      made + (m.world.rtems.pending (apbctrl1.interruptNumber id)).toNat +
          Machine.overruns (apbctrl1.interruptNumber id) n steps =
        (ready.world.rtems.pending (apbctrl1.interruptNumber id)).toNat + ticks / (config.reloadValue.toNat + 1) := by
  intro s ticks
  obtain ⟨stands, scaled⟩ := Machine.setUp_ready placed present setUp
  have serving : Machine.Serving timer (apbctrl1.interruptNumber id) n handler ready [] ready :=
    ⟨Machine.setUp_wired placed present free setUp, congrArg Timer.irqHandler stands.mine, 0, (List.append_nil _).symm,
      by simp [Machine.overruns]⟩
  obtain ⟨-, -, made, callbacks, counted⟩ := Machine.run_serving placed serving run
  have since := Machine.lasts_run lasts_since (stands.begins scaled unchained) run
  rw [Nat.zero_add] at since
  obtain ⟨-, g, begun, before, after⟩ := stands.counts scaled unchained since
  have interrupts := (begun.periodic reloaded ticks).2
  rw [if_pos interrupting] at interrupts
  have raised : m.world.hw.interrupts n = ready.world.hw.interrupts n + ticks / (config.reloadValue.toNat + 1) := by
    rw [Gptimers.interrupts, Gptimers.interrupts, after, before]
    exact interrupts
  refine ⟨scaled.below, made, callbacks, ?_⟩
  omega

/-- Four timers of zeros, and nothing pending. -/
def Machine.blank : Machine :=
  ⟨Gptimers.blank, []⟩

/-- A clock comes before the start of a timer with period one, which is enabled with
its configuration; then a clock and a dispatch. -/
theorem called_each_period_once : ∃ ready steps m,
    SetUp Machine.exec Step.call (Machine.Meanwhile 0 8 0) .id1 0 ⟨0, 0⟩ 0 ⟨true, true, true, false, 0⟩ Machine.blank ready ∧
    steps.map (fun taken => taken.input) = [.call .tick, .serve 8] ∧
    Execution.Run Machine.exec (Machine.Beside 0 8 0) ready steps m ∧
    ∃ made, m.callbacks 8 = ready.callbacks 8 ++ List.replicate made ⟨0, 0⟩ ∧
      made + (m.world.rtems.pending 8).toNat + Machine.overruns 8 0 steps = (ready.world.rtems.pending 8).toNat + 1 := by
  have called (step : Step) (m : Machine) : ∃ m', Gives Machine.exec step m m' := by
    obtain ⟨answer, m', ran⟩ := Machine.exec_returns step m
    exact ⟨m', answer, ran⟩
  have clocked (w : World Gptimers) : Elsewhere apbctrl1 8 w .tick := fun touches => absurd touches (by simp [Call.leavesEnabled])
  have nothing (m : Machine) : Machine.Meanwhile 0 8 0 m m := ⟨[], .nil⟩
  obtain ⟨m₁, init⟩ := called (.call (.init .id1 0 ⟨0, 0⟩)) Machine.blank
  obtain ⟨m₂, scaled⟩ := called (.call (.setBaseScalerReloadValue 0 0)) m₁
  obtain ⟨m₃, configured⟩ := called (.call (.setConfigRegisters 0 ⟨true, true, true, false, 0⟩)) m₂
  obtain ⟨set, _, early⟩ := called (.call .tick) m₃
  obtain ⟨ready, started⟩ : ∃ ready, Machine.exec (.call (.start 0)) set = .ok (.done, ready) := ⟨_, rfl⟩
  obtain ⟨m₄, _, clock⟩ := called (.call .tick) ready
  have setUp : SetUp Machine.exec Step.call (Machine.Meanwhile 0 8 0) .id1 0 ⟨0, 0⟩ 0 ⟨true, true, true, false, 0⟩ Machine.blank
      ready :=
    ⟨set, ⟨_, m₁, nothing _, init, _, m₂, nothing _, scaled, _, m₃, nothing _, configured,
      _, .one (i := Step.call .tick) ⟨trivial, clocked _⟩ early⟩, started⟩
  have run₁ : Execution.Run Machine.exec (Machine.Beside 0 8 0) ready _ m₄ :=
    .one (i := Step.call .tick) ⟨trivial, clocked _⟩ clock
  obtain ⟨steps, m, passed, inputs, run₂⟩ : ∃ steps m, Machine.clocks steps = 1 ∧
      steps.map (fun taken => taken.input) = [.call .tick, .serve 8] ∧
      Execution.Run Machine.exec (Machine.Beside 0 8 0) ready steps m :=
    ⟨_, _, rfl, rfl, run₁.snoc (i := Step.serve 8) trivial rfl⟩
  have placed : apbctrl1.place .id1 = some 0 := rfl
  have present : 0 < Machine.blank.world.hw.timers.length := by decide
  obtain ⟨-, made, callbacks, counted⟩ := called_each_period placed present rfl rfl rfl rfl setUp run₂
  have zero : (apbctrl1.scalerValue 0).toNat = 0 := rfl
  rw [zero, passed, Nat.zero_sub] at counted
  exact ⟨ready, steps, m, setUp, inputs, run₂, made, callbacks, counted⟩

/-- How often the timer in a place has raised its interrupt. -/
def Machine.raised (n : Nat) (steps : List (Taken Machine Step Answer)) : Nat :=
  steps.countP fun taken => taken.before.world.hw.interrupts n < taken.after.world.hw.interrupts n

section Raised

variable {id : Id} {n : Nat} {m m' : Machine} {step : Step} {answer : Answer}

/-- A step makes a callback of what is pending, and leaves pending what was raised. -/
theorem exec_raised (placed : apbctrl1.place id = some n) (run : Machine.exec step m = .ok (answer, m')) :
    (m'.callbacks (apbctrl1.interruptNumber id)).length + (m'.world.rtems.pending (apbctrl1.interruptNumber id)).toNat ≤
      (m.callbacks (apbctrl1.interruptNumber id)).length + (m.world.rtems.pending (apbctrl1.interruptNumber id)).toNat +
        (decide (m.world.hw.interrupts n < m'.world.hw.interrupts n)).toNat := by
  cases step with
  | serve other =>
    cases run
    generalize apbctrl1.interruptNumber id = vector
    rw [(m.serve_kept other).2.1, m.serve_callbacks, m.serve_pending, List.length_append, decide_eq_false (Nat.lt_irrefl _)]
    by_cases due : other = vector ∧ m.world.rtems.pending vector = true ∧ m.world.rtems.enabled vector = true
    · obtain ⟨rfl, pending, enabled⟩ := due
      rw [if_pos ⟨rfl, pending, enabled⟩, pending, enabled]
      cases m.world.rtems.installed other <;> simp
    · rw [if_neg due]
      exact Nat.add_le_add_left (Bool.toNat_le_toNat (Bool.and_le_left _ _)) _
  | call call =>
    obtain ⟨world, ran, rfl⟩ := Machine.exec_call_iff.1 run
    have kept : (world.rtems.pending (apbctrl1.interruptNumber id)).toNat ≤
        (m.world.rtems.pending (apbctrl1.interruptNumber id)).toNat := by
      rw [exec_rtems ran, Group.onRtems_pending]
      cases call with
      | init other _ _ =>
        dsimp only
        split
        · exact Nat.zero_le _
        · exact Nat.le_refl _
      | _ => exact Nat.le_refl _
    rw [Machine.reaches_pending, apbctrl1_raises placed]
    show (m.callbacks _).length + _ ≤ _ + (decide (m.world.hw.interrupts n < world.hw.interrupts n)).toNat
    have either (a b : Bool) : (a || b).toNat ≤ a.toNat + b.toNat := by cases a <;> simp
    have pending := either (world.rtems.pending (apbctrl1.interruptNumber id))
      (decide (m.world.hw.interrupts n < world.hw.interrupts n))
    omega

end Raised

/-- **No callback without an interrupt**: whatever calls, clocks and dispatches
follow the initialisation of a timer, on its vector there are no more callbacks
than it has raised interrupts since. What was pending before is forgotten. -/
theorem called_only_if_raised {id : Id} {n : Nat} {timer : TimerRef} {handler : InterruptHandler} {answer : Answer}
    {start fresh m : Machine} {steps : List (Taken Machine Step Answer)} (placed : apbctrl1.place id = some n)
    (initialised : Machine.exec (.call (.init id timer handler)) start = .ok (answer, fresh))
    (run : Execution.Run Machine.exec (fun _ _ => True) fresh steps m) :
    (m.callbacks (apbctrl1.interruptNumber id)).length + (m.world.rtems.pending (apbctrl1.interruptNumber id)).toNat ≤
      (fresh.callbacks (apbctrl1.interruptNumber id)).length + Machine.raised n steps := by
  have cleared : fresh.world.rtems.pending (apbctrl1.interruptNumber id) = false := by
    obtain ⟨world, ran, rfl⟩ := Machine.exec_call_iff.1 initialised
    rw [Machine.reaches_pending, apbctrl1_raises placed, exec_rtems ran, Group.onRtems_pending]
    simp [init_interrupts ran]
  apply run.invariant (I := fun steps m => (m.callbacks (apbctrl1.interruptNumber id)).length +
    (m.world.rtems.pending (apbctrl1.interruptNumber id)).toNat ≤
      (fresh.callbacks (apbctrl1.interruptNumber id)).length + Machine.raised n steps)
  · rw [cleared]
    exact Nat.le_refl _
  · intro steps m step answer m' bounded _ ran
    have taken := exec_raised placed ran
    rw [Machine.raised, List.countP_append, List.countP_singleton, ← Machine.raised]
    dsimp only
    cases raised : decide (m.world.hw.interrupts n < m'.world.hw.interrupts n) <;> simp [raised] at taken ⊢ <;> omega

/-- An interrupt is pending before `init`, and a dispatch comes right after it. -/
theorem called_only_if_raised_fresh : ∃ start fresh steps m, start.world.rtems.pending 11 = true ∧
    Machine.exec (.call (.init .id4 0 ⟨0, 0⟩)) start = .ok (.done, fresh) ∧
    steps.map (fun taken => taken.input) = [.serve 11] ∧
    Execution.Run Machine.exec (fun _ _ => True) fresh steps m ∧
    (m.callbacks 11).length + (m.world.rtems.pending 11).toNat ≤ (fresh.callbacks 11).length + Machine.raised 3 steps := by
  obtain ⟨start, pending⟩ : ∃ start : Machine, start.world.rtems.pending 11 = true :=
    ⟨{ Machine.blank with world := Gptimers.blank.withRtems (Rtems.idle.raise fun vector => vector = 11) }, rfl⟩
  obtain ⟨fresh, initialised⟩ : ∃ fresh, Machine.exec (.call (.init .id4 0 ⟨0, 0⟩)) start = .ok (.done, fresh) := ⟨_, rfl⟩
  have run : Execution.Run Machine.exec (fun _ _ => True) fresh _ (fresh.serve 11) :=
    .snoc (i := Step.serve 11) .nil trivial rfl
  exact ⟨start, fresh, _, _, pending, initialised, rfl, run, called_only_if_raised rfl initialised run⟩

end Leon3Bsp.Timer
