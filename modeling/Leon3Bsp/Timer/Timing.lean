import Leon3Bsp.Timer.SetUp

/-!
# What a running timer counts

Between the calls for it a timer counts the ticks of the row, one in as many
clocks as the scaler was told, whatever is done with the other timers of the
group. What the driver reads off a timer is a function of the clocks since its
start and of where the scaler stood then.
-/

namespace Leon3Bsp.Timer
set_option autoImplicit false
open Wp Execution Cascade

/-- How far a part of the row, `before`, has come in `clocks` clocks from a full
scaler. -/
structure Elapsed (first count : Nat) (reload : Word) (before : List Gptimer) (clocks : Nat) (g : Gptimers) : Prop where
  reloads : g.scalerReload = reload
  leads : Gptimer.stage.Leads (g.part first count)
  below : g.scaler.toNat ≤ reload.toNat
  ticked : ∃ ticks, clocks + g.scaler.toNat = ticks * (reload.toNat + 1) + reload.toNat ∧
    g.part first count = Gptimer.stage.rounds (List.replicate ticks false) before

section Elapsed

variable {group : Group} {timers : List TimerRef} {first count : Nat} {reload : Word} {before : List Gptimer} {passed : Nat}
variable {ready w w' : World Gptimers} {calls : List (Made Gptimers)} {call : Call} {answer : Answer} {g g' : Gptimers}

theorem Elapsed.same (elapsed : Elapsed first count reload before passed g) (scaler : g'.scaler = g.scaler)
    (scalerReload : g'.scalerReload = g.scalerReload) (part : g'.part first count = g.part first count) :
    Elapsed first count reload before passed g' := by
  obtain ⟨reloads, leads, below, ticked⟩ := elapsed
  rw [← part] at leads ticked
  rw [← scaler] at below ticked
  exact ⟨scalerReload.trans reloads, leads, below, ticked⟩

theorem Elapsed.clock (elapsed : Elapsed first count reload before passed g) :
    Elapsed first count reload before (passed + 1) g.clock := by
  obtain ⟨reloads, leads, below, ticks, told, part⟩ := elapsed
  by_cases zero : g.scaler = 0
  · have row : g.clock.part first count = Gptimer.stage.round false (g.part first count) := by
      rw [Gptimers.clock, if_pos zero]
      exact leads.round_part false
    have full : g.clock.scaler = reload := by rw [Gptimers.clock, if_pos zero, ← reloads]
    have same : g.clock.scalerReload = reload := by rw [Gptimers.clock, if_pos zero, ← reloads]
    refine ⟨same, row ▸ leads.round, full ▸ Nat.le_refl _, ticks + 1, ?_, ?_⟩
    · have none : (0 : Word).toNat = 0 := rfl
      rw [zero, none] at told
      rw [full, Nat.succ_mul]
      omega
    · rw [row, part, List.replicate_succ', Stage.rounds_snoc]
  · have row : g.clock.part first count = g.part first count := by
      rw [Gptimers.clock, if_neg zero]
      rfl
    have down : g.clock.scaler.toNat + 1 = g.scaler.toNat := by
      rw [Gptimers.clock, if_neg zero]
      have positive : 0 < g.scaler.toNat := Nat.pos_of_ne_zero (mt (toNat_eq_zero _).1 zero)
      rw [toNat_sub_one zero]
      omega
    have same : g.clock.scalerReload = reload := by rw [Gptimers.clock, if_neg zero, ← reloads]
    refine ⟨same, row ▸ leads, by omega, ticks, by omega, row.trans part⟩

/-- The ticks of the row are told by the clocks. -/
theorem Elapsed.part_eq (elapsed : Elapsed first count reload before passed g) :
    g.part first count = Gptimer.stage.rounds (List.replicate (passed / (reload.toNat + 1)) false) before := by
  obtain ⟨ticks, told, part⟩ := elapsed.ticked
  have below := elapsed.below
  have same : passed / (reload.toNat + 1) = ticks := by
    apply Nat.div_eq_of_lt_le
    · omega
    · rw [Nat.succ_mul]
      omega
  rw [same]
  exact part

/-- So many clocks after `ready` the timers have come as far as these take them,
and the descriptors are as they were. -/
structure Since (timers : List TimerRef) (first count : Nat) (ready : World Gptimers) (passed : Nat) (w : World Gptimers) : Prop where
  same : ∀ timer ∈ timers, w.timers timer = ready.timers timer
  elapsed : Elapsed first count ready.hw.scalerReload (ready.hw.part first count)
    (passed + (ready.hw.scalerReload.toNat - ready.hw.scaler.toNat)) w.hw

/-- Nothing has passed yet. -/
theorem since_ready (below : ready.hw.scaler.toNat ≤ ready.hw.scalerReload.toNat)
    (leads : Gptimer.stage.Leads (ready.hw.part first count)) : Since timers first count ready 0 ready :=
  ⟨fun _ _ => rfl, rfl, leads, below, 0, by omega, rfl⟩

theorem lasts_since : Lasts timers first count (Since timers first count ready) where
  clock passed w since := by
    refine ⟨since.same, ?_⟩
    rw [Nat.add_right_comm]
    exact since.elapsed.clock
  besides passed w w' since same scaler scalerReload part :=
    ⟨fun timer member => (same timer member).trans (since.same timer member), since.elapsed.same scaler scalerReload part⟩

end Elapsed

namespace Gptimer

theorem countsDown : CountsDown stage Periodic (fun g => g.counter.toNat) (fun g => g.reload.toNat) where
  kept g periodic := by
    show g.tick.Periodic
    rw [tick_periodic periodic]
    exact periodic
  same g _ := congrArg BitVec.toNat g.tick_reload
  down g periodic := by
    show g.tick.counter.toNat = _
    rw [tick_periodic periodic]
    dsimp only
    by_cases zero : g.counter = 0
    · rw [if_pos zero, if_pos ((toNat_eq_zero _).2 zero)]
    · rw [if_neg zero, if_neg (mt (toNat_eq_zero _).1 zero), toNat_sub_one zero]
  carry g periodic := by
    have enabled := periodic.1
    simp [stage, enabled, ← BitVec.toNat_inj]

theorem stepped_interrupts {g : Gptimer} (periodic : g.Periodic) (n : Nat) :
    (stage.stepped n g).log.count (.underflowed true) =
      g.log.count (.underflowed true) + if getFlag g.control Control.IE then stage.carried n g else 0 := by
  induction n generalizing g with
  | zero => simp [Stage.stepped, Stage.carried]
  | succ n ih =>
    have later := ih (countsDown.kept g periodic)
    have tick : (stage.step g).2 = g.tick := rfl
    rw [tick, g.tick_flag (by decide : Control.IE ≠ Control.EN)] at later
    have log : g.tick.log = g.log ++ [if g.counter = 0 then .underflowed (getFlag g.control Control.IE) else .ticked] := by
      rw [tick_periodic periodic]
    have carry := (countsDown.carry g periodic).trans (toNat_eq_zero g.counter)
    rw [Stage.stepped_succ, Stage.carried, tick, later, log, List.count_append, List.count_singleton]
    by_cases zero : g.counter = 0
    · rw [carry.2 zero, if_pos zero]
      cases getFlag g.control Control.IE
      · rfl
      · simp only [if_true, Bool.toNat_true, beq_self_eq_true]
        omega
    · rw [eq_false_of_ne_true (mt carry.1 zero), if_neg zero, Bool.toNat_false, Nat.zero_add]
      rfl

/-- A stopped timer stays as it is. -/
theorem stepped_stopped {g : Gptimer} (stopped : getFlag g.control Control.EN = false) (n : Nat) :
    (stage.stepped n g).counter = g.counter ∧ (stage.stepped n g).control = g.control ∧
      (stage.stepped n g).log.count (.underflowed true) = g.log.count (.underflowed true) := by
  induction n generalizing g with
  | zero => exact ⟨rfl, rfl, rfl⟩
  | succ n ih =>
    have tick : (stage.step g).2 = { g with log := g.log ++ [.ticked] } := tick_stopped stopped
    rw [Stage.stepped_succ, tick]
    obtain ⟨counter, control, interrupts⟩ := ih (g := { g with log := g.log ++ [.ticked] }) stopped
    refine ⟨counter, control, interrupts.trans ?_⟩
    simp

/-- A timer that is not reloaded counts to zero, underflows once and stops. -/
theorem stepped_once {g : Gptimer} (enabled : getFlag g.control Control.EN = true) (once : getFlag g.control Control.RS = false)
    (n : Nat) : (stage.stepped n g).counter.toNat = (if g.counter.toNat < n then 0xFFFFFFFF else g.counter.toNat - n) ∧
      getFlag (stage.stepped n g).control Control.EN = decide (n ≤ g.counter.toNat) ∧
      (stage.stepped n g).log.count (.underflowed true) = g.log.count (.underflowed true) +
        if g.counter.toNat < n ∧ getFlag g.control Control.IE = true then 1 else 0 := by
  induction n generalizing g with
  | zero => exact ⟨rfl, enabled, rfl⟩
  | succ n ih =>
    rw [Stage.stepped_succ]
    show (stage.stepped n g.tick).counter.toNat = _ ∧ getFlag (stage.stepped n g.tick).control _ = _ ∧
      (stage.stepped n g.tick).log.count _ = _
    by_cases zero : g.counter = 0
    · have none : g.counter.toNat = 0 := (toNat_eq_zero _).2 zero
      have stops : getFlag (withFlag g.control false Control.EN) Control.EN = false := by
        rw [getFlag_withFlag _ _ (by decide), if_pos rfl]
      rw [tick_expired enabled zero, underflow_once once]
      obtain ⟨counter, control, interrupts⟩ := stepped_stopped (g := { g with
        counter := 0xFFFFFFFF
        control := withFlag g.control false Control.EN
        log := g.log ++ [.underflowed (getFlag g.control Control.IE)] }) stops n
      rw [counter, control, interrupts, stops, none, if_pos n.succ_pos, List.count_append, List.count_singleton]
      have late : ¬ n + 1 ≤ 0 := Nat.not_succ_le_zero n
      refine ⟨rfl, (decide_eq_false late).symm, ?_⟩
      simp
    · rw [tick_counting enabled zero]
      obtain ⟨counter, control, interrupts⟩ := ih (g := { g with counter := g.counter - 1, log := g.log ++ [.ticked] }) enabled once
      have positive := mt (toNat_eq_zero g.counter).1 zero
      have earlier : (g.counter - 1).toNat < n ↔ g.counter.toNat < n + 1 := by
        rw [toNat_sub_one zero]
        omega
      rw [counter, control, interrupts]
      refine ⟨?_, ?_, ?_⟩
      · simp only [earlier]
        rw [toNat_sub_one zero]
        split <;> omega
      · rw [decide_eq_decide, ← not_lt, earlier, not_lt]
      · simp only [earlier, List.count_append]
        rfl

section Set

variable {g : Gptimer} {config : Config}

/-- How far a reloaded timer has counted some ticks later, and how often it has
underflowed. -/
theorem Counting.after (counting : Counting config g) (reloaded : config.isAutoReloaded = true) (ticks : Nat) :
    (stage.stepped ticks g).counter.toNat = config.reloadValue.toNat -
      (ticks + (config.reloadValue.toNat - g.counter.toNat)) % (config.reloadValue.toNat + 1) ∧
    stage.carried ticks g =
      (ticks + (config.reloadValue.toNat - g.counter.toNat)) / (config.reloadValue.toNat + 1) := by
  have periodic : g.Periodic := ⟨counting.enabled, counting.reloaded.trans reloaded⟩
  have after := countsDown.after periodic (by rw [counting.reload]; exact counting.below) ticks
  rw [counting.reload] at after
  exact after

theorem Counting.interrupts (counting : Counting config g) (reloaded : config.isAutoReloaded = true) (ticks : Nat) :
    (stage.stepped ticks g).log.count (.underflowed true) = g.log.count (.underflowed true) +
      if config.isInterruptEnabled then stage.carried ticks g else 0 := by
  rw [← counting.interrupt]
  exact stepped_interrupts ⟨counting.enabled, counting.reloaded.trans reloaded⟩ ticks

/-- What a reloaded timer shows some ticks after it was set up. -/
theorem Ready.periodic (ready : Ready config g) (reloaded : config.isAutoReloaded = true) (ticks : Nat) :
    (stage.stepped ticks g).counter.toNat = config.reloadValue.toNat - ticks % (config.reloadValue.toNat + 1) ∧
    (stage.stepped ticks g).log.count (.underflowed true) = g.log.count (.underflowed true) +
      if config.isInterruptEnabled then ticks / (config.reloadValue.toNat + 1) else 0 := by
  obtain ⟨value, carried⟩ := ready.after reloaded ticks
  have interrupts := ready.interrupts reloaded ticks
  rw [ready.full, Nat.sub_self, Nat.add_zero] at value carried
  rw [carried] at interrupts
  exact ⟨value, interrupts⟩

/-- And one that runs once. -/
theorem Ready.once (ready : Ready config g) (once : config.isAutoReloaded = false) (ticks : Nat) :
    hasFinished (stage.stepped ticks g).control (stage.stepped ticks g).counter = decide (config.reloadValue.toNat < ticks) ∧
    (stage.stepped ticks g).counter.toNat =
      (if config.reloadValue.toNat < ticks then 0xFFFFFFFF else config.reloadValue.toNat - ticks) ∧
    (stage.stepped ticks g).log.count (.underflowed true) = g.log.count (.underflowed true) +
      if config.reloadValue.toNat < ticks ∧ config.isInterruptEnabled = true then 1 else 0 := by
  obtain ⟨value, enabled, interrupts⟩ := stepped_once ready.enabled (ready.reloaded.trans once) ticks
  rw [ready.full] at value enabled interrupts
  rw [ready.interrupt] at interrupts
  refine ⟨?_, value, interrupts⟩
  rw [hasFinished, enabled]
  by_cases expired : config.reloadValue.toNat < ticks
  · rw [if_pos expired] at value
    rw [BitVec.eq_of_toNat_eq (y := UNDERFLOWED) value, decide_eq_true expired, decide_eq_false (not_le.2 expired)]
    rfl
  · rw [decide_eq_true (not_lt.1 expired), decide_eq_false expired]
    rfl

end Set

end Gptimer

section Row

variable {group : Group} {id : Id} {timer : TimerRef} {n passed : Nat} {g : Gptimer} {ready w : World Gptimers} {reload : Word}

/-- What the driver reads off a timer in its place. -/
theorem getCounterValue_gptimers (mine : (w.timers timer).regs = group.addressById id) (placed : group.place id = some n)
    (there : w.hw.timers[n]? = some g) :
    Group.getCounterValue (Gptimers.device group.addressBase) timer w = .ok (g.counter, w) := by
  have read : w.hw.read group.addressBase ⟨group.addressById id, .counter⟩ = g.counter := by
    rw [Gptimers.read_timer _ _ _ (.inl rfl), show Gptimers.slot group.addressBase (group.addressById id) = some n from placed]
    simp [there, Gptimer.read]
  rw [← read, ← mine]
  rfl

theorem hasFinished_gptimers (mine : (w.timers timer).regs = group.addressById id) (placed : group.place id = some n)
    (there : w.hw.timers[n]? = some g) : Group.hasFinished (Gptimers.device group.addressBase) timer w =
      .ok (hasFinished g.control g.counter, w) := by
  have read {field : Field} (own : field = .counter ∨ field = .reload ∨ field = .control) :
      w.hw.read group.addressBase ⟨group.addressById id, field⟩ = g.read field := by
    rw [Gptimers.read_timer _ _ _ own, show Gptimers.slot group.addressBase (group.addressById id) = some n from placed]
    simp [there]
  have control : g.control = g.read .control := rfl
  have counter : g.counter = g.read .counter := rfl
  rw [control, counter, ← read (.inr (.inr rfl)), ← read (.inl rfl), ← mine]
  rfl

/-- A timer in a part of one is at the head of it. -/
theorem part_one (there : w.hw.timers[n]? = some g) : w.hw.part n 1 = [g] := by
  obtain ⟨inside, here⟩ := List.getElem?_eq_some_iff.1 there
  rw [Gptimers.part, List.drop_eq_getElem_cons inside, List.take_succ_cons, List.take_zero, here]

theorem part_two {g' : Gptimer} (there : w.hw.timers[n]? = some g) (there' : w.hw.timers[n + 1]? = some g') :
    w.hw.part n 2 = [g, g'] := by
  obtain ⟨inside, here⟩ := List.getElem?_eq_some_iff.1 there
  rw [← List.cons_eq_cons.2 ⟨rfl, part_one there'⟩, Gptimers.part, Gptimers.part, List.drop_eq_getElem_cons inside,
    List.take_succ_cons, here]

/-- A part of one that is not chained has taken every tick. -/
theorem stepped_one {ticks : Nat} (free : Gptimer.stage.gated g = false)
    (part : w.hw.part n 1 = Gptimer.stage.rounds (List.replicate ticks false) [g]) :
    w.hw.timers[n]? = some (Gptimer.stage.stepped ticks g) := by
  rw [Stage.rounds_eq, Stage.received, if_neg (by simp [free]), List.length_replicate] at part
  rw [← Nat.add_zero n, ← Gptimers.getElem?_part Nat.zero_lt_one, part]
  rfl

variable {handler : InterruptHandler} {config : Config}

/-- A timer that was set up, and is not chained, begins to count. -/
theorem Stands.begins (stands : Stands timer (group.initialised id handler) n (Gptimer.Ready config) ready)
    (scaled : Scaled reload ready) (unchained : config.isChained = false) : Since [timer] n 1 ready 0 ready := by
  obtain ⟨-, g, there, begun⟩ := stands
  exact since_ready (by rw [scaled.reloads]; exact scaled.below) ⟨_, _, part_one there, begun.chained.trans unchained⟩

/-- And takes the ticks of the row. -/
theorem Stands.counts (stands : Stands timer (group.initialised id handler) n (Gptimer.Ready config) ready)
    (scaled : Scaled reload ready) (unchained : config.isChained = false) (since : Since [timer] n 1 ready passed w) :
    (w.timers timer).regs = group.addressById id ∧ ∃ g, Gptimer.Ready config g ∧ ready.hw.timers[n]? = some g ∧
      w.hw.timers[n]? =
        some (Gptimer.stage.stepped ((passed + (reload.toNat - ready.hw.scaler.toNat)) / (reload.toNat + 1)) g) := by
  obtain ⟨mine, g, there, begun⟩ := stands
  have free : Gptimer.stage.gated g = false := begun.chained.trans unchained
  have part := since.elapsed.part_eq
  rw [part_one there, scaled.reloads] at part
  refine ⟨?_, g, begun, there, stepped_one free part⟩
  rw [since.same timer (List.mem_singleton_self timer), mine]
  rfl

end Row

/-- How often the timer in a place has raised its interrupt. -/
def Gptimers.interrupts (n : Nat) (g : Gptimers) : Nat :=
  (g.timers[n]?).elim 0 fun timer => timer.log.count (.underflowed true)

/-- **A reloaded timer is periodic**: whatever came between the calls that set it
up, and whatever is done with the other timers, its counter and its interrupts are
functions of the clocks since the start and of where the scaler stood then, with
one tick in `s + 1` clocks and one interrupt in `reloadValue + 1` ticks. -/
theorem periodic_counted (group : Group) {id : Id} {n : Nat} {timer : TimerRef} {handler : InterruptHandler}
    {scalerReloadValue : Word} {config : Config} {start ready w : World Gptimers} {calls : List (Made Gptimers)}
    (placed : group.place id = some n) (present : n < start.hw.timers.length) (reloaded : config.isAutoReloaded = true)
    (unchained : config.isChained = false)
    (setUp : SetUp (exec group group.gptimers) (fun call => call) (Meanwhile group [timer] n 1) id timer handler
      scalerReloadValue config start ready)
    (run : Run group group.gptimers (Apart group [timer] n 1) ready calls w) :
    let s := (group.scalerValue scalerReloadValue).toNat
    let ticks := (clocks calls + (s - ready.hw.scaler.toNat)) / (s + 1)
    ready.hw.scaler.toNat ≤ s ∧
    (∃ value, Group.getCounterValue group.gptimers timer w = .ok (value, w) ∧
      value.toNat = config.reloadValue.toNat - ticks % (config.reloadValue.toNat + 1)) ∧
    w.hw.interrupts n = ready.hw.interrupts n +
      if config.isInterruptEnabled then ticks / (config.reloadValue.toNat + 1) else 0 := by
  intro s ticks
  obtain ⟨stands, scaled⟩ := setUp.ready meanwhile_passes placed present
  have since := lasts_since.run (stands.begins scaled unchained) run
  rw [Nat.zero_add] at since
  obtain ⟨mine, g, begun, before, after⟩ := stands.counts scaled unchained since
  obtain ⟨value, interrupts⟩ := begun.periodic reloaded ticks
  refine ⟨scaled.below, ⟨_, getCounterValue_gptimers mine placed after, value⟩, ?_⟩
  rw [Gptimers.interrupts, Gptimers.interrupts, after, before]
  exact interrupts

/-- Four timers of zeros. -/
def Gptimers.blank : World Gptimers :=
  World.blank ⟨0, 0, 0, List.replicate 4 ⟨0, 0, 0, []⟩⟩

/-- A clock comes between the calls that set up a timer with period three, whose
row ticks every other clock, and one after the start. -/
theorem periodic_counted_clock : ∃ ready calls w,
    SetUp (exec apbctrl1 apbctrl1.gptimers) (fun call => call) (Meanwhile apbctrl1 [0] 0 1) .id1 0 ⟨0, 0⟩ 1
      ⟨true, false, true, false, 2⟩ Gptimers.blank ready ∧
    Run apbctrl1 apbctrl1.gptimers (Apart apbctrl1 [0] 0 1) ready calls w ∧ clocks calls = 1 ∧ ready.hw.scaler = 0 ∧
    ∃ value, Group.getCounterValue apbctrl1.gptimers 0 w = .ok (value, w) ∧ value.toNat = 2 - (1 + (1 - 0)) / (1 + 1) % (2 + 1) := by
  obtain ⟨ready, setUp, scaler⟩ : ∃ ready, SetUp (exec apbctrl1 apbctrl1.gptimers) (fun call => call) (Meanwhile apbctrl1 [0] 0 1)
      .id1 0 ⟨0, 0⟩ 1 ⟨true, false, true, false, 2⟩ Gptimers.blank ready ∧ ready.hw.scaler = 0 :=
    ⟨_, ⟨_, ⟨_, _, ⟨[], .nil⟩, ⟨_, rfl⟩, _, _, ⟨[], .nil⟩, ⟨_, rfl⟩, _, _, ⟨_, .one (i := Call.tick) trivial rfl⟩, ⟨_, rfl⟩,
      [], .nil⟩, rfl⟩, rfl⟩
  have run : Run apbctrl1 apbctrl1.gptimers (Apart apbctrl1 [0] 0 1) ready _ _ := .one (i := Call.tick) trivial rfl
  obtain ⟨-, counted, -⟩ := periodic_counted apbctrl1 (n := 0) rfl (by decide) rfl rfl setUp run
  rw [scaler] at counted
  exact ⟨ready, _, _, setUp, run, rfl, scaler, counted⟩

/-- **A timer that runs once** has finished as soon as it was left alone for its
reload value of ticks and one more, and raises one interrupt. -/
theorem once_counted (group : Group) {id : Id} {n : Nat} {timer : TimerRef} {handler : InterruptHandler}
    {scalerReloadValue : Word} {config : Config} {start ready w : World Gptimers} {calls : List (Made Gptimers)}
    (placed : group.place id = some n) (present : n < start.hw.timers.length) (once : config.isAutoReloaded = false)
    (unchained : config.isChained = false)
    (setUp : SetUp (exec group group.gptimers) (fun call => call) (Meanwhile group [timer] n 1) id timer handler
      scalerReloadValue config start ready)
    (run : Run group group.gptimers (Apart group [timer] n 1) ready calls w) :
    let s := (group.scalerValue scalerReloadValue).toNat
    let ticks := (clocks calls + (s - ready.hw.scaler.toNat)) / (s + 1)
    ready.hw.scaler.toNat ≤ s ∧
    Group.hasFinished group.gptimers timer w = .ok (decide (config.reloadValue.toNat < ticks), w) ∧
    (∃ value, Group.getCounterValue group.gptimers timer w = .ok (value, w) ∧
      value.toNat = if config.reloadValue.toNat < ticks then 0xFFFFFFFF else config.reloadValue.toNat - ticks) ∧
    w.hw.interrupts n = ready.hw.interrupts n +
      if config.reloadValue.toNat < ticks ∧ config.isInterruptEnabled = true then 1 else 0 := by
  intro s ticks
  obtain ⟨stands, scaled⟩ := setUp.ready meanwhile_passes placed present
  have since := lasts_since.run (stands.begins scaled unchained) run
  rw [Nat.zero_add] at since
  obtain ⟨mine, g, begun, before, after⟩ := stands.counts scaled unchained since
  obtain ⟨finished, value, interrupts⟩ := begun.once once ticks
  refine ⟨scaled.below, ?_, ⟨_, getCounterValue_gptimers mine placed after, value⟩, ?_⟩
  · rw [hasFinished_gptimers mine placed after]
    exact congrArg (fun finished => Except.ok (finished, w)) finished
  · rw [Gptimers.interrupts, Gptimers.interrupts, after, before]
    exact interrupts

/-- One clock of a timer that is told to stop at once, after one between the calls
that set it up. -/
theorem once_counted_clock : ∃ ready calls w,
    SetUp (exec apbctrl2 apbctrl2.gptimers) (fun call => call) (Meanwhile apbctrl2 [0] 1 1) .id2 0 ⟨0, 0⟩ 1
      ⟨true, false, false, false, 0⟩ Gptimers.blank ready ∧
    Run apbctrl2 apbctrl2.gptimers (Apart apbctrl2 [0] 1 1) ready calls w ∧ clocks calls = 1 ∧ ready.hw.scaler = 0 ∧
    Group.hasFinished apbctrl2.gptimers 0 w = .ok (decide (0 < (1 + (1 - 0)) / (1 + 1)), w) := by
  obtain ⟨ready, setUp, scaler⟩ : ∃ ready, SetUp (exec apbctrl2 apbctrl2.gptimers) (fun call => call) (Meanwhile apbctrl2 [0] 1 1)
      .id2 0 ⟨0, 0⟩ 1 ⟨true, false, false, false, 0⟩ Gptimers.blank ready ∧ ready.hw.scaler = 0 :=
    ⟨_, ⟨_, ⟨_, _, ⟨[], .nil⟩, ⟨_, rfl⟩, _, _, ⟨[], .nil⟩, ⟨_, rfl⟩, _, _, ⟨[], .nil⟩, ⟨_, rfl⟩,
      _, .one (i := Call.tick) trivial rfl⟩, rfl⟩, rfl⟩
  have run : Run apbctrl2 apbctrl2.gptimers (Apart apbctrl2 [0] 1 1) ready _ _ := .one (i := Call.tick) trivial rfl
  obtain ⟨-, finished, -⟩ := once_counted apbctrl2 (n := 1) rfl (by decide) rfl rfl setUp run
  rw [scaler] at finished
  exact ⟨ready, _, _, setUp, run, rfl, scaler, finished⟩

/-- **Two chained timers are one**: the second counts the underflows of the first,
so that they are the digits of a number that counts down the ticks, from the start
of the second on and from what was `left` in the first then. -/
theorem chained_counted (group : Group) {id id' : Id} {n : Nat} {timer timer' : TimerRef} {handler handler' : InterruptHandler}
    {scalerReloadValue left : Word} {config config' : Config} {start set ready w : World Gptimers} {calls : List (Made Gptimers)}
    (placed : group.place id = some n) (placed' : group.place id' = some (n + 1)) (present : n + 1 < start.hw.timers.length)
    (other : timer ≠ timer') (reloaded : config.isAutoReloaded = true) (unchained : config.isChained = false)
    (reloaded' : config'.isAutoReloaded = true) (chained : config'.isChained = true)
    (setUp : Amid (Gives (exec group group.gptimers)) (Meanwhile group [timer, timer'] n 2) [.init id timer handler,
      .init id' timer' handler', .setBaseScalerReloadValue timer scalerReloadValue, .setConfigRegisters timer config,
      .setConfigRegisters timer' config', .start timer] start set)
    (started : exec group group.gptimers (.start timer') set = .ok (.done, ready))
    (looked : Group.getCounterValue group.gptimers timer ready = .ok (left, ready))
    (run : Run group group.gptimers (Apart group [timer, timer'] n 2) ready calls w) :
    let s := (group.scalerValue scalerReloadValue).toNat
    let ticks := (clocks calls + (s - ready.hw.scaler.toNat)) / (s + 1) + (config.reloadValue.toNat - left.toNat)
    let period := (config.reloadValue.toNat + 1) * (config'.reloadValue.toNat + 1)
    ready.hw.scaler.toNat ≤ s ∧ left.toNat ≤ config.reloadValue.toNat ∧
    (∃ low high, Group.getCounterValue group.gptimers timer w = .ok (low, w) ∧
      Group.getCounterValue group.gptimers timer' w = .ok (high, w) ∧
      low.toNat ≤ config.reloadValue.toNat ∧ high.toNat ≤ config'.reloadValue.toNat ∧
      low.toNat + (config.reloadValue.toNat + 1) * high.toNat = period - 1 - ticks % period) ∧
    w.hw.interrupts (n + 1) = ready.hw.interrupts (n + 1) + if config'.isInterruptEnabled then ticks / period else 0 := by
  intro s ticks period
  obtain ⟨⟨mine, g, there, counting⟩, ⟨mine', g', there', begun'⟩, scaled⟩ := pair_of_amid meanwhile_passes other placed placed'
    present reloaded (setUp.map (fun w => w) (fun call => call) (fun _ _ _ ⟨_, ran⟩ => exec_does ran) fun _ _ later => later)
    (exec_does started)
  have free : Gptimer.stage.gated g = false := counting.chained.trans unchained
  have waits : Gptimer.stage.gated g' = true := begun'.chained.trans chained
  have two := part_two there there'
  have begins : Since [timer, timer'] n 2 ready 0 ready :=
    since_ready (by rw [scaled.reloads]; exact scaled.below) ⟨_, _, two, free⟩
  have since := lasts_since.run begins run
  rw [Nat.zero_add] at since
  have part := since.elapsed.part_eq
  rw [two, scaled.reloads] at part
  have shown : left = g.counter := by
    have read := getCounterValue_gptimers (congrArg Timer.regs mine) placed there
    cases looked.symm.trans read
    rfl
  subst shown
  -- the second timer has received the carries of the first
  obtain ⟨low, carried⟩ := counting.after reloaded ((clocks calls + (s - ready.hw.scaler.toNat)) / (s + 1))
  change _ = config.reloadValue.toNat - ticks % (config.reloadValue.toNat + 1) at low
  change _ = ticks / (config.reloadValue.toNat + 1) at carried
  rw [Stage.rounds_eq, Stage.received, if_neg (by simp [free]), Stage.received, if_pos waits, List.length_replicate,
    carried] at part
  obtain ⟨high, interrupts⟩ := begun'.periodic reloaded' (ticks / (config.reloadValue.toNat + 1))
  have whole : ticks / (config.reloadValue.toNat + 1) / (config'.reloadValue.toNat + 1) = ticks / period :=
    Nat.div_div_eq_div_mul _ _ _
  rw [whole] at interrupts
  have after : w.hw.timers[n]? =
      some (Gptimer.stage.stepped ((clocks calls + (s - ready.hw.scaler.toNat)) / (s + 1)) g) := by
    rw [← Nat.add_zero n, ← Gptimers.getElem?_part Nat.zero_lt_two, part]
    rfl
  have after' : w.hw.timers[n + 1]? = some (Gptimer.stage.stepped (ticks / (config.reloadValue.toNat + 1)) g') := by
    rw [← Gptimers.getElem?_part Nat.one_lt_two, part]
    rfl
  have regs : (w.timers timer).regs = group.addressById id := by
    rw [since.same timer (by simp), mine]
    rfl
  have regs' : (w.timers timer').regs = group.addressById id' := by
    rw [since.same timer' (by simp), mine']
    rfl
  refine ⟨scaled.below, counting.below, ⟨_, _, getCounterValue_gptimers regs placed after,
    getCounterValue_gptimers regs' placed' after', ?_, ?_, ?_⟩, ?_⟩
  · rw [low]
    exact Nat.sub_le _ _
  · rw [high]
    exact Nat.sub_le _ _
  · rw [low, high]
    exact two_digits _ _ _
  · rw [Gptimers.interrupts, after', Gptimers.interrupts, there']
    exact interrupts

/-- A clock comes between the starts of two chained timers, and one after them. -/
theorem chained_counted_clock : ∃ set ready left calls w,
    Amid (Gives (exec apbctrl1 apbctrl1.gptimers)) (Meanwhile apbctrl1 [0, 1] 1 2) [.init .id2 0 ⟨0, 0⟩, .init .id3 1 ⟨0, 0⟩,
      .setBaseScalerReloadValue 0 0, .setConfigRegisters 0 ⟨false, false, true, false, 1⟩,
      .setConfigRegisters 1 ⟨true, false, true, true, 2⟩, .start 0] Gptimers.blank set ∧
    exec apbctrl1 apbctrl1.gptimers (.start 1) set = .ok (.done, ready) ∧
    Group.getCounterValue apbctrl1.gptimers 0 ready = .ok (left, ready) ∧
    Run apbctrl1 apbctrl1.gptimers (Apart apbctrl1 [0, 1] 1 2) ready calls w ∧ clocks calls = 1 ∧ left.toNat ≤ 1 ∧
    ∃ low high, Group.getCounterValue apbctrl1.gptimers 0 w = .ok (low, w) ∧
      Group.getCounterValue apbctrl1.gptimers 1 w = .ok (high, w) ∧ low.toNat ≤ 1 ∧ high.toNat ≤ 2 ∧
      low.toNat + (1 + 1) * high.toNat = (1 + 1) * (2 + 1) - 1 - (1 + (1 - left.toNat)) % ((1 + 1) * (2 + 1)) := by
  have called (call : Call) (w : World Gptimers) : ∃ w', Gives (exec apbctrl1 apbctrl1.gptimers) call w w' := by
    obtain ⟨answer, w', ran⟩ := exec_returns apbctrl1 apbctrl1.gptimers call w
    exact ⟨w', answer, ran⟩
  have nothing (w : World Gptimers) : Meanwhile apbctrl1 [0, 1] 1 2 w w := ⟨[], .nil⟩
  obtain ⟨w₁, init⟩ := called (.init .id2 0 ⟨0, 0⟩) Gptimers.blank
  obtain ⟨w₂, init'⟩ := called (.init .id3 1 ⟨0, 0⟩) w₁
  obtain ⟨w₃, scaled⟩ := called (.setBaseScalerReloadValue 0 0) w₂
  obtain ⟨w₄, configured⟩ := called (.setConfigRegisters 0 ⟨false, false, true, false, 1⟩) w₃
  obtain ⟨w₅, configured'⟩ := called (.setConfigRegisters 1 ⟨true, false, true, true, 2⟩) w₄
  obtain ⟨w₆, started⟩ := called (.start 0) w₅
  obtain ⟨set, _, clock⟩ := called .tick w₆
  obtain ⟨ready, started'⟩ : ∃ ready, exec apbctrl1 apbctrl1.gptimers (.start 1) set = .ok (.done, ready) := ⟨_, rfl⟩
  obtain ⟨w, _, clock'⟩ := called .tick ready
  have run : Run apbctrl1 apbctrl1.gptimers (Apart apbctrl1 [0, 1] 1 2) ready _ w := .one (i := Call.tick) trivial clock'
  have setUp : Amid (Gives (exec apbctrl1 apbctrl1.gptimers)) (Meanwhile apbctrl1 [0, 1] 1 2) [.init .id2 0 ⟨0, 0⟩,
      .init .id3 1 ⟨0, 0⟩, .setBaseScalerReloadValue 0 0, .setConfigRegisters 0 ⟨false, false, true, false, 1⟩,
      .setConfigRegisters 1 ⟨true, false, true, true, 2⟩, .start 0] Gptimers.blank set :=
    ⟨_, w₁, nothing _, init, _, w₂, nothing _, init', _, w₃, nothing _, scaled, _, w₄, nothing _, configured, _, w₅, nothing _,
      configured', _, w₆, nothing _, started, _, .one (i := Call.tick) trivial clock⟩
  obtain ⟨-, below, counted, -⟩ :=
    chained_counted apbctrl1 (n := 1) rfl rfl (by decide) (by decide) rfl rfl rfl rfl setUp started' rfl run
  have zero : (apbctrl1.scalerValue 0).toNat = 0 := rfl
  rw [zero, Nat.zero_sub, Nat.add_zero, Nat.zero_add, Nat.div_one] at counted
  exact ⟨set, ready, _, _, w, setUp, started', rfl, run, rfl, below, counted⟩

end Leon3Bsp.Timer
