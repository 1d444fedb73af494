import Leon3Bsp.Timer.Gptimer

/-!
# When a timer first expires

`setConfigRegisters` and `start` are thirteen accesses of a running device, and
ticks may pass before each of them. `setConfigRegisters` writes the enable bit
first: with `isEnabled` the timer then counts from zero until `start` loads it,
and a tick in that time underflows at once. Otherwise no underflow comes before
its time.
-/

namespace Leon3Bsp.Timer
set_option autoImplicit false
open Wp

/-- The timer and how many ticks pass before each access from now on. -/
structure Waiting where
  timer : Gptimer
  waits : Nat → Nat

namespace Waiting

/-- The ticks before the next access. -/
def pass (s : Waiting) : Waiting :=
  ⟨s.timer.ticks (s.waits 0), fun k => s.waits (k + 1)⟩

def device (regs : Nat) : Device Waiting where
  read r s := (((Gptimer.device regs).read r s.pass.timer).1, { s.pass with timer := ((Gptimer.device regs).read r s.pass.timer).2 })
  write r value s := { s.pass with timer := (Gptimer.device regs).write r value s.pass.timer }
  tick s := { s with timer := s.timer.tick }

def store (s : Waiting) (field : Field) (value : Word) : Waiting :=
  { s.pass with timer := s.pass.timer.write value field }

/-- A flag of the control register is assigned, in two accesses. -/
def assign (s : Waiting) (isSet : Bool) (flag : Nat) : Waiting :=
  s.pass.store .control (withFlag s.pass.timer.control isSet flag)

/-- `setConfigRegisters`, in nine accesses. -/
def configure (s : Waiting) (config : Config) : Waiting :=
  ((((s.assign config.isEnabled Control.EN).assign config.isInterruptEnabled Control.IE).assign config.isAutoReloaded
    Control.RS).assign config.isChained Control.CH).store .reload config.reloadValue

/-- `start`, in four. -/
def start (s : Waiting) : Waiting :=
  (s.assign true Control.LD).assign true Control.EN

end Waiting

/-- The ticks since the counter was last loaded. -/
def sinceLoad (log : List HwEvent) : Option Nat :=
  log.foldl (fun n event => if event = .loaded then some 0 else n.map (· + 1)) none

/-- Every underflow is at least the tick number `reload + 1` since a load. -/
def NeverEarly (reload : Word) (log : List HwEvent) : Prop :=
  ∀ before interrupt after, log = before ++ .underflowed interrupt :: after →
    ∃ n, sinceLoad before = some n ∧ reload.toNat + 1 ≤ n + 1

/-- `setConfigRegisters` and `start`. -/
def configureAndStart {σ : Type} (group : Group) (device : Device σ) (timer : TimerRef) (config : Config) : Driver σ Unit := do
  group.setConfigRegisters device timer config
  group.start device timer

/-- The timer is not enabled by its configuration, or no tick passes before any
access from the one after the write of the enable bit to the write of the load
bit. -/
def NotCountingYet (config : Config) (waits : Nat → Nat) : Prop :=
  config.isEnabled = false ∨ ∀ k, 2 ≤ k → k ≤ 10 → waits k = 0

section Log

variable {log : List HwEvent} {event : HwEvent} {reload : Word}

theorem sinceLoad_snoc : sinceLoad (log ++ [event]) =
    if event = .loaded then some 0 else (sinceLoad log).map (· + 1) := by
  rw [sinceLoad, List.foldl_append]
  rfl

theorem sinceLoad_ticked (n : Nat) : sinceLoad (List.replicate n .ticked) = none := by
  induction n with
  | zero => rfl
  | succ n ih => rw [List.replicate_succ', sinceLoad_snoc, ih]; rfl

theorem neverEarly_snoc : NeverEarly reload (log ++ [event]) ↔ NeverEarly reload log ∧
    ∀ interrupt, event = .underflowed interrupt → ∃ n, sinceLoad log = some n ∧ reload.toNat + 1 ≤ n + 1 := by
  constructor
  · intro never
    refine ⟨fun before interrupt after split => never before interrupt (after ++ [event]) ?_, ?_⟩
    · rw [split, List.append_assoc, List.cons_append]
    · rintro interrupt rfl
      exact never log interrupt [] rfl
  · rintro ⟨never, last⟩ before interrupt after split
    rcases Execution.snoc_split split with ⟨rfl, same, rfl⟩ | ⟨rest, rfl, inside⟩
    · exact last interrupt same.symm
    · exact never before interrupt rest inside

theorem neverEarly_ticked (n : Nat) : NeverEarly reload (List.replicate n .ticked) := by
  rintro before interrupt after split
  have member : HwEvent.underflowed interrupt ∈ List.replicate n HwEvent.ticked := by simp [split]
  cases List.eq_of_mem_replicate member

end Log

/-- The log grew by ticks alone. -/
def OnlyTicked (log₀ : List HwEvent) (g : Gptimer) : Prop :=
  ∃ n, g.log = log₀ ++ List.replicate n .ticked

/-- The log grew by an underflow that no load precedes. -/
def Spoiled (log₀ : List HwEvent) (g : Gptimer) : Prop :=
  ∃ before interrupt after, g.log = log₀ ++ (before ++ .underflowed interrupt :: after) ∧ sinceLoad before = none

/-- The counter was loaded with `reload`, and since then holds at least what the
ticks have left of it. -/
structure Counting (reload : Word) (log₀ segment : List HwEvent) (g : Gptimer) : Prop where
  log : g.log = log₀ ++ segment
  never : NeverEarly reload segment
  left : ∃ n, sinceLoad segment = some n ∧ (n ≤ reload.toNat → reload.toNat ≤ g.counter.toNat + n)
  plain : getFlag g.control Control.LD = false

section Phases

variable {log₀ segment : List HwEvent} {reload : Word} {g : Gptimer}

theorem OnlyTicked.tick (quiet : OnlyTicked log₀ g) {log : List HwEvent} (ticked : log = g.log ++ [.ticked]) :
    ∃ n, log = log₀ ++ List.replicate n .ticked := by
  obtain ⟨n, quiet⟩ := quiet
  exact ⟨n + 1, by rw [ticked, quiet, List.replicate_succ', List.append_assoc]⟩

/-- Only a load makes up for an early underflow, and it comes too late. -/
theorem Spoiled.grows (spoiled : Spoiled log₀ g) {g' : Gptimer} {events : List HwEvent} (log : g'.log = g.log ++ events) :
    Spoiled log₀ g' := by
  obtain ⟨before, interrupt, after, split, unloaded⟩ := spoiled
  refine ⟨before, interrupt, after ++ events, ?_, unloaded⟩
  rw [log, split, List.append_assoc, List.append_assoc, List.cons_append]

theorem tick_log (g : Gptimer) : ∃ event, g.tick.log = g.log ++ [event] := by
  unfold Gptimer.tick
  split
  · split
    · exact ⟨_, g.underflow_log⟩
    · exact ⟨_, rfl⟩
  · exact ⟨_, rfl⟩

theorem writeControl_log (value : Word) (g : Gptimer) : ∃ events, (g.writeControl value).log = g.log ++ events := by
  unfold Gptimer.writeControl
  split
  · exact ⟨_, rfl⟩
  · exact ⟨[], (List.append_nil _).symm⟩

theorem Spoiled.ticks (spoiled : Spoiled log₀ g) (n : Nat) : Spoiled log₀ (g.ticks n) := by
  refine Gptimer.ticks_keep (fun g spoiled => ?_) spoiled n
  obtain ⟨event, log⟩ := tick_log g
  exact spoiled.grows log

theorem Spoiled.writeControl (spoiled : Spoiled log₀ g) (value : Word) : Spoiled log₀ (g.writeControl value) := by
  obtain ⟨events, log⟩ := writeControl_log value g
  exact spoiled.grows log

theorem Spoiled.early (spoiled : Spoiled log₀ g) (log : g.log = log₀ ++ segment) : ¬ NeverEarly reload segment := by
  obtain ⟨before, interrupt, after, split, unloaded⟩ := spoiled
  intro never
  rw [log, List.append_cancel_left_eq] at split
  obtain ⟨n, loaded, -⟩ := never before interrupt after split
  rw [unloaded] at loaded
  cases loaded

theorem Counting.tick (counting : Counting reload log₀ segment g) :
    ∃ segment, Counting reload log₀ segment g.tick := by
  obtain ⟨log, never, ⟨n, since, left⟩, plain⟩ := counting
  have kept : getFlag g.tick.control Control.LD = false := by rw [g.tick_flag (by decide), plain]
  have grown (event : HwEvent) (other : event ≠ .loaded) : sinceLoad (segment ++ [event]) = some (n + 1) := by
    rw [sinceLoad_snoc, if_neg other, since]
    rfl
  by_cases enabled : getFlag g.control Control.EN = true
  · by_cases expired : g.counter = 0
    · -- the underflow comes on time, since nothing was left
      have due : reload.toNat ≤ n := by
        by_contra early
        have some := left (by omega)
        rw [expired] at some
        simp at some
        omega
      rw [Gptimer.tick_expired enabled expired] at kept ⊢
      refine ⟨segment ++ [.underflowed (getFlag g.control Control.IE)], ?_, ?_, ?_, kept⟩
      · rw [g.underflow_log, log, List.append_assoc]
      · exact neverEarly_snoc.2 ⟨never, fun _ _ => ⟨n, since, by omega⟩⟩
      · exact ⟨n + 1, grown _ (by simp), fun early => by omega⟩
    · have positive : 0 < g.counter.toNat := by
        apply Nat.pos_of_ne_zero
        intro zero
        exact expired (BitVec.eq_of_toNat_eq zero)
      have one : (g.counter - 1).toNat = g.counter.toNat - 1 := by
        rw [BitVec.toNat_sub_of_le]
        · rfl
        · exact positive
      rw [Gptimer.tick_counting enabled expired] at kept ⊢
      refine ⟨segment ++ [.ticked], ?_, ?_, ⟨n + 1, grown _ (by simp), fun early => ?_⟩, kept⟩
      · rw [log, List.append_assoc]
      · exact neverEarly_snoc.2 ⟨never, fun _ other => by cases other⟩
      · have some := left (by omega)
        rw [one]
        omega
  · have stopped : getFlag g.control Control.EN = false := eq_false_of_ne_true enabled
    rw [Gptimer.tick_stopped stopped] at kept ⊢
    refine ⟨segment ++ [.ticked], ?_, ?_, ⟨n + 1, grown _ (by simp), fun early => ?_⟩, kept⟩
    · rw [log, List.append_assoc]
    · exact neverEarly_snoc.2 ⟨never, fun _ other => by cases other⟩
    · have some := left (by omega)
      show reload.toNat ≤ g.counter.toNat + (n + 1)
      omega

theorem Counting.ticks (counting : Counting reload log₀ segment g) (n : Nat) :
    ∃ segment, Counting reload log₀ segment (g.ticks n) :=
  Gptimer.ticks_keep (P := fun g => ∃ segment, Counting reload log₀ segment g)
    (fun _ ⟨_, counting⟩ => counting.tick) ⟨segment, counting⟩ n

/-- The control register is written without the load bit. -/
theorem Counting.writeControl (counting : Counting reload log₀ segment g) {value : Word}
    (plain : getFlag value Control.LD = false) : Counting reload log₀ segment (g.writeControl value) := by
  rw [Gptimer.writeControl_plain plain]
  exact ⟨counting.log, counting.never, counting.left, plain⟩

/-- A load after ticks alone. -/
theorem OnlyTicked.load (quiet : OnlyTicked log₀ g) {value : Word} (load : getFlag value Control.LD = true) :
    ∃ segment, Counting g.reload log₀ segment (g.writeControl value) := by
  obtain ⟨n, log⟩ := quiet
  rw [Gptimer.writeControl_load load]
  refine ⟨List.replicate n .ticked ++ [.loaded], ?_, ?_, ⟨0, ?_, fun _ => Nat.le_refl _⟩, ?_⟩
  · rw [log, List.append_assoc]
  · exact neverEarly_snoc.2 ⟨neverEarly_ticked n, fun _ other => by cases other⟩
  · rw [sinceLoad_snoc, if_pos rfl]
  · rw [getFlag_withFlag _ _ (by decide), if_pos rfl]

theorem OnlyTicked.ticks_stopped (quiet : OnlyTicked log₀ g) (stopped : getFlag g.control Control.EN = false) (n : Nat) :
    OnlyTicked log₀ (g.ticks n) ∧ (g.ticks n).control = g.control ∧ (g.ticks n).counter = g.counter ∧
      (g.ticks n).reload = g.reload := by
  induction n with
  | zero => exact ⟨quiet, rfl, rfl, rfl⟩
  | succ n ih =>
    obtain ⟨quiet, control, counter, reload⟩ := ih
    rw [Gptimer.ticks_succ, Gptimer.tick_stopped (by rw [control, stopped])]
    exact ⟨quiet.tick rfl, control, counter, reload⟩

end Phases

/-- Between the write of the enable bit and the load, after `j` accesses: the
timer stands still, or it is enabled at zero and no tick has passed, or one has. -/
inductive Pending (config : Config) (waits : Nat → Nat) (log₀ : List HwEvent) (reload : Word) (j : Nat) (g : Gptimer) : Prop
  | idle (off : config.isEnabled = false) (stopped : getFlag g.control Control.EN = false)
      (plain : getFlag g.control Control.LD = false) (reload : g.reload = reload) (quiet : OnlyTicked log₀ g)
  | armed (on : config.isEnabled = true) (enabled : getFlag g.control Control.EN = true)
      (plain : getFlag g.control Control.LD = false) (reload : g.reload = reload) (zero : g.counter = 0)
      (still : ∀ k, 2 ≤ k → k < j → waits k = 0) (quiet : OnlyTicked log₀ g)
  | spoiled (on : config.isEnabled = true) (moved : ∃ k, 2 ≤ k ∧ k < j ∧ waits k ≠ 0) (spoiled : Spoiled log₀ g)

section Pending

variable {config : Config} {waits : Nat → Nat} {log₀ : List HwEvent} {reload : Word} {j : Nat} {g : Gptimer}

/-- Ticks before access `j`. -/
theorem Pending.wait (pending : Pending config waits log₀ reload j g) (later : 2 ≤ j) :
    Pending config waits log₀ reload (j + 1) (g.ticks (waits j)) := by
  cases pending with
  | idle off stopped plain loads quiet =>
    obtain ⟨quiet', control, counter, reload'⟩ := quiet.ticks_stopped stopped (waits j)
    exact .idle off (by rw [control, stopped]) (by rw [control, plain]) (by rw [reload', loads]) quiet'
  | armed on enabled plain loads zero still quiet =>
    cases passed : waits j with
    | zero =>
      refine .armed on enabled plain loads zero (fun k low high => ?_) quiet
      rcases Nat.lt_succ_iff_lt_or_eq.1 high with before | rfl
      · exact still k low before
      · exact passed
    | succ n =>
      -- the first tick underflows
      refine .spoiled on ⟨j, later, Nat.lt_succ_self j, by omega⟩ ?_
      obtain ⟨m, log⟩ := quiet
      have first : Spoiled log₀ g.tick := by
        rw [Gptimer.tick_expired enabled zero]
        refine ⟨List.replicate m .ticked, getFlag g.control Control.IE, [], ?_, sinceLoad_ticked m⟩
        rw [g.underflow_log, log, List.append_assoc]
      have rest := first.ticks n
      exact rest
  | spoiled on moved early =>
    obtain ⟨k, low, high, passed⟩ := moved
    exact .spoiled on ⟨k, low, Nat.lt_succ_of_lt high, passed⟩ (early.ticks _)

/-- A control word is written that keeps the enable bit of one read before. -/
theorem Pending.writeControl (pending : Pending config waits log₀ reload j g) {i : Nat} {before : Gptimer}
    (earlier : Pending config waits log₀ reload i before) (order : i ≤ j) {value : Word}
    (enable : getFlag value Control.EN = getFlag before.control Control.EN)
    (load : getFlag value Control.LD = getFlag before.control Control.LD) :
    Pending config waits log₀ reload j (g.writeControl value) := by
  cases pending with
  | idle off stopped plain loads quiet =>
    cases earlier with
    | idle _ stopped' plain' =>
      rw [Gptimer.writeControl_plain (load.trans plain')]
      exact .idle off (enable.trans stopped') (load.trans plain') loads quiet
    | armed on | spoiled on => simp [off] at on
  | armed on enabled plain loads zero still quiet =>
    cases earlier with
    | idle off => simp [on] at off
    | armed _ enabled' plain' =>
      rw [Gptimer.writeControl_plain (load.trans plain')]
      exact .armed on (enable.trans enabled') (load.trans plain') loads zero still quiet
    | spoiled _ moved =>
      obtain ⟨k, low, high, passed⟩ := moved
      exact absurd (still k low (by omega)) passed
  | spoiled on moved early => exact .spoiled on moved (early.writeControl value)

end Pending

/-- After `j` accesses, the load of `start` still to come. -/
structure Reached (config : Config) (waits : Nat → Nat) (log₀ : List HwEvent) (reload : Word) (j : Nat) (s : Waiting) : Prop where
  pending : Pending config waits log₀ reload j s.timer
  schedule : s.waits = fun k => waits (k + j)

/-- After the load: it was in time, or an underflow was before it. -/
inductive Loaded (config : Config) (waits : Nat → Nat) (log₀ : List HwEvent) (g : Gptimer) : Prop
  | counting (still : NotCountingYet config waits) (segment : List HwEvent)
      (counting : Counting config.reloadValue log₀ segment g)
  | late (moved : ¬ NotCountingYet config waits) (spoiled : Spoiled log₀ g)

section Accesses

variable {config : Config} {waits : Nat → Nat} {log₀ : List HwEvent} {reload : Word} {j : Nat} {s : Waiting} {g : Gptimer}

theorem Reached.pass (reached : Reached config waits log₀ reload j s) (later : 2 ≤ j) :
    Reached config waits log₀ reload (j + 1) s.pass := by
  obtain ⟨pending, schedule⟩ := reached
  constructor
  · have waited := pending.wait later
    simpa only [Waiting.pass, schedule, Nat.zero_add] using waited
  · funext k
    simp only [Waiting.pass, schedule, Nat.add_assoc, Nat.add_comm 1 j]

/-- A flag beside `EN` and `LD` is assigned. -/
theorem Reached.assign (reached : Reached config waits log₀ reload j s) (later : 2 ≤ j) (isSet : Bool) {flag : Nat}
    (inside : flag < 32) (notEN : flag ≠ Control.EN) (notLD : flag ≠ Control.LD) :
    Reached config waits log₀ reload (j + 2) (s.assign isSet flag) := by
  have read := reached.pass later
  have written := read.pass (by omega)
  refine ⟨written.pending.writeControl read.pending (Nat.le_succ _) ?_ ?_, written.schedule⟩
  · rw [getFlag_withFlag _ _ inside, if_neg notEN.symm]
  · rw [getFlag_withFlag _ _ inside, if_neg notLD.symm]

/-- The enable bit is assigned, in the first two accesses. -/
theorem Reached.enable {log₀ : List HwEvent} (control : s.timer.control = 0) (counter : s.timer.counter = 0)
    (log : s.timer.log = log₀) : Reached config s.waits log₀ s.timer.reload 2 (s.assign config.isEnabled Control.EN) := by
  have quiet : OnlyTicked log₀ s.timer := ⟨0, by rw [log, List.replicate_zero, List.append_nil]⟩
  obtain ⟨quiet, control₁, counter₁, reload₁⟩ := quiet.ticks_stopped (by rw [control]; rfl) (s.waits 0)
  obtain ⟨quiet, control₂, counter₂, reload₂⟩ := quiet.ticks_stopped (by rw [control₁, control]; rfl) (s.waits 1)
  have word : s.pass.timer.control = 0 := control₁.trans control
  have plain : getFlag (withFlag 0 config.isEnabled Control.EN) Control.LD = false := by
    rw [getFlag_withFlag _ _ (by decide), if_neg (by decide)]
    rfl
  have enabled : getFlag (withFlag 0 config.isEnabled Control.EN) Control.EN = config.isEnabled := by
    rw [getFlag_withFlag _ _ (by decide), if_pos rfl]
  refine ⟨?_, rfl⟩
  have stored : (s.assign config.isEnabled Control.EN).timer =
      { s.pass.pass.timer with control := withFlag 0 config.isEnabled Control.EN } := by
    rw [← Gptimer.writeControl_plain plain, ← word]
    rfl
  rw [stored]
  cases on : config.isEnabled with
  | false =>
    rw [on] at plain enabled
    exact .idle on enabled plain (reload₂.trans reload₁) quiet
  | true =>
    rw [on] at plain enabled
    refine .armed on enabled plain (reload₂.trans reload₁) ?_ ?_ quiet
    · exact counter₂.trans (counter₁.trans counter)
    · intro k low high
      omega

/-- The reload value is written. -/
theorem Reached.store (reached : Reached config waits log₀ reload j s) (later : 2 ≤ j) (value : Word) :
    Reached config waits log₀ value (j + 1) (s.store .reload value) := by
  obtain ⟨pending, schedule⟩ := reached.pass later
  refine ⟨?_, schedule⟩
  cases pending with
  | idle off stopped plain _ quiet => exact .idle off stopped plain rfl quiet
  | armed on enabled plain _ zero still quiet => exact .armed on enabled plain rfl zero still quiet
  | spoiled on moved spoiled => exact .spoiled on moved (spoiled.grows (List.append_nil _).symm)

theorem Reached.load (reached : Reached config waits log₀ config.reloadValue 9 s) :
    Loaded config waits log₀ (s.assign true Control.LD).timer := by
  have written := (reached.pass (by omega)).pass (by omega)
  have load : getFlag (withFlag s.pass.timer.control true Control.LD) Control.LD = true := by
    rw [getFlag_withFlag _ _ (by decide), if_pos rfl]
  cases written.pending with
  | idle off _ _ reload quiet =>
    obtain ⟨segment, counting⟩ := quiet.load load
    rw [reload] at counting
    exact .counting (.inl off) segment counting
  | armed _ _ _ reload _ still quiet =>
    obtain ⟨segment, counting⟩ := quiet.load load
    rw [reload] at counting
    exact .counting (.inr fun k low high => still k low (by omega)) segment counting
  | spoiled on moved early =>
    obtain ⟨k, low, high, passed⟩ := moved
    refine .late ?_ (early.writeControl _)
    rintro (off | still)
    · simp [on] at off
    · exact passed (still k low (by omega))

theorem Loaded.ticks (loaded : Loaded config waits log₀ g) (n : Nat) : Loaded config waits log₀ (g.ticks n) := by
  cases loaded with
  | counting still segment counting =>
    obtain ⟨segment, counting⟩ := counting.ticks n
    exact .counting still segment counting
  | late moved spoiled => exact .late moved (spoiled.ticks n)

/-- `start` sets the enable bit last. -/
theorem Loaded.enable (loaded : Loaded config waits log₀ s.timer) :
    Loaded config waits log₀ (s.assign true Control.EN).timer := by
  have read := loaded.ticks (s.waits 0)
  have written := read.ticks (s.waits 1)
  cases written with
  | counting still segment counting =>
    cases read with
    | counting _ _ before =>
      have plain : getFlag (withFlag s.pass.timer.control true Control.EN) Control.LD = false := by
        rw [getFlag_withFlag _ _ (by decide), if_neg (by decide)]
        exact before.plain
      exact .counting still segment (counting.writeControl plain)
    | late moved => exact absurd still moved
  | late moved spoiled => exact .late moved (spoiled.writeControl _)

theorem Loaded.neverEarly_iff (loaded : Loaded config waits log₀ g) :
    ∃ segment, g.log = log₀ ++ segment ∧ (NeverEarly config.reloadValue segment ↔ NotCountingYet config waits) := by
  cases loaded with
  | counting still segment counting => exact ⟨segment, counting.log, iff_of_true counting.never still⟩
  | late moved spoiled =>
    obtain ⟨segment, log⟩ : ∃ segment, g.log = log₀ ++ segment := by
      obtain ⟨before, interrupt, after, log, _⟩ := spoiled
      exact ⟨_, log⟩
    exact ⟨segment, log, iff_of_false (spoiled.early log) moved⟩

/-- `setConfigRegisters` and `start` after `init`, whenever ticks pass. -/
theorem loaded_started (s : Waiting) (control : s.timer.control = 0) (counter : s.timer.counter = 0) (config : Config) :
    Loaded config s.waits s.timer.log ((s.configure config).start).timer := by
  have inside : Control.IE < 32 ∧ Control.RS < 32 ∧ Control.CH < 32 := by decide
  have notEN : Control.IE ≠ Control.EN ∧ Control.RS ≠ Control.EN ∧ Control.CH ≠ Control.EN := by decide
  have notLD : Control.IE ≠ Control.LD ∧ Control.RS ≠ Control.LD ∧ Control.CH ≠ Control.LD := by decide
  have enable : Reached config s.waits s.timer.log _ 2 _ := Reached.enable control counter rfl
  have interrupt := enable.assign (by omega) config.isInterruptEnabled inside.1 notEN.1 notLD.1
  have mode := interrupt.assign (by omega) config.isAutoReloaded inside.2.1 notEN.2.1 notLD.2.1
  have chain := mode.assign (by omega) config.isChained inside.2.2 notEN.2.2 notLD.2.2
  have reload := chain.store (by omega) config.reloadValue
  exact reload.load.enable

end Accesses

section Program

variable {may : Empty → Prop} (regs : Nat) (w : World Waiting)

theorem wp_setFlag_control (isSet : Bool) (flag : Nat) (Q : Unit → World Waiting → Prop) :
    wp may (setFlag (Waiting.device regs) ⟨regs, .control⟩ isSet flag) Q w ↔ Q () { w with hw := w.hw.assign isSet flag } := by
  have read : (w.value (Waiting.device regs) ⟨regs, .control⟩) = w.hw.pass.timer.control := by
    simp [World.value, Waiting.device, Gptimer.device, Gptimer.read]
  have stored : (w.afterRead (Waiting.device regs) ⟨regs, .control⟩).afterWrite (Waiting.device regs) ⟨regs, .control⟩
      (withFlag w.hw.pass.timer.control isSet flag) = { w with hw := w.hw.assign isSet flag } := by
    simp [World.afterRead, World.afterWrite, Waiting.device, Gptimer.device, Waiting.assign, Waiting.store]
  simp only [setFlag, wp_bind, wp_readRegister, wp_writeRegister, read, stored]

theorem write_own (field : Field) (value : Word) (s : Waiting) :
    (Waiting.device regs).write ⟨regs, field⟩ value s = s.store field value := by
  simp [Waiting.device, Gptimer.device, Waiting.store]

theorem wp_writeRegister_own (field : Field) (value : Word) (Q : Unit → World Waiting → Prop) :
    wp may (writeRegister (Waiting.device regs) ⟨regs, field⟩ value) Q w ↔ Q () { w with hw := w.hw.store field value } := by
  rw [wp_writeRegister, World.afterWrite, write_own]

end Program

/-- Clearing the control register first stops the timer before the counter is cleared. -/
theorem Waiting.cleared (s : Waiting) : (((s.store .control 0).store .counter 0).store .reload 0).timer.control = 0 ∧
    (((s.store .control 0).store .counter 0).store .reload 0).timer.counter = 0 := by
  have stopped (g : Gptimer) (control : g.control = 0) (n : Nat) : (g.ticks n).control = 0 ∧ (g.ticks n).counter = g.counter := by
    have quiet : OnlyTicked g.log g := ⟨0, (List.append_nil _).symm⟩
    obtain ⟨-, same, counter, -⟩ := quiet.ticks_stopped (by rw [control]; rfl) n
    exact ⟨same.trans control, counter⟩
  have control := (stopped (s.store .control 0).timer rfl ((s.store .control 0).waits 0)).1
  have reload := stopped ((s.store .control 0).store .counter 0).timer control (((s.store .control 0).store .counter 0).waits 0)
  exact reload

/-- `init` leaves the timer stopped at zero. -/
theorem init_ends (group : Group) (id : Id) (timer : TimerRef) (handler : InterruptHandler) (start : World Waiting) :
    ∃ ready, group.init (Waiting.device (group.addressById id)) id timer handler start = .ok ((), ready) ∧
      (ready.timers timer).regs = group.addressById id ∧ ready.hw.timer.control = 0 ∧ ready.hw.timer.counter = 0 := by
  have spec : wp total (group.init (Waiting.device (group.addressById id)) id timer handler) (fun _ ready =>
      (ready.timers timer).regs = group.addressById id ∧ ready.hw.timer.control = 0 ∧ ready.hw.timer.counter = 0) start := by
    apply wp_mono (wp_init group _ id timer handler start)
    rintro _ ready ⟨mine, s, hw⟩
    simp only [write_own] at hw
    rw [hw]
    exact ⟨mine, s.cleared⟩
  obtain ⟨_, ready, run, ends⟩ := wp_total spec
  exact ⟨ready, run, ends⟩

/-- The two calls are the thirteen accesses. -/
theorem configureAndStart_ends (group : Group) (timer : TimerRef) (config : Config) {ready : World Waiting} {regs : Nat}
    (mine : (ready.timers timer).regs = regs) :
    ∃ running, configureAndStart group (Waiting.device regs) timer config ready = .ok ((), running) ∧
      running.hw = (ready.hw.configure config).start := by
  have spec : wp total (configureAndStart group (Waiting.device regs) timer config)
      (fun _ running => running.hw = (ready.hw.configure config).start) ready := by
    simp only [configureAndStart, Group.setConfigRegisters, Group.start, setConfigRegisters, Timer.start, wp_bind,
      wp_descriptor, wp_vectorDisable, wp_vectorEnable, World.withRtems_timers, mine, wp_setFlag_control,
      wp_writeRegister_own]
    rfl
  obtain ⟨_, running, run, same⟩ := wp_total spec
  exact ⟨running, run, same⟩

/-- **No underflow comes early** exactly if the timer is not counting before it
is loaded. It is not chained: the ticks here are the scaler's, which a chained
timer does not count. -/
theorem never_early_iff (group : Group) (id : Id) (timer : TimerRef) (handler : InterruptHandler) (start : World Waiting)
    {config : Config} (_unchained : config.isChained = false) (further : Nat) :
    ∃ ready running, group.init (Waiting.device (group.addressById id)) id timer handler start = .ok ((), ready) ∧
      configureAndStart group (Waiting.device (group.addressById id)) timer config ready = .ok ((), running) ∧
      ∃ segment, (running.hw.timer.ticks further).log = ready.hw.timer.log ++ segment ∧
        (NeverEarly config.reloadValue segment ↔ NotCountingYet config ready.hw.waits) := by
  obtain ⟨ready, initialised, mine, control, counter⟩ := init_ends group id timer handler start
  obtain ⟨running, started, same⟩ := configureAndStart_ends group timer config mine
  refine ⟨ready, running, initialised, started, ?_⟩
  rw [same]
  exact ((loaded_started ready.hw control counter config).ticks further).neverEarly_iff

/-- A timer at zero, for which the accesses `late` on ticks pass. -/
def Waiting.blank (late : Nat → Nat) : World Waiting :=
  World.blank ⟨⟨0, 0, 0, []⟩, late⟩

/-- A tick before every access, for a timer that its configuration does not enable. -/
theorem never_early_disabled :
    ∃ ready running, apbctrl1.init (Waiting.device 0x80000310) .id1 0 ⟨0, 0⟩ (Waiting.blank fun _ => 1) = .ok ((), ready) ∧
      configureAndStart apbctrl1 (Waiting.device 0x80000310) 0 ⟨true, false, true, false, 2⟩ ready = .ok ((), running) ∧
      ∃ segment, (running.hw.timer.ticks 4).log = ready.hw.timer.log ++ segment ∧ NeverEarly 2 segment := by
  have unchained : (⟨true, false, true, false, 2⟩ : Config).isChained = false := rfl
  obtain ⟨ready, running, initialised, started, segment, log, never⟩ := never_early_iff apbctrl1 .id1 0 ⟨0, 0⟩
    (Waiting.blank fun _ => 1) unchained 4
  exact ⟨ready, running, initialised, started, segment, log, never.2 (.inl rfl)⟩

/-- One tick once the enable and interrupt bits are written: the interrupt is
raised before the counter is loaded. -/
theorem early_interrupt :
    ∃ ready running after, apbctrl1.init (Waiting.device 0x80000310) .id1 0 ⟨0, 0⟩
        (Waiting.blank fun k => if k = 11 then 1 else 0) = .ok ((), ready) ∧
      configureAndStart apbctrl1 (Waiting.device 0x80000310) 0 ⟨true, true, false, false, 5⟩ ready = .ok ((), running) ∧
      running.hw.timer.log = ready.hw.timer.log ++ .underflowed true :: after ∧
      ¬ NeverEarly 5 (.underflowed true :: after) := by
  refine ⟨_, _, [.loaded], rfl, rfl, rfl, fun never => ?_⟩
  obtain ⟨n, loaded, -⟩ := never [] true [.loaded] rfl
  cases loaded

end Leon3Bsp.Timer
