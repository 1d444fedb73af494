import Mathlib.Logic.Function.Iterate
import Leon3Bsp.Lib.Interruption

/-!
# A clock beside a program

A clock may tick before every step of a program. A step that does the same
before a tick and after it is a mover: it changes places with the tick. A program
that moves but for one of its steps has gone as a whole, between two ticks, for
all that can be seen of the states through `view`.
-/

namespace Movers
set_option autoImplicit false
open Wp Execution Coupling Interruption

universe u

variable {ε σ τ ι ω α β : Type u}

/-- States that look the same. -/
abbrev Seen (view : σ → τ) (s t : σ) : Prop :=
  view s = view t

/-- A program that ended, with how many ticks came between its steps. -/
inductive Paced (tick : σ → σ) : Steps ε σ α → σ → Nat → α → σ → Prop
  | done (a : α) (s : σ) : Paced tick (.done a) s 0 a s
  | ticked {p : Steps ε σ α} {s s' : σ} {n : Nat} {a : α} (rest : Paced tick p (tick s) n a s') : Paced tick p s (n + 1) a s'
  | stepped {β : Type u} {act : Program ε σ β} {next : β → Steps ε σ α} {b : β} {s s' s'' : σ} {n : Nat} {a : α}
      (ran : act s = .ok (b, s')) (rest : Paced tick (next b) s' n a s'') : Paced tick (.step act next) s n a s''

/-- Wherever the ticks come, the program has gone as a whole after some of them. -/
def Whole (tick : σ → σ) (view : σ → τ) (p : Steps ε σ α) (s : σ) : Prop :=
  ∀ n a s', Paced tick p s n a s' →
    ∃ j k t, j + k = n ∧ p.atomic (tick^[j] s) = .ok (a, t) ∧ view (tick^[k] t) = view s'

/-- What ticks do not change, and what can be seen. -/
structure Stable (tick : σ → σ) (view : σ → τ) (I : σ → Prop) : Prop where
  tick : ∀ s, I s → I (tick s)
  view : ∀ s t, view s = view t → I s → I t

/-- A step that changes places with a tick, in the states of `I`. -/
structure Mover (tick : σ → σ) (view : σ → τ) (I : σ → Prop) (m : Program ε σ α) : Prop where
  passes : ∀ s, I s → ∃ a s' t, m s = .ok (a, s') ∧ m (tick s) = .ok (a, t) ∧ view t = view (tick s')
  keeps : ∀ s a s', I s → m s = .ok (a, s') → I s'

/-- Every step is a mover. -/
def Drifts (tick : σ → σ) (view : σ → τ) (I : σ → Prop) : Steps ε σ α → Prop
  | .done _ => True
  | .step act next => Mover tick view I act ∧ ∀ s b s', I s → act s = .ok (b, s') → Drifts tick view I (next b)

theorem drifts_once {tick : σ → σ} {view : σ → τ} {I : σ → Prop} {m : Program ε σ α} (mover : Mover tick view I m) :
    Drifts tick view I (.once m) :=
  ⟨mover, fun _ _ _ _ _ => trivial⟩

theorem Drifts.bind {tick : σ → σ} {view : σ → τ} {I : σ → Prop} {p : Steps ε σ α} {f : α → Steps ε σ β}
    (first : Drifts tick view I p) (second : ∀ a, Drifts tick view I (f a)) : Drifts tick view I (p >>= f) := by
  induction p with
  | done a => exact second a
  | step act next ih => exact ⟨first.1, fun s b s' holds ran => ih b (first.2 s b s' holds ran)⟩

/-- Every step keeps what holds of the ticks so far and the state. -/
def Carries (J : Nat → σ → Prop) : Steps ε σ α → Prop
  | .done _ => True
  | .step act next => ∀ n s b s', J n s → act s = .ok (b, s') → J n s' ∧ Carries J (next b)

theorem carries_once {J : Nat → σ → Prop} {m : Program ε σ α} (kept : ∀ n s a s', J n s → m s = .ok (a, s') → J n s') :
    Carries J (.once m) :=
  fun n s a s' holds ran => ⟨kept n s a s' holds ran, trivial⟩

theorem Carries.bind {J : Nat → σ → Prop} {p : Steps ε σ α} {f : α → Steps ε σ β} (first : Carries J p)
    (second : ∀ a, Carries J (f a)) : Carries J (p >>= f) := by
  induction p with
  | done a => exact second a
  | step act next ih =>
    intro n s b s' holds ran
    obtain ⟨holds', rest⟩ := first n s b s' holds ran
    exact ⟨holds', ih b rest⟩

/-- What steps and ticks keep holds when a program ended. -/
theorem Paced.carries {tick : σ → σ} {J : Nat → σ → Prop} {p : Steps ε σ α} {s s' : σ} {n k : Nat} {a : α}
    (paced : Paced tick p s k a s') (carries : Carries J p) (ticks : ∀ n s, J n s → J (n + 1) (tick s)) (holds : J n s) :
    J (n + k) s' := by
  induction paced generalizing n with
  | done a s => exact holds
  | ticked rest ih =>
    rw [Nat.add_comm _ 1, ← Nat.add_assoc]
    exact ih carries (ticks _ _ holds)
  | stepped ran rest ih =>
    obtain ⟨holds', carries'⟩ := carries _ _ _ _ holds ran
    exact ih carries' holds'

section Paced

variable {tick : σ → σ} {view : σ → τ} {p : Steps ε σ α} {f : α → Steps ε σ β} {s s' : σ} {n : Nat}

/-- A sequence is paced in its two parts. -/
theorem paced_bind {b : β} (paced : Paced tick (p >>= f) s n b s') :
    ∃ n₁ n₂ a s₁, n₁ + n₂ = n ∧ Paced tick p s n₁ a s₁ ∧ Paced tick (f a) s₁ n₂ b s' := by
  generalize whole : p >>= f = q at paced
  induction paced generalizing p with
  | done b s =>
    cases p with
    | done a =>
      have last : f a = .done b := whole
      exact ⟨0, 0, a, s, rfl, .done a s, last ▸ .done b s⟩
    | step act next => cases whole
  | ticked rest ih =>
    obtain ⟨n₁, n₂, a, s₁, sum, first, second⟩ := ih whole
    exact ⟨n₁ + 1, n₂, a, s₁, by omega, .ticked first, second⟩
  | stepped ran rest ih =>
    cases p with
    | done a =>
      have last : f a = _ := whole
      exact ⟨0, _, a, _, Nat.zero_add _, .done a _, last ▸ .stepped ran rest⟩
    | step act next =>
      cases whole
      obtain ⟨n₁, n₂, a, s₁, sum, first, second⟩ := ih rfl
      exact ⟨n₁, n₂, a, s₁, sum, .stepped ran first, second⟩

theorem paced_done {a b : α} (paced : Paced tick (.done a : Steps ε σ α) s n b s') : b = a ∧ s' = tick^[n] s := by
  generalize last : (Steps.done a : Steps ε σ α) = p at paced
  induction paced with
  | done b s =>
    cases last
    exact ⟨rfl, rfl⟩
  | ticked rest ih => exact ih last
  | stepped ran rest => cases last

/-- A step waits for some ticks. -/
theorem paced_step {act : Program ε σ β} {next : β → Steps ε σ α} {a : α} (paced : Paced tick (.step act next) s n a s') :
    ∃ j k b s₁, j + k = n ∧ act (tick^[j] s) = .ok (b, s₁) ∧ Paced tick (next b) s₁ k a s' := by
  generalize first : Steps.step act next = p at paced
  induction paced with
  | done b s => cases first
  | ticked rest ih =>
    obtain ⟨j, k, b, s₁, sum, ran, later⟩ := ih first
    exact ⟨j + 1, k, b, s₁, by omega, ran, later⟩
  | stepped ran rest =>
    cases first
    exact ⟨0, _, _, _, Nat.zero_add _, ran, rest⟩

theorem respects_atomic {R : σ → σ → Prop} (respectful : Respectful R p) : Respects R p.atomic := by
  induction p with
  | done a => exact respects_pure a
  | step act next ih => exact respectful.1.bind fun b => ih b (respectful.2 b)

/-- A program that ended ends from a state that looks the same. -/
theorem ended_seen {m : Program ε σ α} {t : σ} {a : α} (sees : Respects (Seen view) m) (ran : m s = .ok (a, s'))
    (same : view s = view t) : ∃ t', m t = .ok (a, t') ∧ view s' = view t' := by
  cases sees s t same with
  | ended left right related =>
    rw [ran] at left
    cases left
    exact ⟨_, right, related⟩
  | faulted left =>
    rw [ran] at left
    cases left

end Paced

theorem Stable.iterate {tick : σ → σ} {view : σ → τ} {I : σ → Prop} {s : σ} (stable : Stable tick view I) (holds : I s) (n : Nat) :
    I (tick^[n] s) := by
  induction n with
  | zero => exact holds
  | succ n ih =>
    rw [Function.iterate_succ_apply']
    exact stable.tick _ ih

section Movers

variable {tick : σ → σ} {view : σ → τ} {I : σ → Prop} {p : Steps ε σ α} {f : α → Steps ε σ β} {s s' t : σ} {n : Nat} {a : α}
variable (ticks : ∀ s t, view s = view t → view (tick s) = view (tick t))
include ticks

theorem iterate_seen (same : view s = view t) (n : Nat) : view (tick^[n] s) = view (tick^[n] t) := by
  induction n generalizing s t with
  | zero => exact same
  | succ n ih => exact ih (ticks s t same)

/-- A mover changes places with any number of ticks. -/
theorem Mover.iterate {m : Program ε σ α} (mover : Mover tick view I m) (stable : Stable tick view I) (holds : I s)
    (ran : m s = .ok (a, s')) (n : Nat) : ∃ t, m (tick^[n] s) = .ok (a, t) ∧ view t = view (tick^[n] s') := by
  induction n generalizing s s' with
  | zero => exact ⟨s', ran, rfl⟩
  | succ n ih =>
    obtain ⟨b, s₁, t, here, later, same⟩ := mover.passes s holds
    rw [ran] at here
    cases here
    obtain ⟨u, last, same'⟩ := ih (stable.tick s holds) later
    exact ⟨u, last, same'.trans (iterate_seen ticks same n)⟩

/-- So does a program of movers. -/
theorem Drifts.iterate (drifts : Drifts tick view I p) (sees : Respectful (Seen view) p) (stable : Stable tick view I)
    (holds : I s) : ∃ a s', p.atomic s = .ok (a, s') ∧ I s' ∧
      ∀ n, ∃ t, p.atomic (tick^[n] s) = .ok (a, t) ∧ view t = view (tick^[n] s') := by
  induction p generalizing s with
  | done a => exact ⟨a, s, rfl, holds, fun n => ⟨tick^[n] s, rfl, rfl⟩⟩
  | step act next ih =>
    obtain ⟨mover, rest⟩ := drifts
    obtain ⟨b, s₁, -, ran, -⟩ := mover.passes s holds
    obtain ⟨a, s', ended, holds', later⟩ := ih b (rest s b s₁ holds ran) (sees.2 b) (mover.keeps s b s₁ holds ran)
    refine ⟨a, s', (Steps.atomic_ok ran).trans ended, holds', fun n => ?_⟩
    obtain ⟨t₁, ran', same⟩ := mover.iterate ticks stable holds ran n
    obtain ⟨t, ended', same'⟩ := later n
    obtain ⟨u, ended'', same''⟩ := ended_seen (respects_atomic (sees.2 b)) ended' same.symm
    exact ⟨u, (Steps.atomic_ok ran').trans ended'', same''.symm.trans same'⟩

/-- The ticks between movers come after them. -/
theorem Drifts.paced (drifts : Drifts tick view I p) (sees : Respectful (Seen view) p) (stable : Stable tick view I)
    (paced : Paced tick p s n a s') (holds : I s) : ∃ t, p.atomic s = .ok (a, t) ∧ view (tick^[n] t) = view s' := by
  induction paced with
  | done a s => exact ⟨s, rfl, rfl⟩
  | ticked rest ih =>
    obtain ⟨t, ended, same⟩ := ih drifts sees (stable.tick _ holds)
    obtain ⟨b, u, ended', -, later⟩ := drifts.iterate ticks sees stable holds
    obtain ⟨t', ended'', same'⟩ := later 1
    have both := ended.symm.trans ended''
    cases both
    exact ⟨u, ended', (iterate_seen ticks same'.symm _).trans same⟩
  | stepped ran rest ih =>
    obtain ⟨mover, later⟩ := drifts
    obtain ⟨t, ended, same⟩ := ih (later _ _ _ holds ran) (sees.2 _) (mover.keeps _ _ _ holds ran)
    exact ⟨t, (Steps.atomic_ok ran).trans ended, same⟩

/-- Movers before a program that goes as a whole. -/
theorem whole_before (drifts : Drifts tick view I p) (sees : Respectful (Seen view) p) (sees' : ∀ a, Respectful (Seen view) (f a))
    (stable : Stable tick view I) (holds : I s)
    (then_ : ∀ a s₀ s₁ s', I s₀ → p.atomic s₀ = .ok (a, s₁) → view s₁ = view s' → I s' → Whole tick view (f a) s') :
    Whole tick view (p >>= f) s := by
  intro n b s'' paced
  obtain ⟨n₁, n₂, a, s', sum, first, second⟩ := paced_bind paced
  obtain ⟨s₁, ended, same⟩ := drifts.paced ticks sees stable first holds
  obtain ⟨_, _, ended', holds₁, later⟩ := drifts.iterate ticks sees stable holds
  cases ended.symm.trans ended'
  have holds' : I s' := stable.view _ _ same (stable.iterate holds₁ n₁)
  -- the ticks before the second program pass the first one
  obtain ⟨t₀, here, same₀⟩ := later n₁
  have whole : Whole tick view (f a) s' :=
    then_ a _ t₀ s' (stable.iterate holds n₁) here (same₀.trans same) holds'
  obtain ⟨j, k, t, sum', ran, same'⟩ := whole _ _ _ second
  obtain ⟨t₁, passed, same₁⟩ := later (j + n₁)
  rw [Function.iterate_add_apply] at same₁
  obtain ⟨u, ran', same₂⟩ := ended_seen (respects_atomic (sees' a)) ran (same₁.trans (iterate_seen ticks same j)).symm
  refine ⟨j + n₁, k, u, by omega, ?_, (iterate_seen ticks same₂ k).symm.trans same'⟩
  rw [Steps.atomic_bind, bind_run, passed]
  exact ran'

/-- Movers after it. -/
theorem whole_after (whole : Whole tick view p s) (stable : Stable tick view I)
    (then_ : ∀ j a t, p.atomic (tick^[j] s) = .ok (a, t) → I t ∧ Drifts tick view I (f a))
    (sees : ∀ a, Respectful (Seen view) (f a)) : Whole tick view (p >>= f) s := by
  intro n b s'' paced
  obtain ⟨n₁, n₂, a, s', sum, first, second⟩ := paced_bind paced
  obtain ⟨j, k, t, sum', ran, same⟩ := whole _ _ _ first
  obtain ⟨holds, drifts⟩ := then_ j a t ran
  obtain ⟨u, ended, same'⟩ := drifts.paced ticks (sees a) stable second (stable.view _ _ same (stable.iterate holds k))
  obtain ⟨u', ended', same''⟩ := ended_seen (respects_atomic (sees a)) ended same.symm
  obtain ⟨_, v, first', -, later⟩ := drifts.iterate ticks (sees a) stable holds
  obtain ⟨v', last, same₁⟩ := later k
  cases ended'.symm.trans last
  refine ⟨j, k + n₂, v, by omega, ?_, ?_⟩
  · rw [Steps.atomic_bind, bind_run, ran]
    exact first'
  · rw [Nat.add_comm, Function.iterate_add_apply]
    exact (iterate_seen ticks (same₁.symm.trans same''.symm) n₂).trans same'

omit ticks in
/-- A single step, whatever it does. -/
theorem whole_once (m : Program ε σ α) (s : σ) : Whole tick view (.once m) s := by
  intro n a s' paced
  obtain ⟨j, k, b, s₁, sum, ran, rest⟩ := paced_step paced
  obtain ⟨rfl, rfl⟩ := paced_done rest
  exact ⟨j, k, s₁, sum, (congrFun (Steps.atomic_once m) _).trans ran, rfl⟩

/-- Two steps that come, with ticks between them, to what they come to at once
after some of the ticks. -/
theorem whole_pair {γ : Type u} {m : Program ε σ β} {m' : β → Program ε σ γ} {r : β → γ → α}
    (together : ∀ s n b s₁ c s₂, m s = .ok (b, s₁) → m' b (tick^[n] s₁) = .ok (c, s₂) → ∃ j k t, j + k = n ∧
      (m >>= fun b => m' b >>= fun c => pure (r b c)) (tick^[j] s) = .ok (r b c, t) ∧ view (tick^[k] t) = view s₂) (s : σ) :
    Whole tick view (Steps.once m >>= fun b => Steps.once (m' b) >>= fun c => pure (r b c)) s := by
  intro n a s' paced
  obtain ⟨j₁, k₁, b, s₁, sum₁, ran₁, paced'⟩ := paced_step paced
  obtain ⟨j₂, k₂, c, s₂, sum₂, ran₂, paced''⟩ := paced_step paced'
  obtain ⟨rfl, rfl⟩ := paced_done paced''
  obtain ⟨j, k, t, sum, ran, same⟩ := together _ _ _ _ _ _ ran₁ ran₂
  refine ⟨j + j₁, k₂ + k, t, by omega, ?_, ?_⟩
  · rw [Function.iterate_add_apply, Steps.atomic_bind, Steps.atomic_once]
    simp only [Steps.atomic_bind, Steps.atomic_once, Steps.atomic_pure]
    exact ran
  · rw [Function.iterate_add_apply]
    exact iterate_seen ticks same k₂

end Movers

section Timed

/-- Inputs given step by step, with what they gave, and how many ticks came
between them and between their steps. -/
inductive Timed (tick : σ → σ) (steps : ι → Steps ε σ ω) (ready : σ → ι → Prop) (start : σ) : List (ι × ω) → Nat → σ → Prop
  | nil : Timed tick steps ready start [] 0 start
  | ticked {made : List (ι × ω)} {n : Nat} {s : σ} (earlier : Timed tick steps ready start made n s) :
      Timed tick steps ready start made (n + 1) (tick s)
  | made {made : List (ι × ω)} {n k : Nat} {s s' : σ} {i : ι} {o : ω} (earlier : Timed tick steps ready start made n s)
      (fits : ready s i) (paced : Paced tick (steps i) s k o s') : Timed tick steps ready start (made ++ [(i, o)]) (n + k) s'

variable {tick : σ → σ} {view : σ → τ} {steps : ι → Steps ε σ ω} {ready : σ → ι → Prop} {start s : σ} {n : Nat}
variable {exec : ι → Program ε σ ω} {allowed : σ → ι → Prop} {clock : ι} {made : List (ι × ω)} [DecidableEq ι]

omit [DecidableEq ι] in
/-- The invariant rule for inputs with ticks between their steps. -/
theorem Timed.invariant {J : Nat → σ → Prop} (timed : Timed tick steps ready start made n s) (init : J 0 start)
    (ticks : ∀ n s, J n s → J (n + 1) (tick s))
    (kept : ∀ n s i k o s', J n s → ready s i → Paced tick (steps i) s k o s' → J (n + k) s') : J n s := by
  induction timed with
  | nil => exact init
  | ticked earlier ih => exact ticks _ _ ih
  | made earlier fits paced ih => exact kept _ _ _ _ _ _ ih fits paced

/-- How often the clock ticked in a run. -/
def ticksOf (clock : ι) (taken : List (Taken σ ι ω)) : Nat :=
  taken.countP fun t => t.input = clock

/-- A run whose clock is an input of its own goes on for some ticks. -/
theorem run_ticks {taken : List (Taken σ ι ω)} (clocks : ∀ s, ∃ o, exec clock s = .ok (o, tick s)) (fits : ∀ s, allowed s clock)
    (run : Run exec allowed start taken s) (n : Nat) : ∃ taken', Run exec allowed start taken' (tick^[n] s) ∧
      besides clock taken' = besides clock taken ∧ ticksOf clock taken' = ticksOf clock taken + n := by
  induction n with
  | zero => exact ⟨taken, run, rfl, rfl⟩
  | succ n ih =>
    obtain ⟨taken', run', same, count⟩ := ih
    obtain ⟨o, ran⟩ := clocks (tick^[n] s)
    rw [Function.iterate_succ_apply']
    refine ⟨_, run'.snoc (fits _) ran, ?_, ?_⟩
    · rw [← same]
      simp [besides, said]
    · rw [ticksOf, List.countP_append, ← ticksOf, count]
      simp [Nat.add_assoc]

/-- **Ticks divide nothing**: where each input goes as a whole, inputs with ticks
between their steps give what they give in a run of whole inputs with as many
ticks between these, which ends in a state that looks the same. -/
theorem Timed.run (timed : Timed tick steps ready start made n s)
    (ticks : ∀ s t, view s = view t → view (tick s) = view (tick t)) (clocks : ∀ s, ∃ o, exec clock s = .ok (o, tick s))
    (fits : ∀ s, allowed s clock) (whole : ∀ s i, ready s i → Whole tick view (steps i) s)
    (atomic : ∀ i, (steps i).atomic = exec i) (sees : ∀ i, Respectful (Seen view) (steps i))
    (allows : ∀ s t i j, ready s i → view s = view t → i ≠ clock ∧ allowed (tick^[j] t) i) :
    ∃ taken t, Run exec allowed start taken t ∧ besides clock taken = made ∧ ticksOf clock taken = n ∧ view t = view s := by
  induction timed with
  | nil => exact ⟨[], start, .nil, rfl, rfl, rfl⟩
  | ticked earlier ih =>
    obtain ⟨taken, t, run, same, count, seen⟩ := ih
    obtain ⟨taken', run', same', count'⟩ := run_ticks clocks fits run 1
    exact ⟨taken', tick t, run', same'.trans same, by rw [count', count], ticks _ _ seen⟩
  | made earlier ready paced ih =>
    rename_i made n k s s' i o
    obtain ⟨taken, t, run, same, count, seen⟩ := ih
    obtain ⟨j, l, u, sum, ran, last⟩ := whole s i ready _ _ _ paced
    obtain ⟨taken₁, run₁, same₁, count₁⟩ := run_ticks clocks fits run j
    obtain ⟨u', ran', seen'⟩ := ended_seen (respects_atomic (sees i)) ran (iterate_seen ticks seen.symm j)
    rw [atomic i] at ran'
    obtain ⟨other, allowed⟩ := allows s t i j ready seen.symm
    have run₂ := run₁.snoc allowed ran'
    obtain ⟨taken₃, run₃, same₃, count₃⟩ := run_ticks clocks fits run₂ l
    refine ⟨taken₃, _, run₃, ?_, ?_, (iterate_seen ticks seen'.symm l).trans last⟩
    · rw [same₃, ← same, ← same₁]
      simp [besides, said, other]
    · rw [count₃, ticksOf, List.countP_append, ← ticksOf, count₁, count]
      simp [other]
      omega

end Timed

end Movers
