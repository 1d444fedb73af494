import Mathlib.Logic.Function.Iterate
import Leon3Bsp.Lib.Wp

/-!
# Polling a bounded number of times

`poll turn n` takes turns until one answers, `n` at the most. Where a turn either
passes to a next state or answers, the poll ends at the first of its `n` turns
that stops, or after all of them.
-/

namespace Polling
set_option autoImplicit false
open Wp

universe u

variable {ε σ α : Type u} {may : ε → Prop}

/-- Turn `i` is the first of `n` at which `stops` holds. -/
structure First (stops : Nat → Prop) (n i : Nat) : Prop where
  inside : i < n
  here : stops i
  before : ∀ j < i, ¬ stops j

namespace First

variable {stops : Nat → Prop} {n i j : Nat}

theorem now (here : stops 0) : First stops (n + 1) 0 :=
  ⟨Nat.succ_pos n, here, fun _ below => absurd below (Nat.not_lt_zero _)⟩

theorem later (passes : ¬ stops 0) (first : First (fun i => stops (i + 1)) n i) : First stops (n + 1) (i + 1) := by
  refine ⟨Nat.succ_lt_succ first.inside, first.here, ?_⟩
  intro j below
  cases j with
  | zero => exact passes
  | succ j => exact first.before j (Nat.lt_of_succ_lt_succ below)

theorem unique (first : First stops n i) (other : First stops n j) : i = j := by
  rcases Nat.lt_trichotomy i j with below | same | above
  · exact absurd first.here (other.before i below)
  · exact same
  · exact absurd other.here (first.before j above)

end First

/-- No one of `n` turns stops. -/
def Never (stops : Nat → Prop) (n : Nat) : Prop :=
  ∀ i < n, ¬ stops i

theorem Never.later {stops : Nat → Prop} {n : Nat} (passes : ¬ stops 0) (never : Never (fun i => stops (i + 1)) n) :
    Never stops (n + 1) := by
  intro i inside
  cases i with
  | zero => exact passes
  | succ i => exact never i (Nat.lt_of_succ_lt_succ inside)

theorem Never.not_first {stops : Nat → Prop} {n i : Nat} (never : Never stops n) : ¬ First stops n i :=
  fun first => never i first.inside first.here

/-- Turns until one answers, `n` at the most. -/
def poll (turn : Program ε σ (Option α)) : Nat → Program ε σ (Option α)
  | 0 => pure none
  | n + 1 => do
    let answer ← turn
    match answer with
    | some a => pure (some a)
    | none => poll turn n

/-- A turn goes on to the `next` state, or stops with an answer. -/
structure Turns (may : ε → Prop) (turn : Program ε σ (Option α)) (stops : σ → Prop) (next : σ → σ)
    (Answers : σ → α → σ → Prop) : Prop where
  passes : ∀ s, ¬ stops s → wp may turn (fun answer s' => answer = none ∧ s' = next s) s
  answers : ∀ s, stops s → wp may turn (fun answer s' => ∃ a, answer = some a ∧ Answers s a s') s

/-- The two ways out of a poll. -/
inductive Ends (stops : σ → Prop) (next : σ → σ) (Answers : σ → α → σ → Prop) (n : Nat) (s : σ) : Option α → σ → Prop
  | answered {i : Nat} {a : α} {s' : σ} (first : First (fun i => stops (next^[i] s)) n i)
      (answers : Answers (next^[i] s) a s') : Ends stops next Answers n s (some a) s'
  | exhausted (never : Never (fun i => stops (next^[i] s)) n) : Ends stops next Answers n s none (next^[n] s)

variable {turn : Program ε σ (Option α)} {stops : σ → Prop} {next : σ → σ} {Answers : σ → α → σ → Prop}

theorem Ends.later {n : Nat} {s s' : σ} {answer : Option α} (passes : ¬ stops s)
    (ends : Ends stops next Answers n (next s) answer s') : Ends stops next Answers (n + 1) s answer s' := by
  cases ends with
  | answered first answers => exact .answered (first.later passes) answers
  | exhausted never => exact .exhausted (never.later passes)

/-- The rule of the bounded poll. -/
theorem Turns.wp_poll (turns : Turns may turn stops next Answers) (n : Nat) (s : σ) :
    wp may (poll turn n) (Ends stops next Answers n s) s := by
  induction n generalizing s with
  | zero => exact .exhausted fun i inside => absurd inside (Nat.not_lt_zero i)
  | succ n ih =>
    rw [poll, wp_bind]
    by_cases stopped : stops s
    · apply wp_mono (turns.answers s stopped)
      rintro _ s' ⟨a, rfl, answers⟩
      exact .answered (.now stopped) answers
    · apply wp_mono (turns.passes s stopped)
      rintro _ _ ⟨rfl, rfl⟩
      apply wp_mono (ih (next s))
      intro answer s' ends
      exact ends.later stopped

end Polling
