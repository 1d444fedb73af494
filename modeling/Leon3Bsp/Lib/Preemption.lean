import Mathlib.Tactic.Common

/-!
# A straight-line program preempted once

A program is a list of statements over a shared and a local state. `preempted`
runs its first `k` statements, then an interrupt that sees the shared state
only, then the rest. Before the first and after the last statement this is one
of the two orders of two uninterrupted calls.
-/

namespace Preemption
set_option autoImplicit false

variable {σ τ ω : Type*}

def run (program : List (σ × τ → σ × τ)) (s : σ × τ) : σ × τ :=
  program.foldl (fun s statement => statement s) s

/-- A statement of a call that may already have returned. -/
def guarded (returned : τ → Bool) (statement : σ × τ → σ × τ) (s : σ × τ) : σ × τ :=
  if returned s.2 then s else statement s

/-- The interrupt runs once `k` statements have run. -/
def preempted (program : List (σ × τ → σ × τ)) (interrupt : σ → ω × σ) (k : Nat) (s : σ × τ) : ω × (σ × τ) :=
  let reached := run (program.take k) s
  let served := interrupt reached.1
  (served.1, run (program.drop k) (served.2, reached.2))

@[simp] theorem run_cons (statement : σ × τ → σ × τ) (program : List (σ × τ → σ × τ)) (s : σ × τ) :
    run (statement :: program) s = run program (statement s) := rfl

theorem run_returned {returned : τ → Bool} {l : τ} (done : returned l = true) (shared : σ)
    (statements : List (σ × τ → σ × τ)) : run (statements.map (guarded returned)) (shared, l) = (shared, l) := by
  induction statements with
  | nil => rfl
  | cons statement rest ih => simpa [guarded, done] using ih

theorem preempted_zero (program : List (σ × τ → σ × τ)) (interrupt : σ → ω × σ) (s : σ × τ) :
    preempted program interrupt 0 s = ((interrupt s.1).1, run program ((interrupt s.1).2, s.2)) := rfl

theorem preempted_succ (statement : σ × τ → σ × τ) (program : List (σ × τ → σ × τ)) (interrupt : σ → ω × σ) (k : Nat)
    (s : σ × τ) : preempted (statement :: program) interrupt (k + 1) s = preempted program interrupt k (statement s) :=
  rfl

/-- An interrupt that comes once the call has returned runs after it. -/
theorem preempted_returned {returned : τ → Bool} {l : τ} (done : returned l = true) (shared : σ)
    (statements : List (σ × τ → σ × τ)) (interrupt : σ → ω × σ) (k : Nat) :
    preempted (statements.map (guarded returned)) interrupt k (shared, l) =
      ((interrupt shared).1, ((interrupt shared).2, l)) := by
  simp only [preempted, ← List.map_take, ← List.map_drop, run_returned done]

end Preemption
