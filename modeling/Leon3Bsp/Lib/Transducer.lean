import Mathlib.Tactic.Common

/-!
# Deterministic transducers and simulation

A transducer maps a state and an input to an output and the next state. `run`
feeds it a list of inputs. A relation that one step of two transducers keeps
while their outputs agree makes whole runs agree, and an invariant of one step
is an invariant of every run.
-/

namespace Transducer
set_option autoImplicit false

variable {σ τ ι ω : Type*}

/-- The outputs of a run, in order, and the state it ends in. -/
def run (step : σ → ι → ω × σ) : σ → List ι → List ω × σ
  | s, [] => ([], s)
  | s, i :: is => ((step s i).1 :: (run step (step s i).2 is).1, (run step (step s i).2 is).2)

/-- `R` is kept by matching steps, whose outputs agree. -/
def Simulates (R : σ → τ → Prop) (step : σ → ι → ω × σ) (spec : τ → ι → ω × τ) : Prop :=
  ∀ s t i, R s t → (step s i).1 = (spec t i).1 ∧ R (step s i).2 (spec t i).2

theorem Simulates.run {R : σ → τ → Prop} {step : σ → ι → ω × σ} {spec : τ → ι → ω × τ}
    (simulates : Simulates R step spec) {s : σ} {t : τ} (related : R s t) (is : List ι) :
    (run step s is).1 = (run spec t is).1 ∧ R (run step s is).2 (run spec t is).2 := by
  induction is generalizing s t with
  | nil => exact ⟨rfl, related⟩
  | cons i is ih =>
    obtain ⟨here, next⟩ := simulates s t i related
    obtain ⟨outputs, final⟩ := ih next
    exact ⟨by rw [Transducer.run, Transducer.run, here, outputs], final⟩

section Among

variable {κ : Type*} [DecidableEq κ]

/-- The inputs addressed to `k`. -/
def inputsOf (k : κ) (is : List (κ × ι)) : List ι :=
  is.filterMap fun i => if i.1 = k then some i.2 else none

/-- The outputs to the inputs addressed to `k`. -/
def outputsOf (k : κ) (is : List (κ × ι)) (os : List ω) : List ω :=
  (is.zip os).filterMap fun p => if p.1.1 = k then some p.2 else none

/-- Among inputs addressed to several, those to `k` are answered as by `spec`
alone, if `R` ties the state to one of `spec` and the inputs to others keep it. -/
theorem run_among {R : σ → τ → Prop} {step : σ → κ × ι → ω × σ} {spec : τ → ι → ω × τ} {allowed : κ × ι → Prop} {k : κ}
    {is : List (κ × ι)} (fits : ∀ i ∈ is, allowed i)
    (own : ∀ s t i, R s t → (step s (k, i)).1 = (spec t i).1 ∧ R (step s (k, i)).2 (spec t i).2)
    (other : ∀ s t j i, j ≠ k → allowed (j, i) → R s t → R (step s (j, i)).2 t) {s : σ} {t : τ}
    (related : R s t) : outputsOf k is (run step s is).1 = (run spec t (inputsOf k is)).1 ∧
      R (run step s is).2 (run spec t (inputsOf k is)).2 := by
  induction is generalizing s t with
  | nil => exact ⟨rfl, related⟩
  | cons i is ih =>
    obtain ⟨j, i⟩ := i
    have fits' : ∀ i ∈ is, allowed i := fun i member => fits i (List.mem_cons_of_mem _ member)
    by_cases here : j = k
    · subst here
      obtain ⟨same, next⟩ := own s t i related
      obtain ⟨outputs, final⟩ := ih fits' next
      simp only [inputsOf, outputsOf, run, List.zip_cons_cons, List.filterMap_cons, if_true] at outputs final ⊢
      rw [outputs, same]
      exact ⟨rfl, final⟩
    · have next := other s t j i here (fits _ List.mem_cons_self) related
      obtain ⟨outputs, final⟩ := ih fits' next
      simp only [inputsOf, outputsOf, run, List.zip_cons_cons, List.filterMap_cons, here, if_false] at outputs final ⊢
      exact ⟨outputs, final⟩

end Among

end Transducer
