import Leon3Bsp.Lib.Coupling

/-!
# Several users of one machine

The inputs of a machine are tagged with the user who gave them. A user whose
part of the state is determined by their own inputs, and left alone by those of
the others, sees nothing of the interleaving: their inputs and outputs are those
of a run of their own.
-/

namespace Interleaving
set_option autoImplicit false
open Wp Execution Coupling

universe u

variable {ε σ τ ι ω κ : Type u}

/-- `R` ties the state to a machine of user `k` alone: an input of `k` does the
same on both, an input of another user is none there. -/
structure Alone (exec : κ × ι → Program ε σ ω) (solo : ι → Program ε τ ω) (allowed : σ → κ × ι → Prop) (k : κ)
    (R : σ → τ → Prop) : Prop where
  own : ∀ s t i o s', R s t → allowed s (k, i) → exec (k, i) s = .ok (o, s') → ∃ t', solo i t = .ok (o, t') ∧ R s' t'
  other : ∀ s t j i o s', R s t → j ≠ k → allowed s (j, i) → exec (j, i) s = .ok (o, s') → R s' t

/-- What user `k` said and heard. -/
def heard [DecidableEq κ] (k : κ) (steps : List (Taken σ (κ × ι) ω)) : List (ι × ω) :=
  steps.filterMap fun taken => if taken.input.1 = k then some (taken.input.2, taken.output) else none

section

variable [DecidableEq κ] {exec : κ × ι → Program ε σ ω} {solo : ι → Program ε τ ω} {allowed : σ → κ × ι → Prop} {k : κ}
variable {R : σ → τ → Prop} {start s : σ} {steps : List (Taken σ (κ × ι) ω)}

theorem heard_snoc (steps : List (Taken σ (κ × ι) ω)) (taken : Taken σ (κ × ι) ω) : heard k (steps ++ [taken]) =
    heard k steps ++ if taken.input.1 = k then [(taken.input.2, taken.output)] else [] := by
  rw [heard, List.filterMap_append]
  congr 1
  by_cases here : taken.input.1 = k <;> simp [here]

/-- The run as user `k` sees it. -/
theorem Alone.run (alone : Alone exec solo allowed k R) (run : Run exec allowed start steps s) {possible : ι → Prop}
    (fits : ∀ s i, allowed s (k, i) → possible i) {start' : τ} (related : R start start') :
    ∃ steps' t, Run solo (fun _ => possible) start' steps' t ∧ steps'.map said = heard k steps ∧ R s t := by
  induction run with
  | nil => exact ⟨[], start', .nil, rfl, related⟩
  | snoc earlier fit ran ih =>
    rename_i steps s s' i o
    obtain ⟨j, i⟩ := i
    obtain ⟨steps', t, earlier', same, related'⟩ := ih
    rw [heard_snoc]
    by_cases here : j = k
    · subst here
      obtain ⟨t', ran', related''⟩ := alone.own s t i o s' related' fit ran
      refine ⟨_, t', earlier'.snoc (fits s i fit) ran', ?_, related''⟩
      rw [List.map_append, same, if_pos rfl]
      rfl
    · have kept := alone.other s t j i o s' related' here fit ran
      refine ⟨steps', t, earlier', ?_, kept⟩
      rw [if_neg here, List.append_nil, same]

end

end Interleaving
