import Leon3Bsp.Lib.Execution

/-!
# One program from two states

Two states are related when they differ only in what a program is not to look
at. A program that respects the relation ends alike from related states: with
the same result in related states, or with the same fault. A run whose inputs
end alike can be repeated from any state related to its start.
-/

namespace Coupling
set_option autoImplicit false
open Wp Execution

universe u

variable {ε σ ι ω α β : Type u} {R : σ → σ → Prop}

/-- `m` ends alike from `s` and from `t`. -/
inductive Alike (R : σ → σ → Prop) (m : Program ε σ α) (s t : σ) : Prop
  | ended {a : α} {s' t' : σ} (left : m s = .ok (a, s')) (right : m t = .ok (a, t')) (related : R s' t')
  | faulted {e : ε} (left : m s = .error e) (right : m t = .error e)

section Alike

variable {s t : σ}

theorem alike_pure (related : R s t) (a : α) : Alike R (pure a : Program ε σ α) s t :=
  .ended rfl rfl related

theorem alike_fault (e : ε) : Alike R (fault e : Program ε σ α) s t :=
  .faulted rfl rfl

theorem alike_act {g : σ → α × σ} (same : (g t).1 = (g s).1) (related : R (g s).2 (g t).2) :
    Alike R (act g : Program ε σ α) s t := by
  have right : (act g : Program ε σ α) t = .ok ((g s).1, (g t).2) := by rw [act, ← same]
  exact .ended rfl right related

/-- The second program runs alike from the states the first one led to. -/
theorem Alike.bind {m : Program ε σ α} {n : α → Program ε σ β} (first : Alike R m s t)
    (second : ∀ a s' t', m s = .ok (a, s') → R s' t' → Alike R (n a) s' t') : Alike R (m >>= n) s t := by
  have unfoldLeft := bind_run m n s
  have unfoldRight := bind_run m n t
  cases first with
  | faulted left right =>
    rw [left] at unfoldLeft
    rw [right] at unfoldRight
    exact .faulted unfoldLeft unfoldRight
  | ended left right related =>
    rw [left] at unfoldLeft
    rw [right] at unfoldRight
    cases second _ _ _ left related with
    | faulted left' right' => exact .faulted (unfoldLeft.trans left') (unfoldRight.trans right')
    | ended left' right' related' => exact .ended (unfoldLeft.trans left') (unfoldRight.trans right') related'

end Alike

/-- `m` ends alike from all related states. -/
def Respects (R : σ → σ → Prop) (m : Program ε σ α) : Prop :=
  ∀ s t, R s t → Alike R m s t

theorem respects_pure (a : α) : Respects R (pure a : Program ε σ α) :=
  fun _ _ related => alike_pure related a

theorem respects_fault (e : ε) : Respects R (fault e : Program ε σ α) :=
  fun _ _ _ => alike_fault e

theorem Respects.bind {m : Program ε σ α} {n : α → Program ε σ β} (first : Respects R m)
    (second : ∀ a, Respects R (n a)) : Respects R (m >>= n) :=
  fun s t related => (first s t related).bind fun a s' t' _ related' => second a s' t' related'

theorem Respects.ite {c : Prop} [Decidable c] {m n : Program ε σ α} (yes : Respects R m) (no : Respects R n) :
    Respects R (if c then m else n) := by
  split
  · exact yes
  · exact no

section Run

variable {exec : ι → Program ε σ ω} {allowed : σ → ι → Prop} {start s : σ} {steps : List (Taken σ ι ω)}

/-- What was said in a step: the input and the output. -/
def said (taken : Taken σ ι ω) : ι × ω :=
  (taken.input, taken.output)

/-- The run again, from a related state. -/
theorem replay (run : Run exec allowed start steps s) {possible : ι → Prop} (fits : ∀ s i, allowed s i → possible i)
    (alike : ∀ s t i, R s t → allowed s i → Alike R (exec i) s t) {start' : σ} (related : R start start') :
    ∃ steps' s', Run exec (fun _ => possible) start' steps' s' ∧ steps'.map said = steps.map said ∧ R s s' := by
  induction run with
  | nil => exact ⟨[], start', .nil, rfl, related⟩
  | snoc earlier fit ran ih =>
    rename_i steps s s₁ i o
    obtain ⟨steps', t, earlier', same, related'⟩ := ih
    cases alike s t i related' fit with
    | faulted left =>
      rw [ran] at left
      cases left
    | ended left right related'' =>
      rw [ran] at left
      cases left
      refine ⟨_, _, earlier'.snoc (fits s i fit) right, ?_, related''⟩
      rw [List.map_append, List.map_append, same]
      rfl

end Run

end Coupling
