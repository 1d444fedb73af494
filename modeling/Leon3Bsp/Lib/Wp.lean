import Mathlib.Tactic.Common

/-!
# Weakest preconditions of programs with a state and faults

A program takes a state to a result and a state, or faults. `wp may m Q s` says
that from `s` the program `m` ends in `Q`, or in a fault that `may` admits: no
fault for total correctness, every fault for partial correctness, and anything
between. The rules are equivalences, so a program is executed symbolically by
rewriting with them.
-/

namespace Wp
set_option autoImplicit false

universe u

variable {ε σ α β : Type u} {may : ε → Prop}

abbrev Program (ε σ α : Type u) := StateT σ (Except ε) α

def wp (may : ε → Prop) (m : Program ε σ α) (Q : α → σ → Prop) (s : σ) : Prop :=
  match m s with
  | .ok (a, s') => Q a s'
  | .error e => may e

/-- No fault is admitted. -/
abbrev total : ε → Prop := fun _ => False

/-- Every fault is admitted. -/
abbrev partially : ε → Prop := fun _ => True

/-- A program that is one step of the state. -/
def act (f : σ → α × σ) : Program ε σ α := fun s => .ok (f s)

def fault (e : ε) : Program ε σ α := fun _ => .error e

@[simp] theorem wp_pure (a : α) (Q : α → σ → Prop) (s : σ) : wp may (pure a : Program ε σ α) Q s ↔ Q a s := Iff.rfl

@[simp] theorem wp_act (f : σ → α × σ) (Q : α → σ → Prop) (s : σ) :
    wp may (act f : Program ε σ α) Q s ↔ Q (f s).1 (f s).2 := Iff.rfl

@[simp] theorem wp_fault (e : ε) (Q : α → σ → Prop) (s : σ) :
    wp may (fault e : Program ε σ α) Q s ↔ may e := Iff.rfl

theorem bind_run (m : Program ε σ α) (f : α → Program ε σ β) (s : σ) :
    (m >>= f) s = match m s with
      | .ok (a, s') => f a s'
      | .error e => .error e := by
  show (m s >>= fun p => f p.1 p.2) = _
  cases m s <;> rfl

@[simp] theorem wp_bind (m : Program ε σ α) (f : α → Program ε σ β) (Q : β → σ → Prop) (s : σ) :
    wp may (m >>= f) Q s ↔ wp may m (fun a s' => wp may (f a) Q s') s := by
  unfold wp
  rw [bind_run]
  cases m s <;> rfl

@[simp] theorem wp_ite (c : Prop) [Decidable c] (m n : Program ε σ α) (Q : α → σ → Prop) (s : σ) :
    wp may (if c then m else n) Q s ↔ if c then wp may m Q s else wp may n Q s := by
  split <;> rfl

/-- The rule of consequence. -/
theorem wp_mono {m : Program ε σ α} {P Q : α → σ → Prop} {s : σ} (meets : wp may m P s)
    (entails : ∀ a s', P a s' → Q a s') : wp may m Q s := by
  unfold wp at meets ⊢
  split
  · rename_i a s' run
    rw [run] at meets
    exact entails a s' meets
  · rename_i e run
    rwa [run] at meets

theorem wp_and {m : Program ε σ α} {P Q : α → σ → Prop} {s : σ} (left : wp may m P s) (right : wp may m Q s) :
    wp may m (fun a s' => P a s' ∧ Q a s') s := by
  unfold wp at left right ⊢
  split <;> simp_all

/-- What a program that ended is known to have met. -/
theorem wp_ended {m : Program ε σ α} {Q : α → σ → Prop} {s s' : σ} {a : α} (meets : wp may m Q s)
    (run : m s = .ok (a, s')) : Q a s' := by
  unfold wp at meets
  rwa [run] at meets

theorem wp_of_ended {m : Program ε σ α} {Q : α → σ → Prop} {s : σ}
    (ended : ∀ a s', m s = .ok (a, s') → Q a s') : wp partially m Q s := by
  unfold wp
  split
  · exact ended _ _ ‹_›
  · trivial

/-- Totally correct programs end. -/
theorem wp_total {m : Program ε σ α} {Q : α → σ → Prop} {s : σ} (meets : wp total m Q s) :
    ∃ a s', m s = .ok (a, s') ∧ Q a s' := by
  unfold wp at meets
  split at meets
  · rename_i a s' run
    exact ⟨a, s', run, meets⟩
  · exact meets.elim

/-- A program that ended is known to have run. -/
theorem wp_ran (m : Program ε σ α) (s : σ) : wp partially m (fun a s' => m s = .ok (a, s')) s :=
  wp_of_ended fun _ _ run => run

/-- A fault is one that was admitted. -/
theorem wp_faulted {m : Program ε σ α} {Q : α → σ → Prop} {s : σ} {e : ε} (meets : wp may m Q s) (run : m s = .error e) :
    may e := by
  unfold wp at meets
  rwa [run] at meets

/-- A program that cannot end faults. -/
theorem wp_faults {m : Program ε σ α} {s : σ} (never : wp may m (fun _ _ => False) s) : ∃ e, m s = .error e ∧ may e := by
  unfold wp at never
  split at never
  · exact never.elim
  · rename_i e run
    exact ⟨e, run, never⟩

/-- `m` relates the states around it by `R`. -/
def Relates (may : ε → Prop) (R : σ → σ → Prop) (m : Program ε σ α) : Prop :=
  ∀ s, wp may m (fun _ s' => R s s') s

section Relates

variable {R : σ → σ → Prop}

theorem relates_pure (refl : ∀ s, R s s) (a : α) : Relates may R (pure a : Program ε σ α) := fun s => refl s

theorem relates_fault {e : ε} (admitted : may e) : Relates may R (fault e : Program ε σ α) := fun _ => admitted

theorem Relates.bind {m : Program ε σ α} {n : α → Program ε σ β} (first : Relates may R m)
    (trans : ∀ {s s' s''}, R s s' → R s' s'' → R s s'') (second : ∀ a, Relates may R (n a)) : Relates may R (m >>= n) := by
  intro s
  rw [wp_bind]
  apply wp_mono (first s)
  intro a s' related
  apply wp_mono (second a s')
  intro b s'' related'
  exact trans related related'

theorem Relates.ite {c : Prop} [Decidable c] {m n : Program ε σ α} (yes : Relates may R m) (no : Relates may R n) :
    Relates may R (if c then m else n) := by
  split
  · exact yes
  · exact no

end Relates

/-- `m` leaves the part `f` of the state alone. -/
def Keeps {τ : Type u} (may : ε → Prop) (f : σ → τ) (m : Program ε σ α) : Prop :=
  ∀ s, wp may m (fun _ s' => f s' = f s) s

theorem Relates.keeps {τ : Type u} {f : σ → τ} {R : σ → σ → Prop} {m : Program ε σ α} (relates : Relates may R m)
    (kept : ∀ s s', R s s' → f s' = f s) : Keeps may f m := by
  intro s
  apply wp_mono (relates s)
  intro _ s' related
  exact kept s s' related

end Wp
