import Mathlib.Data.List.Induction

/-!
# A variable that a sequence of operations assigns

Each operation assigns the variable or leaves it. The value at the end is that
of the last operation that assigned it, or the initial one.
-/

namespace Assignments
set_option autoImplicit false

variable {ι β : Type*} {assigns : ι → Option β} {b : β} {ops : List ι}

/-- The variable after the operations, started at `b`. -/
def after (assigns : ι → Option β) (b : β) (ops : List ι) : β :=
  ops.foldl (fun b op => (assigns op).getD b) b

@[simp] theorem after_nil (assigns : ι → Option β) (b : β) : after assigns b [] = b := rfl

@[simp] theorem after_snoc (assigns : ι → Option β) (b : β) (ops : List ι) (op : ι) :
    after assigns b (ops ++ [op]) = (assigns op).getD (after assigns b ops) := by
  rw [after, List.foldl_append]
  rfl

/-- The last assignment wins. -/
theorem after_eq (assigns : ι → Option β) (b : β) (ops : List ι) :
    after assigns b ops = ((ops.filterMap assigns).getLast?).getD b := by
  induction ops using List.reverseRecOn with
  | nil => rfl
  | append_singleton ops op ih =>
    rw [after_snoc, ih, List.filterMap_append]
    cases assigned : assigns op with
    | none => simp [assigned]
    | some v => simp [assigned]

theorem after_unassigned (never : ∀ op ∈ ops, assigns op = none) : after assigns b ops = b := by
  rw [after_eq, List.filterMap_eq_nil_iff.2 never]
  rfl

/-- A flag that is only ever set. -/
theorem after_set_iff {assigns : ι → Option Bool} {b : Bool} (sets : ∀ op ∈ ops, assigns op ≠ some false) :
    after assigns b ops = true ↔ b = true ∨ ∃ op ∈ ops, assigns op = some true := by
  induction ops using List.reverseRecOn with
  | nil => simp
  | append_singleton ops op ih =>
    have earlier := ih fun op' mem => sets op' (List.mem_append_left _ mem)
    have last := sets op (by simp)
    rw [after_snoc]
    rcases assigned : assigns op with _ | _ | _
    · simp [earlier, assigned, or_and_right, exists_or]
    · exact absurd assigned last
    · simp only [Option.getD_some, true_iff]
      exact Or.inr ⟨op, by simp, assigned⟩

end Assignments
