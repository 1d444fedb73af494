import Mathlib.Tactic.Common

/-!
# Conservation of a stream through a queue

`Conserved before entered left after`: what was in a queue and what entered it is,
in order, what left it and what is still there. Nothing is lost, repeated or
overtaken. Laws compose along a run.
-/

namespace Conservation
set_option autoImplicit false

variable {α : Type*}

def Conserved (before entered left after : List α) : Prop :=
  before ++ entered = left ++ after

theorem Conserved.refl (items : List α) : Conserved items [] [] items := by
  simp [Conserved]

/-- Items appended at the tail. -/
theorem Conserved.enter (items entered : List α) : Conserved items entered [] (items ++ entered) := rfl

/-- The head removed. -/
theorem Conserved.leave (a : α) (rest : List α) : Conserved (a :: rest) [] [a] rest := by
  simp [Conserved]

theorem Conserved.trans {before middle after entered entered' left left' : List α} (first : Conserved before entered left middle)
    (second : Conserved middle entered' left' after) : Conserved before (entered ++ entered') (left ++ left') after := by
  unfold Conserved at first second ⊢
  rw [← List.append_assoc, first, List.append_assoc, second, List.append_assoc]

/-- Where nothing enters or leaves the contents are the same. -/
theorem Conserved.of_eq {before after : List α} (same : after = before) : Conserved before [] [] after :=
  same ▸ .refl before

/-- A queue before another is one queue with it: what leaves the first enters the second. -/
theorem Conserved.pipe {first first' second second' entered passed left : List α} (into : Conserved first entered passed first')
    (out : Conserved second passed left second') : Conserved (second ++ first) entered left (second' ++ first') := by
  unfold Conserved at into out ⊢
  rw [List.append_assoc, into, ← List.append_assoc, out, List.append_assoc]

/-- As much as left of what was there before left in front. -/
theorem Conserved.take_prefix {before entered left after : List α} (conserved : Conserved before entered left after) {k : Nat}
    (enough : min k before.length ≤ left.length) : before.take k <+: left := by
  have first : before.take k <+: before ++ entered := (List.take_prefix k before).trans (List.prefix_append before entered)
  have second : left <+: before ++ entered := by
    rw [conserved]
    exact List.prefix_append left after
  apply List.prefix_of_prefix_length_le first second
  rwa [List.length_take]

/-- What is empty in the end let out all there was. -/
theorem Conserved.length_le {before entered left : List α} (conserved : Conserved before entered left []) :
    before.length ≤ left.length := by
  have lengths := congrArg List.length conserved
  simp only [List.length_append, List.length_nil] at lengths
  omega

end Conservation
