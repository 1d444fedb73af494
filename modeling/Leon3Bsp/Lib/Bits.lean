import Mathlib.Tactic.Common

/-!
# Single bits of a word

Testing a bit by shift and mask, and assigning it by `or` or `and` with a
shifted one. An assignment reads back at its own place and nowhere else.
-/

namespace Bits
set_option autoImplicit false

variable {n : Nat}

def test (x : BitVec n) (i : Nat) : Bool :=
  (x >>> i) &&& 1#n != 0

def assign (x : BitVec n) (b : Bool) (i : Nat) : BitVec n :=
  if b then x ||| (1#n <<< i) else x &&& ~~~(1#n <<< i)

theorem test_eq (x : BitVec n) (i : Nat) : test x i = x.getLsbD i := by
  rw [test, BitVec.and_one_eq_setWidth_ofBool_getLsbD, BitVec.getLsbD_ushiftRight, Nat.add_zero]
  cases bit : x.getLsbD i with
  | false => simp
  | true =>
    have inside : 0 < n := Nat.lt_of_le_of_lt (Nat.zero_le i) (BitVec.lt_of_getLsbD bit)
    have low : (BitVec.setWidth n (BitVec.ofBool true)).getLsbD 0 = true := by simp [inside]
    rw [bne_iff_ne]
    intro zero
    rw [zero] at low
    simp at low

theorem getLsbD_one_shiftLeft {i : Nat} (inside : i < n) (k : Nat) : (1#n <<< i).getLsbD k = decide (k = i) := by
  by_cases same : k = i
  · subst same
    simp [inside]
  · simp only [BitVec.getLsbD_shiftLeft, BitVec.getLsbD_one, same, decide_false]
    by_cases below : k < i
    · simp [below]
    · have apart : k - i ≠ 0 := by omega
      simp [apart]

/-- An assigned bit reads back, every other bit is kept. -/
theorem getLsbD_assign (x : BitVec n) (b : Bool) {i : Nat} (inside : i < n) (k : Nat) :
    (assign x b i).getLsbD k = if k = i then b else x.getLsbD k := by
  by_cases high : n ≤ k
  · rw [BitVec.getLsbD_of_ge _ _ high, if_neg (by omega), BitVec.getLsbD_of_ge _ _ high]
  · have low : k < n := by omega
    cases b with
    | false =>
      simp only [assign, Bool.false_eq_true, if_false, BitVec.getLsbD_and, BitVec.getLsbD_not,
        getLsbD_one_shiftLeft inside, low, decide_true, Bool.true_and]
      by_cases same : k = i <;> simp [same]
    | true =>
      simp only [assign, if_true, BitVec.getLsbD_or, getLsbD_one_shiftLeft inside]
      by_cases same : k = i <;> simp [same]

end Bits
