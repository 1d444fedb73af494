import Mathlib.Algebra.GroupWithZero.Nat
import Mathlib.Logic.Function.Iterate
import Mathlib.Tactic.Common

/-!
# A counter that starts over at its target

A machine counter is incremented at each tick and starts over when it equals its
target `k`. Started at zero it reaches the target at every `k`-th tick. Started
elsewhere it does so too late or too early: `deviation` is the first tick at
which this shows.
-/

namespace PeriodicCounter
set_option autoImplicit false

variable {width : Nat}

def tick (k c : BitVec width) : BitVec width :=
  if c + 1 = k then 0 else c + 1

/-- The counter after `n` ticks. -/
def after (k c : BitVec width) (n : Nat) : BitVec width :=
  (tick k)^[n] c

/-- The first tick that tells a counter started at `c` from one started at zero. -/
def deviation (k c : BitVec width) : Nat :=
  if c.toNat < k.toNat then k.toNat - c.toNat else k.toNat

variable {k c : BitVec width} {n : Nat}

@[simp] theorem after_zero (k c : BitVec width) : after k c 0 = c := rfl

theorem after_succ (k c : BitVec width) (n : Nat) : after k c (n + 1) = tick k (after k c n) :=
  Function.iterate_succ_apply' (tick k) n c

theorem toNat_pos (some : k ≠ 0) : 0 < k.toNat := by
  rw [Nat.pos_iff_ne_zero]
  intro zero
  exact some (BitVec.eq_of_toNat_eq (by simpa using zero))

theorem add_one_eq_iff (c k : BitVec width) : c + 1 = k ↔ (c.toNat + 1) % 2 ^ width = k.toNat := by
  rw [← BitVec.toNat_inj, BitVec.toNat_add]
  cases width with
  | zero => simp [Nat.mod_one]
  | succ width => simp

theorem toNat_add_one (c : BitVec width) : (c + 1).toNat = (c.toNat + 1) % 2 ^ width :=
  ((add_one_eq_iff c (c + 1)).1 rfl).symm

/-- From zero the counter counts modulo its target. -/
theorem toNat_after_zero (some : k ≠ 0) : (after k 0 n).toNat = n % k.toNat := by
  have pos := toNat_pos some
  induction n with
  | zero => simp
  | succ n ih =>
    have below := Nat.mod_lt n pos
    have next : (n + 1) % k.toNat = (n % k.toNat + 1) % k.toNat := (Nat.mod_add_mod n k.toNat 1).symm
    have fits : (n % k.toNat + 1) % 2 ^ width = n % k.toNat + 1 := Nat.mod_eq_of_lt (by have := k.isLt; omega)
    rw [after_succ, tick, next]
    split
    case isTrue reached =>
      rw [add_one_eq_iff, ih, fits] at reached
      rw [reached, Nat.mod_self]
      simp
    case isFalse short =>
      rw [add_one_eq_iff, ih, fits] at short
      have inside : n % k.toNat + 1 < k.toNat := by omega
      rw [toNat_add_one, ih, fits, Nat.mod_eq_of_lt inside]

/-- From zero the target is reached at its multiples. -/
theorem reaches_from_zero (some : k ≠ 0) : after k 0 n + 1 = k ↔ k.toNat ∣ n + 1 := by
  have pos := toNat_pos some
  have below := Nat.mod_lt n pos
  have fits : (n % k.toNat + 1) % 2 ^ width = n % k.toNat + 1 := Nat.mod_eq_of_lt (by have := k.isLt; omega)
  rw [add_one_eq_iff, toNat_after_zero some, fits, Nat.dvd_iff_mod_eq_zero, ← Nat.mod_add_mod n k.toNat 1]
  constructor
  · intro reached
    rw [reached, Nat.mod_self]
  · intro multiple
    by_contra short
    rw [Nat.mod_eq_of_lt (by omega)] at multiple
    omega

/-- A sum that wraps stays short of a target behind it. -/
theorem sum_mod_ne {C K P n : Nat} (bound : C < P) (fits : K < P) (positive : 0 < n)
    (early : C < K ∧ n < K - C ∨ K ≤ C ∧ n ≤ K) : (C + n) % P ≠ K := by
  intro reached
  rcases Nat.lt_or_ge (C + n) P with small | large
  · rw [Nat.mod_eq_of_lt small] at reached
    omega
  · rw [Nat.mod_eq_sub_mod large, Nat.mod_eq_of_lt (by omega)] at reached
    omega

theorem early_of_lt (early : n < deviation k c) :
    c.toNat < k.toNat ∧ n < k.toNat - c.toNat ∨ k.toNat ≤ c.toNat ∧ n ≤ k.toNat := by
  unfold deviation at early
  split at early <;> omega

/-- Up to the deviation the target is not met. -/
theorem toNat_after_of_lt (early : n < deviation k c) : (after k c n).toNat = (c.toNat + n) % 2 ^ width := by
  induction n with
  | zero => simp [Nat.mod_eq_of_lt c.isLt]
  | succ n ih =>
    have before := ih (Nat.lt_of_succ_lt early)
    have sum : ((after k c n).toNat + 1) % 2 ^ width = (c.toNat + (n + 1)) % 2 ^ width := by
      rw [before, Nat.mod_add_mod, Nat.add_assoc]
    have short : after k c n + 1 ≠ k := by
      rw [Ne, add_one_eq_iff, sum]
      exact sum_mod_ne c.isLt k.isLt (Nat.succ_pos n) (early_of_lt early)
    rw [after_succ, tick, if_neg short, toNat_add_one, sum]

/-- What the tick after `n` early ones makes of the counter. -/
theorem reaches_early_iff (early : n < deviation k c) :
    after k c n + 1 = k ↔ (c.toNat + (n + 1)) % 2 ^ width = k.toNat := by
  rw [add_one_eq_iff, toNat_after_of_lt early, Nat.mod_add_mod, Nat.add_assoc]

theorem deviation_pos (some : k ≠ 0) : 0 < deviation k c := by
  have pos := toNat_pos some
  unfold deviation
  split <;> omega

/-- At the deviation the counter started elsewhere than at zero is wrong. -/
theorem deviates (some : k ≠ 0) (started : c ≠ 0) (last : n + 1 = deviation k c) :
    ¬ (after k c n + 1 = k ↔ k.toNat ∣ n + 1) := by
  have pos := toNat_pos some
  have offset := toNat_pos started
  rw [reaches_early_iff (by omega)]
  intro agrees
  unfold deviation at last
  split at last
  case isTrue below =>
    have reached : (c.toNat + (n + 1)) % 2 ^ width = k.toNat := by
      rw [Nat.mod_eq_of_lt (by have := k.isLt; omega)]
      omega
    have multiple := Nat.le_of_dvd (Nat.succ_pos n) (agrees.1 reached)
    omega
  case isFalse above =>
    have reached := agrees.2 ⟨1, by omega⟩
    exact sum_mod_ne c.isLt k.isLt (Nat.succ_pos n) (by omega) reached

/-- **When a counter keeps time.** Started at `c`, the target is reached at its
multiples and at no other of the first `n` ticks. -/
theorem keepsTime_iff (some : k ≠ 0) :
    (∀ i < n, (after k c i + 1 = k ↔ k.toNat ∣ i + 1)) ↔ c = 0 ∨ n < deviation k c := by
  constructor
  · intro agrees
    by_contra wrong
    rw [not_or, Nat.not_lt] at wrong
    obtain ⟨started, late⟩ := wrong
    have pos := deviation_pos (c := c) some
    exact deviates (n := deviation k c - 1) some started (by omega) (agrees _ (by omega))
  · rintro (rfl | early) i before
    · exact reaches_from_zero some
    · have soon := early_of_lt (Nat.lt_of_le_of_lt before early)
      refine iff_of_false ?_ fun multiple => ?_
      · rw [reaches_early_iff (by omega)]
        exact sum_mod_ne c.isLt k.isLt (Nat.succ_pos i) soon
      · have long := Nat.le_of_dvd (Nat.succ_pos i) multiple
        have le : deviation k c ≤ k.toNat := by
          unfold deviation
          split <;> omega
        omega

end PeriodicCounter
