import Mathlib.Algebra.GroupWithZero.Nat
import Mathlib.Tactic.Common

/-!
# A clock divided by an integer

A device that divides its clock runs at `rate clock divisor`. Of the divisors
whose rate is not below a wanted one, the floor of the quotient is the largest,
so its rate is the closest from above. Hardware keeps a divisor less one in a
field of a few bits, which is that divisor only within the range of the field.
-/

namespace ClockDivider
set_option autoImplicit false

/-- The rate at which a divided clock ticks. -/
def rate (clock divisor : Nat) : Rat :=
  clock / divisor

/-- The rate behind a fixed `prescale` is at least the wanted one, and no
divisor with such a rate comes closer. -/
structure Closest (prescale clock wanted divisor : Nat) : Prop where
  atLeast : wanted ≤ rate clock (prescale * divisor)
  closest : ∀ other, 0 < other → wanted ≤ rate clock (prescale * other) →
    rate clock (prescale * divisor) ≤ rate clock (prescale * other)

/-- The field for a divisor: the divisor less one, modulo the size of the field. -/
def reload (bits divisor : Nat) : Nat :=
  (divisor + 2 ^ bits - 1) % 2 ^ bits

variable {prescale clock wanted divisor bits : Nat}

theorem le_rate_iff (pos : 0 < divisor) : wanted ≤ rate clock divisor ↔ wanted * divisor ≤ clock := by
  have posRat : (0 : Rat) < divisor := Rat.natCast_pos.2 pos
  rw [rate, ← Rat.not_lt, Rat.div_lt_iff posRat, Rat.not_lt, ← Rat.natCast_mul, Rat.natCast_le_natCast]

/-- A larger divisor is a lower rate. -/
theorem rate_anti {other : Nat} (pos : 0 < other) (le : other ≤ divisor) : rate clock divisor ≤ rate clock other := by
  have posRat : (0 : Rat) < other := Rat.natCast_pos.2 pos
  have posDivisor : (0 : Rat) < divisor := Rat.natCast_pos.2 (Nat.lt_of_lt_of_le pos le)
  have leRat : (other : Rat) ≤ divisor := Rat.natCast_le_natCast.2 le
  have nonneg : 0 ≤ rate clock divisor := by
    rw [rate, ← Rat.not_lt, Rat.div_lt_iff posDivisor, Rat.zero_mul, Rat.not_lt]
    exact Rat.natCast_nonneg
  have scaled : rate clock divisor * other ≤ clock := by
    calc rate clock divisor * other ≤ rate clock divisor * divisor := Rat.mul_le_mul_of_nonneg_left leRat nonneg
      _ = clock := Rat.div_mul_cancel (Rat.ne_of_gt posDivisor)
  rwa [rate.eq_def clock other, ← Rat.not_lt, Rat.div_lt_iff posRat, Rat.not_lt]

/-- The floor of the quotient is the best divisor. -/
theorem closest_div (prescaled : 0 < prescale) (rated : 0 < wanted) (reached : 1 ≤ clock / (prescale * wanted)) :
    Closest prescale clock wanted (clock / (prescale * wanted)) := by
  have pos {divisor : Nat} (positive : 0 < divisor) : 0 < prescale * divisor := Nat.mul_pos prescaled positive
  constructor
  · rw [le_rate_iff (pos reached)]
    calc wanted * (prescale * (clock / (prescale * wanted)))
        = clock / (prescale * wanted) * (prescale * wanted) := by ac_rfl
      _ ≤ clock := Nat.div_mul_le_self clock (prescale * wanted)
  · intro other positive atLeast
    rw [le_rate_iff (pos positive)] at atLeast
    have below : other ≤ clock / (prescale * wanted) := by
      rw [Nat.le_div_iff_mul_le (pos rated)]
      calc other * (prescale * wanted) = wanted * (prescale * other) := by ac_rfl
        _ ≤ clock := atLeast
    exact rate_anti (pos positive) (Nat.mul_le_mul_left prescale below)

theorem reload_lt (bits divisor : Nat) : reload bits divisor < 2 ^ bits :=
  Nat.mod_lt _ (Nat.two_pow_pos bits)

theorem reload_add_one (positive : 1 ≤ divisor) (fits : divisor ≤ 2 ^ bits) : reload bits divisor + 1 = divisor := by
  have split : divisor + 2 ^ bits - 1 = divisor - 1 + 2 ^ bits := by omega
  rw [reload, split, Nat.add_mod_right, Nat.mod_eq_of_lt (by omega)]
  omega

/-- The field stands for the divisor exactly within its range. -/
theorem reload_add_one_iff : reload bits divisor + 1 = divisor ↔ 1 ≤ divisor ∧ divisor ≤ 2 ^ bits := by
  constructor
  · intro exact
    have below := reload_lt bits divisor
    omega
  · rintro ⟨positive, fits⟩
    exact reload_add_one positive fits

/-- The field as a machine computes it, by a subtraction that may wrap and a narrowing. -/
theorem toNat_sub_one_mod {n : Nat} (x : BitVec n) (narrower : bits ≤ n) (inhabited : 0 < n) :
    (x - 1#n).toNat % 2 ^ bits = reload bits x.toNat := by
  obtain ⟨turns, wide⟩ := Nat.pow_dvd_pow 2 narrower
  have turned : 0 < turns := by
    apply Nat.pos_of_ne_zero
    rintro rfl
    exact Nat.ne_of_gt (Nat.two_pow_pos n) wide
  have pos := Nat.two_pow_pos bits
  have size : 2 ^ bits * turns = 2 ^ bits + 2 ^ bits * (turns - 1) := by
    calc 2 ^ bits * turns = 2 ^ bits * (1 + (turns - 1)) := by rw [Nat.add_sub_cancel' turned]
      _ = 2 ^ bits + 2 ^ bits * (turns - 1) := by rw [Nat.mul_add, Nat.mul_one]
  have shifted : 2 ^ bits * turns - 1 + x.toNat = x.toNat + 2 ^ bits - 1 + 2 ^ bits * (turns - 1) := by omega
  rw [BitVec.toNat_sub, BitVec.toNat_one inhabited, wide, Nat.mod_mul_right_mod, shifted, Nat.add_mul_mod_self_left, reload]

/-- A field that is scaled before the one is added is read as its divisor only
where it is zero. -/
theorem mul_div_scaled_eq_iff {scale field : Nat} (scaled : 1 < scale) (rated : 0 < wanted) :
    wanted * (field + 1) / (scale * field + 1) = wanted ↔ field = 0 := by
  constructor
  · intro same
    have least : wanted * (scale * field + 1) ≤ wanted * (field + 1) := by
      calc wanted * (scale * field + 1)
          = wanted * (field + 1) / (scale * field + 1) * (scale * field + 1) := by rw [same]
        _ ≤ wanted * (field + 1) := Nat.div_mul_le_self _ _
    have below : scale * field + 1 ≤ field + 1 := Nat.le_of_mul_le_mul_left least rated
    by_contra nonzero
    have more : field * 1 < field * scale := Nat.mul_lt_mul_of_pos_left scaled (Nat.pos_of_ne_zero nonzero)
    rw [Nat.mul_comm field scale] at more
    omega
  · rintro rfl
    simp

end ClockDivider
