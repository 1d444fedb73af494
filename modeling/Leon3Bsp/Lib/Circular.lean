import Mathlib.Logic.Function.Basic
import Mathlib.Tactic.Common

/-!
# Walking a circular range of positions

A buffer occupies the positions `[lo, hi)`. `next` is the successor with wrap,
`advance` the closed form of its iterates, `span` the number of steps from one
position to another, read as a full turn when they coincide. `cells` lists what
a walk of `k` steps meets. The positions are natural numbers and the contents
have any type, so nothing here depends on what the cells are used for.
-/

namespace Circular
set_option autoImplicit false

/-- The position after `p`. -/
def next (lo hi p : Nat) : Nat :=
  if p + 1 = hi then lo else p + 1

/-- The position `k` steps after `p`, for at most one turn. -/
def advance (lo hi p k : Nat) : Nat :=
  if p + k < hi then p + k else p + k - (hi - lo)

/-- The steps from `p` to `q`: a full turn when `p = q`. -/
def span (lo hi p q : Nat) : Nat :=
  if p < q then q - p else q + (hi - lo) - p

/-- The contents of the `k` cells from `p` on. -/
def cells {α : Type*} (get : Nat → α) (lo hi : Nat) : Nat → Nat → List α
  | _, 0 => []
  | p, k + 1 => get p :: cells get lo hi (next lo hi p) k

section Positions

variable {lo hi p : Nat}

theorem next_bounds (low : lo ≤ p) (high : p < hi) : lo ≤ next lo hi p ∧ next lo hi p < hi := by
  unfold next
  split <;> omega

@[simp] theorem advance_zero (high : p < hi) : advance lo hi p 0 = p := by
  simp [advance, high]

theorem advance_bounds (low : lo ≤ p) (high : p < hi) {k : Nat} (turn : k ≤ hi - lo) :
    lo ≤ advance lo hi p k ∧ advance lo hi p k < hi := by
  unfold advance
  split <;> omega

/-- Moving the start one step on shortens the walk by one. -/
theorem advance_next (low : lo ≤ p) {k : Nat} (turn : k + 1 ≤ hi - lo) :
    advance lo hi (next lo hi p) k = advance lo hi p (k + 1) := by
  unfold advance next
  split <;> split <;> split <;> omega

theorem next_advance (high : p < hi) {k : Nat} (turn : k < hi - lo) :
    next lo hi (advance lo hi p k) = advance lo hi p (k + 1) := by
  unfold advance next
  split <;> split <;> split <;> omega

/-- Two walks of different length below one turn end apart. -/
theorem advance_ne {i k : Nat} (short : i < k) (turn : k < hi - lo) :
    advance lo hi p i ≠ advance lo hi p k := by
  unfold advance
  split <;> split <;> omega

theorem span_pos (high : p < hi) {q : Nat} (low : lo ≤ q) : 0 < span lo hi p q := by
  unfold span
  split <;> omega

theorem span_le (low : lo ≤ p) {q : Nat} (high : q < hi) : span lo hi p q ≤ hi - lo := by
  unfold span
  split <;> omega

theorem advance_span (high : p < hi) {q : Nat} (qlow : lo ≤ q) (qhigh : q < hi) :
    advance lo hi p (span lo hi p q) = q := by
  unfold advance span
  split <;> split <;> omega

theorem span_advance (low : lo ≤ p) (high : p < hi) {k : Nat} (pos : 0 < k) (turn : k ≤ hi - lo) :
    span lo hi p (advance lo hi p k) = k := by
  unfold advance span
  split <;> split <;> omega

/-- A walk is a full turn exactly when it ends where it began. -/
theorem span_eq_turn (low : lo ≤ p) (high : p < hi) {q : Nat} (qlow : lo ≤ q) (qhigh : q < hi) :
    span lo hi p q = hi - lo ↔ p = q := by
  unfold span
  split <;> omega

end Positions

section Cells

variable {α : Type*} {get get' : Nat → α} {lo hi : Nat}

@[simp] theorem cells_length (p k : Nat) : (cells get lo hi p k).length = k := by
  induction k generalizing p with
  | zero => rfl
  | succ k ih => simp [cells, ih]

/-- A longer walk meets one more cell at its end. -/
theorem cells_snoc {p k : Nat} (low : lo ≤ p) (high : p < hi) (turn : k < hi - lo) :
    cells get lo hi p (k + 1) = cells get lo hi p k ++ [get (advance lo hi p k)] := by
  induction k generalizing p with
  | zero => simp [cells, high]
  | succ k ih =>
    obtain ⟨nlow, nhigh⟩ := next_bounds low high
    rw [cells, ih nlow nhigh (by omega), advance_next low (by omega)]
    rfl

theorem cells_congr {p k : Nat} (low : lo ≤ p) (high : p < hi) (turn : k ≤ hi - lo)
    (same : ∀ i, i < k → get (advance lo hi p i) = get' (advance lo hi p i)) :
    cells get lo hi p k = cells get' lo hi p k := by
  induction k generalizing p with
  | zero => rfl
  | succ k ih =>
    obtain ⟨nlow, nhigh⟩ := next_bounds low high
    have here := same 0 (Nat.succ_pos k)
    rw [advance_zero high] at here
    have rest := ih nlow nhigh (by omega) fun i bound => by
      rw [advance_next low (by omega)]
      exact same (i + 1) (by omega)
    rw [cells, cells, here, rest]

/-- A walk meets only cells of the range, so contents outside do not matter. -/
theorem cells_congr_range {p k : Nat} (low : lo ≤ p) (high : p < hi) (turn : k ≤ hi - lo)
    (same : ∀ a, lo ≤ a → a < hi → get a = get' a) :
    cells get lo hi p k = cells get' lo hi p k :=
  cells_congr low high turn fun _ bound =>
    let ⟨alow, ahigh⟩ := advance_bounds low high (Nat.le_of_lt (Nat.lt_of_lt_of_le bound turn))
    same _ alow ahigh

/-- A walk that does not wrap lists consecutive cells. -/
theorem cells_consecutive {p k : Nat} (low : lo ≤ p) (high : p < hi) (flat : p + k ≤ hi) :
    cells get lo hi p k = (List.range k).map fun i => get (p + i) := by
  induction k with
  | zero => rfl
  | succ k ih =>
    have stop : advance lo hi p k = p + k := by
      unfold advance
      split <;> omega
    rw [cells_snoc low high (by omega), ih (by omega), stop, List.range_succ, List.map_append]
    rfl

/-- Overwriting the first cell after a walk appends to what the walk meets. -/
theorem cells_update_end {p k : Nat} (low : lo ≤ p) (high : p < hi) (turn : k < hi - lo) (a : α) :
    cells (Function.update get (advance lo hi p k) a) lo hi p (k + 1) = cells get lo hi p k ++ [a] := by
  rw [cells_snoc low high turn, Function.update_self]
  congr 1
  apply cells_congr low high (by omega)
  intro i bound
  exact Function.update_of_ne (advance_ne bound turn) _ _

end Cells

end Circular
