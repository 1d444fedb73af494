import Mathlib.Algebra.Order.Ring.Nat
import Mathlib.Data.Nat.ModEq
import Mathlib.Logic.Function.Iterate
import Mathlib.Tactic.Common

/-!
# Counters in a row

A stage takes steps, and a step may carry. In a row of stages a gated stage steps
only in the rounds in which the stage before it carries. Run round by round, each
stage has taken the steps it would take alone, as many as the carries it received.
A stage that counts down from its top carries once in `top + 1` steps.
-/

namespace Cascade
set_option autoImplicit false

/-- How the stages of a row step: with a carry or not, and whether a stage waits
for the carry of the one before it, which no step changes. -/
structure Stage (α : Type*) where
  step : α → Bool × α
  gated : α → Bool
  gated_step : ∀ a, gated (step a).2 = gated a

variable {α : Type*} (stage : Stage α)

namespace Stage

/-- One stage in one round. -/
def turn (carry : Bool) (a : α) : Bool × α :=
  if stage.gated a && !carry then (false, a) else stage.step a

/-- One round: the carries go down the row. -/
def round : Bool → List α → List α
  | _, [] => []
  | carry, a :: rest => (stage.turn carry a).2 :: round (stage.turn carry a).1 rest

/-- As many rounds as there are carries into the row. -/
def rounds : List Bool → List α → List α
  | [], row => row
  | carry :: carries, row => rounds carries (stage.round carry row)

/-- One stage in all the rounds, and what it carries in each. -/
def drive : List Bool → α → List Bool × α
  | [], a => ([], a)
  | carry :: carries, a =>
    let turned := stage.turn carry a
    let driven := drive carries turned.2
    (turned.1 :: driven.1, driven.2)

/-- A stage after `n` steps of its own. -/
def stepped (n : Nat) (a : α) : α :=
  (fun a => (stage.step a).2)^[n] a

/-- How often a stage carries in `n` steps. -/
def carried : Nat → α → Nat
  | 0, _ => 0
  | n + 1, a => (stage.step a).1.toNat + carried n (stage.step a).2

/-- How many steps the stages of a row take in `total` rounds, `n` of them with a
carry into the row. -/
def received (total : Nat) : Nat → List α → List Nat
  | _, [] => []
  | n, a :: rest =>
    let steps := if stage.gated a then n else total
    steps :: received total (stage.carried steps a) rest

variable {stage} {a : α} {row : List α} {carries : List Bool}

theorem stepped_succ (n : Nat) (a : α) : stage.stepped (n + 1) a = stage.stepped n (stage.step a).2 :=
  Function.iterate_succ_apply _ n a

theorem gated_turn (carry : Bool) (a : α) : stage.gated (stage.turn carry a).2 = stage.gated a := by
  unfold turn
  split
  · rfl
  · exact stage.gated_step a

/-- A round of the front of a row does not depend on what follows. -/
theorem round_take (carry : Bool) (row : List α) (n : Nat) : (stage.round carry row).take n = stage.round carry (row.take n) := by
  induction row generalizing carry n with
  | nil => simp [round]
  | cons a rest ih =>
    cases n with
    | zero => rfl
    | succ n => rw [round, List.take_succ_cons, ih, List.take_succ_cons, round]

/-- The rest of a row depends on what comes before by a carry. -/
theorem round_drop (carry : Bool) (row : List α) (n : Nat) :
    ∃ carry', (stage.round carry row).drop n = stage.round carry' (row.drop n) := by
  induction n generalizing carry row with
  | zero => exact ⟨carry, rfl⟩
  | succ n ih =>
    cases row with
    | nil => exact ⟨carry, by simp [round]⟩
    | cons a rest =>
      rw [round, List.drop_succ_cons, List.drop_succ_cons]
      exact ih _ rest

/-- In a round each stage has its turn, whatever it gets from the one before. -/
theorem getElem?_round (carry : Bool) (row : List α) (n : Nat) :
    ∃ carry', (stage.round carry row)[n]? = row[n]?.map fun a => (stage.turn carry' a).2 := by
  obtain ⟨carry', dropped⟩ := stage.round_drop carry row n
  refine ⟨carry', ?_⟩
  rw [← Nat.add_zero n, ← List.getElem?_drop, ← List.getElem?_drop, dropped]
  cases row.drop n <;> rfl

variable (stage) in
/-- The first stage of the row does not wait. -/
def Leads (row : List α) : Prop :=
  ∃ a rest, row = a :: rest ∧ stage.gated a = false

/-- Such a row takes no carry. -/
theorem Leads.round_eq (leads : stage.Leads row) (carry : Bool) : stage.round carry row = stage.round false row := by
  obtain ⟨a, rest, rfl, free⟩ := leads
  have steps (carry : Bool) : stage.turn carry a = stage.step a := by simp [turn, free]
  rw [round, round, steps, steps]

theorem Leads.round (leads : stage.Leads row) : stage.Leads (stage.round false row) := by
  obtain ⟨a, rest, rfl, free⟩ := leads
  exact ⟨_, _, rfl, (gated_turn false a).trans free⟩

/-- A part of a row that starts with such a stage is a row of its own. -/
theorem Leads.round_part {first count : Nat} (leads : stage.Leads ((row.drop first).take count)) (carry : Bool) :
    ((stage.round carry row).drop first).take count = stage.round false ((row.drop first).take count) := by
  obtain ⟨carry', dropped⟩ := stage.round_drop carry row first
  rw [dropped, round_take]
  exact leads.round_eq carry'

theorem rounds_nil (carries : List Bool) : stage.rounds carries [] = [] := by
  induction carries with
  | nil => rfl
  | cons carry carries ih => exact ih

/-- Round by round is stage by stage. -/
theorem rounds_cons (carries : List Bool) (a : α) (rest : List α) :
    stage.rounds carries (a :: rest) = (stage.drive carries a).2 :: stage.rounds (stage.drive carries a).1 rest := by
  induction carries generalizing a rest with
  | nil => rfl
  | cons carry carries ih =>
    rw [rounds, round, ih]
    rfl

theorem rounds_snoc (carries : List Bool) (carry : Bool) (row : List α) :
    stage.rounds (carries ++ [carry]) row = stage.round carry (stage.rounds carries row) := by
  induction carries generalizing row with
  | nil => rfl
  | cons c carries ih => exact ih (stage.round c row)

theorem length_drive (carries : List Bool) (a : α) : (stage.drive carries a).1.length = carries.length := by
  induction carries generalizing a with
  | nil => rfl
  | cons carry carries ih =>
    rw [drive, List.length_cons, ih, List.length_cons]

/-- A gated stage takes a step for each carry it receives. -/
theorem drive_gated (gated : stage.gated a = true) (carries : List Bool) :
    (stage.drive carries a).2 = stage.stepped (carries.count true) a ∧
      (stage.drive carries a).1.count true = stage.carried (carries.count true) a := by
  induction carries generalizing a with
  | nil => exact ⟨rfl, rfl⟩
  | cons carry carries ih =>
    cases carry with
    | false =>
      have waits : stage.turn false a = (false, a) := by simp [turn, gated]
      obtain ⟨state, count⟩ := ih gated
      rw [drive, waits, List.count_cons_of_ne Bool.false_ne_true, List.count_cons_of_ne Bool.false_ne_true]
      exact ⟨state, count⟩
    | true =>
      have steps : stage.turn true a = stage.step a := by simp [turn]
      obtain ⟨state, count⟩ := ih ((stage.gated_step a).trans gated)
      rw [drive, steps, List.count_cons_self, stepped_succ, carried]
      refine ⟨state, ?_⟩
      dsimp only
      cases (stage.step a).1 with
      | false => rw [List.count_cons_of_ne Bool.false_ne_true, count, Bool.toNat_false, Nat.zero_add]
      | true => rw [List.count_cons_self, count, Bool.toNat_true, Nat.add_comm]

/-- Another one in every round. -/
theorem drive_free (free : stage.gated a = false) (carries : List Bool) :
    (stage.drive carries a).2 = stage.stepped carries.length a ∧
      (stage.drive carries a).1.count true = stage.carried carries.length a := by
  induction carries generalizing a with
  | nil => exact ⟨rfl, rfl⟩
  | cons carry carries ih =>
    have steps : stage.turn carry a = stage.step a := by simp [turn, free]
    obtain ⟨state, count⟩ := ih ((stage.gated_step a).trans free)
    rw [drive, steps, List.length_cons, stepped_succ, carried]
    refine ⟨state, ?_⟩
    dsimp only
    cases (stage.step a).1 with
    | false => rw [List.count_cons_of_ne Bool.false_ne_true, count, Bool.toNat_false, Nat.zero_add]
    | true => rw [List.count_cons_self, count, Bool.toNat_true, Nat.add_comm]

/-- Each stage of a row has taken its own steps, as many as it received. -/
theorem rounds_eq (carries : List Bool) (row : List α) : stage.rounds carries row =
    List.zipWith stage.stepped (stage.received carries.length (carries.count true) row) row := by
  induction row generalizing carries with
  | nil => exact rounds_nil carries
  | cons a rest ih =>
    rw [rounds_cons, ih, length_drive, received, List.zipWith_cons_cons]
    cases gated : stage.gated a with
    | true =>
      obtain ⟨state, count⟩ := drive_gated gated carries
      rw [state, count, if_pos rfl]
    | false =>
      obtain ⟨state, count⟩ := drive_free gated carries
      rw [state, count, if_neg Bool.false_ne_true]

end Stage

/-- The stages for which `holds` count down: `value` steps down to zero and
starts over at `top`, with a carry. -/
structure CountsDown (holds : α → Prop) (value top : α → Nat) : Prop where
  kept : ∀ a, holds a → holds (stage.step a).2
  same : ∀ a, holds a → top (stage.step a).2 = top a
  down : ∀ a, holds a → value (stage.step a).2 = if value a = 0 then top a else value a - 1
  carry : ∀ a, holds a → ((stage.step a).1 = true ↔ value a = 0)

section CountsDown

variable {stage} {holds : α → Prop} {value top : α → Nat} {a : α}

/-- Where a counter stands after `n` steps, and how often it has carried: as one
that started at its top and has taken `top - value` steps more. -/
theorem CountsDown.after (counts : CountsDown stage holds value top) (held : holds a) (inside : value a ≤ top a) (n : Nat) :
    value (stage.stepped n a) = top a - (n + (top a - value a)) % (top a + 1) ∧
      stage.carried n a = (n + (top a - value a)) / (top a + 1) := by
  induction n generalizing a with
  | zero =>
    have below : 0 + (top a - value a) < top a + 1 := by omega
    rw [Nat.mod_eq_of_lt below, Nat.div_eq_of_lt below]
    refine ⟨?_, rfl⟩
    show value a = _
    omega
  | succ n ih =>
    have next := counts.down a held
    have same := counts.same a held
    have carry := counts.carry a held
    by_cases zero : value a = 0
    · rw [if_pos zero] at next
      obtain ⟨state, count⟩ := ih (counts.kept a held) (Nat.le_of_eq (next.trans same.symm))
      rw [same, next, Nat.sub_self, Nat.add_zero] at state count
      have shift : n + 1 + (top a - value a) = n + (top a + 1) := by omega
      rw [Stage.stepped_succ, Stage.carried, carry.2 zero, state, count, shift, Nat.add_mod_right,
        Nat.add_div_right _ (Nat.succ_pos _), Bool.toNat_true]
      exact ⟨rfl, Nat.add_comm _ _⟩
    · rw [if_neg zero] at next
      obtain ⟨state, count⟩ := ih (counts.kept a held) (by omega)
      rw [same, next] at state count
      have shift : n + 1 + (top a - value a) = n + (top a - (value a - 1)) := by omega
      have none : (stage.step a).1 = false := eq_false_of_ne_true fun carries => zero (carry.1 carries)
      rw [Stage.stepped_succ, Stage.carried, none, state, count, shift, Bool.toNat_false, Nat.zero_add]
      exact ⟨rfl, rfl⟩

end CountsDown

/-- Two counters, the second of which steps when the first starts over, are the
digits of one. -/
theorem two_digits (n low high : Nat) :
    low - n % (low + 1) + (low + 1) * (high - n / (low + 1) % (high + 1)) =
      (low + 1) * (high + 1) - 1 - n % ((low + 1) * (high + 1)) := by
  have lower : n % (low + 1) < low + 1 := Nat.mod_lt n (Nat.succ_pos low)
  have upper : n / (low + 1) % (high + 1) < high + 1 := Nat.mod_lt _ (Nat.succ_pos high)
  have digits : n % ((low + 1) * (high + 1)) = n % (low + 1) + (low + 1) * (n / (low + 1) % (high + 1)) := Nat.mod_mul
  have size : (low + 1) * (high - n / (low + 1) % (high + 1)) + (low + 1) * (n / (low + 1) % (high + 1)) + (low + 1) =
      (low + 1) * (high + 1) := by
    rw [← Nat.mul_add, ← Nat.mul_succ]
    congr 1
    omega
  rw [digits]
  generalize (low + 1) * (high - n / (low + 1) % (high + 1)) = rest at *
  generalize (low + 1) * (n / (low + 1) % (high + 1)) = passed at *
  generalize (low + 1) * (high + 1) = size at *
  omega

end Cascade
