import Mathlib.Logic.Function.Basic
import Mathlib.Tactic.Common

/-!
# The interrupt services of RTEMS

What the drivers use of RTEMS: for each vector a mask bit, the entry installed
on it, and whether an interrupt is pending there. An entry is known by the
address of its object.
-/

namespace Leon3Bsp
set_option autoImplicit false

/-- An `rtems_interrupt_entry` object, by its address. -/
abbrev EntryRef := Nat

structure Rtems where
  enabled : Nat → Bool
  installed : Nat → Option EntryRef
  pending : Nat → Bool

namespace Rtems

/-- Every vector is masked and free, and nothing is pending. -/
def idle : Rtems :=
  ⟨fun _ => false, fun _ => none, fun _ => false⟩

/-- `rtems_interrupt_vector_enable`. -/
def vectorEnable (rtems : Rtems) (vector : Nat) : Rtems :=
  { rtems with enabled := Function.update rtems.enabled vector true }

/-- `rtems_interrupt_vector_disable`. -/
def vectorDisable (rtems : Rtems) (vector : Nat) : Rtems :=
  { rtems with enabled := Function.update rtems.enabled vector false }

/-- `rtems_interrupt_entry_install` with `RTEMS_INTERRUPT_UNIQUE`: refused on an
occupied vector. -/
def entryInstall (rtems : Rtems) (vector : Nat) (entry : EntryRef) : Rtems :=
  if rtems.installed vector = none then { rtems with installed := Function.update rtems.installed vector (some entry) }
  else rtems

/-- `rtems_interrupt_entry_remove`: refused unless the entry is the installed one. -/
def entryRemove (rtems : Rtems) (vector : Nat) (entry : EntryRef) : Rtems :=
  if rtems.installed vector = some entry then { rtems with installed := Function.update rtems.installed vector none }
  else rtems

/-- `rtems_interrupt_clear`. -/
def interruptClear (rtems : Rtems) (vector : Nat) : Rtems :=
  { rtems with pending := Function.update rtems.pending vector false }

/-- Interrupts are raised: their vectors become pending. -/
def raise (rtems : Rtems) (raised : Nat → Bool) : Rtems :=
  { rtems with pending := fun vector => rtems.pending vector || raised vector }

section

variable (rtems : Rtems) (vector : Nat) (entry : EntryRef)

@[simp] theorem interruptClear_enabled : (rtems.interruptClear vector).enabled = rtems.enabled := rfl
@[simp] theorem interruptClear_installed : (rtems.interruptClear vector).installed = rtems.installed := rfl

@[simp] theorem vectorEnable_pending : (rtems.vectorEnable vector).pending = rtems.pending := rfl
@[simp] theorem vectorDisable_pending : (rtems.vectorDisable vector).pending = rtems.pending := rfl

@[simp] theorem entryInstall_pending : (rtems.entryInstall vector entry).pending = rtems.pending := by
  unfold entryInstall
  split <;> rfl

@[simp] theorem entryRemove_pending : (rtems.entryRemove vector entry).pending = rtems.pending := by
  unfold entryRemove
  split <;> rfl

@[simp] theorem vectorEnable_installed : (rtems.vectorEnable vector).installed = rtems.installed := rfl
@[simp] theorem vectorDisable_installed : (rtems.vectorDisable vector).installed = rtems.installed := rfl

@[simp] theorem entryInstall_enabled : (rtems.entryInstall vector entry).enabled = rtems.enabled := by
  unfold entryInstall
  split <;> rfl

@[simp] theorem entryRemove_enabled : (rtems.entryRemove vector entry).enabled = rtems.enabled := by
  unfold entryRemove
  split <;> rfl

theorem vectorEnable_enabled (other : Nat) :
    (rtems.vectorEnable vector).enabled other = if other = vector then true else rtems.enabled other :=
  Function.update_apply _ _ _ _

theorem vectorDisable_enabled (other : Nat) :
    (rtems.vectorDisable vector).enabled other = if other = vector then false else rtems.enabled other :=
  Function.update_apply _ _ _ _

theorem interruptClear_pending (other : Nat) :
    (rtems.interruptClear vector).pending other = if other = vector then false else rtems.pending other :=
  Function.update_apply _ _ _ _

/-- Which entries are installed does not depend on the masks. -/
theorem entryInstall_installed : (rtems.entryInstall vector entry).installed =
    if rtems.installed vector = none then Function.update rtems.installed vector (some entry) else rtems.installed := by
  unfold entryInstall
  split <;> rfl

theorem entryRemove_installed : (rtems.entryRemove vector entry).installed =
    if rtems.installed vector = some entry then Function.update rtems.installed vector none else rtems.installed := by
  unfold entryRemove
  split <;> rfl

variable {rtems} {vector} {entry}

theorem entryInstall_free (free : rtems.installed vector = none) :
    (rtems.entryInstall vector entry).installed vector = some entry := by
  rw [entryInstall, if_pos free]
  exact Function.update_self _ _ _

theorem entryInstall_occupied {other : EntryRef} (occupied : rtems.installed vector = some other) :
    rtems.entryInstall vector entry = rtems := by
  rw [entryInstall, if_neg (by simp [occupied])]

theorem entryRemove_own (own : rtems.installed vector = some entry) :
    (rtems.entryRemove vector entry).installed vector = none := by
  rw [entryRemove, if_pos own]
  exact Function.update_self _ _ _

theorem entryRemove_other (other : rtems.installed vector ≠ some entry) : rtems.entryRemove vector entry = rtems := by
  rw [entryRemove, if_neg other]

end

/-- What RTEMS keeps of one vector. -/
structure Vector where
  enabled : Bool
  installed : Option EntryRef
  pending : Bool

def vector (rtems : Rtems) (n : Nat) : Vector :=
  ⟨rtems.enabled n, rtems.installed n, rtems.pending n⟩

/-- A service acts on vector `n` and leaves the others alone. -/
def Serves (n : Nat) (act : Vector → Vector) (service : Rtems → Rtems) : Prop :=
  ∀ rtems other, (service rtems).vector other = if other = n then act (rtems.vector other) else rtems.vector other

section Serves

variable (n : Nat) (entry : EntryRef)

theorem serves_vectorEnable : Serves n (fun v => { v with enabled := true }) (vectorEnable · n) := by
  intro rtems other
  simp only [vector, vectorEnable_enabled, vectorEnable_installed, vectorEnable_pending]
  split <;> rfl

theorem serves_vectorDisable : Serves n (fun v => { v with enabled := false }) (vectorDisable · n) := by
  intro rtems other
  simp only [vector, vectorDisable_enabled, vectorDisable_installed, vectorDisable_pending]
  split <;> rfl

theorem serves_interruptClear : Serves n (fun v => { v with pending := false }) (interruptClear · n) := by
  intro rtems other
  simp only [vector, interruptClear_pending, interruptClear_enabled, interruptClear_installed]
  split <;> rfl

theorem serves_entryInstall : Serves n (fun v => if v.installed = none then { v with installed := some entry } else v)
    (entryInstall · n entry) := by
  intro rtems other
  simp only [vector, entryInstall_enabled, entryInstall_pending]
  by_cases here : other = n
  · subst here
    by_cases free : rtems.installed other = none
    · rw [entryInstall_free free, if_pos rfl]
      exact (if_pos free).symm
    · rw [entryInstall, if_neg free, if_pos rfl]
      exact (if_neg free).symm
  · rw [if_neg here, entryInstall]
    split
    · dsimp only
      rw [Function.update_of_ne here]
    · rfl

theorem serves_entryRemove : Serves n (fun v => if v.installed = some entry then { v with installed := none } else v)
    (entryRemove · n entry) := by
  intro rtems other
  simp only [vector, entryRemove_enabled, entryRemove_pending]
  by_cases here : other = n
  · subst here
    by_cases own : rtems.installed other = some entry
    · rw [entryRemove_own own, if_pos rfl]
      exact (if_pos own).symm
    · rw [entryRemove_other own, if_pos rfl]
      exact (if_neg own).symm
  · rw [if_neg here, entryRemove]
    split
    · dsimp only
      rw [Function.update_of_ne here]
    · rfl

end Serves

end Rtems

end Leon3Bsp
