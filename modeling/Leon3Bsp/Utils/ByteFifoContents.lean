import Leon3Bsp.Lib.Circular
import Leon3Bsp.Utils.ByteFifo

/-!
# What a byte queue holds

`WF` is the pointer invariant of a queue in use, `contents` the bytes it holds,
oldest first. Each operation has one lemma that says what it returns and how it
changes the contents; everything above this module uses those and never the
pointers.
-/

namespace Leon3Bsp.ByteFifo
set_option autoImplicit false

/-- The pointers of a queue in use: a non-empty block clear of `NULL`, `last`
in the block, `first` absent or in the block. -/
structure WF (fifo : ByteFifo) : Prop where
  notNull : NULL < fifo.begin
  room : fifo.begin < fifo.end_
  lastLow : fifo.begin ≤ fifo.last
  lastHigh : fifo.last < fifo.end_
  firstIn : fifo.first ≠ NULL → fifo.begin ≤ fifo.first ∧ fifo.first < fifo.end_

def capacity (fifo : ByteFifo) : Nat :=
  fifo.end_ - fifo.begin

/-- The number of bytes held. -/
def length (fifo : ByteFifo) : Nat :=
  if fifo.first = NULL then 0 else Circular.span fifo.begin fifo.end_ fifo.first fifo.last

/-- The bytes held, oldest first. -/
def contents (fifo : ByteFifo) (mem : Memory) : List Byte :=
  Circular.cells mem fifo.begin fifo.end_ fifo.first fifo.length

/-- Where the walk over the contents begins; on an empty queue, the insert location. -/
def start (fifo : ByteFifo) : Nat :=
  if fifo.first = NULL then fifo.last else fifo.first

variable {fifo : ByteFifo} {mem : Memory}

@[simp] theorem contents_length : (fifo.contents mem).length = fifo.length := by
  simp [contents]

theorem length_empty (empty : fifo.first = NULL) : fifo.length = 0 := by
  simp [length, empty]

theorem contents_start : fifo.contents mem = Circular.cells mem fifo.begin fifo.end_ fifo.start fifo.length := by
  by_cases empty : fifo.first = NULL
  · rw [contents, length_empty empty]
    rfl
  · simp [contents, start, empty]

theorem capacity_pos (wf : fifo.WF) : 0 < fifo.capacity := by
  have := wf.room
  unfold capacity
  omega

theorem start_bounds (wf : fifo.WF) : fifo.begin ≤ fifo.start ∧ fifo.start < fifo.end_ := by
  unfold start
  split
  · exact ⟨wf.lastLow, wf.lastHigh⟩
  · exact wf.firstIn ‹_›

/-- The insert location is where the walk over the contents ends. -/
theorem last_eq (wf : fifo.WF) : fifo.last = Circular.advance fifo.begin fifo.end_ fifo.start fifo.length := by
  by_cases empty : fifo.first = NULL
  · simp [length, start, empty, wf.lastHigh]
  · obtain ⟨low, high⟩ := wf.firstIn empty
    simp [length, start, empty, Circular.advance_span high wf.lastLow wf.lastHigh]

theorem length_pos (wf : fifo.WF) (held : fifo.first ≠ NULL) : 0 < fifo.length := by
  simpa [length, held] using Circular.span_pos (wf.firstIn held).2 wf.lastLow

theorem length_le (wf : fifo.WF) : fifo.length ≤ fifo.capacity := by
  by_cases empty : fifo.first = NULL
  · simp [length_empty empty]
  · simpa [length, empty, capacity] using Circular.span_le (wf.firstIn empty).1 wf.lastHigh

/-- What a queue holds depends on its block only. -/
theorem contents_congr (wf : fifo.WF) {mem' : Memory}
    (same : ∀ a, fifo.begin ≤ a → a < fifo.end_ → mem' a = mem a) : fifo.contents mem' = fifo.contents mem := by
  obtain ⟨low, high⟩ := start_bounds wf
  rw [contents_start, contents_start]
  exact Circular.cells_congr_range low high (length_le wf) same

theorem length_eq_zero (wf : fifo.WF) : fifo.length = 0 ↔ fifo.first = NULL :=
  ⟨fun zero => by_contra fun held => Nat.ne_of_gt (length_pos wf held) zero, length_empty⟩

theorem length_eq_capacity (wf : fifo.WF) : fifo.length = fifo.capacity ↔ fifo.first = fifo.last := by
  by_cases empty : fifo.first = NULL
  · have := capacity_pos wf
    have := wf.lastLow
    have := wf.notNull
    simp only [length_empty empty, empty, NULL] at *
    omega
  · obtain ⟨low, high⟩ := wf.firstIn empty
    simpa [length, empty, capacity] using Circular.span_eq_turn low high wf.lastLow wf.lastHigh

theorem isEmpty_iff (wf : fifo.WF) (mem : Memory) : fifo.isEmpty = true ↔ fifo.contents mem = [] := by
  rw [← List.length_eq_zero_iff, contents_length, length_eq_zero wf]
  simp [isEmpty]

theorem isEmpty_eq (wf : fifo.WF) (mem : Memory) : fifo.isEmpty = decide ((fifo.contents mem).length = 0) := by
  rw [Bool.eq_iff_iff, isEmpty_iff wf mem, decide_eq_true_iff, List.length_eq_zero_iff]

theorem isFull_iff (wf : fifo.WF) (mem : Memory) : fifo.isFull = true ↔ (fifo.contents mem).length = fifo.capacity := by
  rw [contents_length, length_eq_capacity wf]
  simp [isFull]

theorem isFull_eq (wf : fifo.WF) (mem : Memory) : fifo.isFull = decide ((fifo.contents mem).length = fifo.capacity) := by
  rw [Bool.eq_iff_iff, isFull_iff wf mem, decide_eq_true_iff]

/-- A queue with room is not full. -/
theorem length_lt (wf : fifo.WF) (room : fifo.isFull = false) : fifo.length < fifo.capacity := by
  refine Nat.lt_of_le_of_ne (length_le wf) fun full => ?_
  rw [length_eq_capacity wf] at full
  simp [isFull, full] at room

/-- A difference of two pointers into one block reads back from `intptr_t`. -/
theorem sle_zero_ofInt {x : Int} (low : -(PTRDIFF_MAX : Int) ≤ x) (high : x ≤ PTRDIFF_MAX) :
    (BitVec.ofInt 32 x).sle 0 = decide (x ≤ 0) := by
  have same : x.bmod (2 ^ 32) = x := Int.bmod_eq_of_le (by simp [PTRDIFF_MAX] at low ⊢; omega)
    (by simp [PTRDIFF_MAX] at high ⊢; omega)
  rw [BitVec.sle_eq_decide, BitVec.toInt_ofInt, same]
  rfl

theorem toNat_ofInt {x : Int} (low : 0 ≤ x) (high : x ≤ PTRDIFF_MAX) : (BitVec.ofInt 32 x).toNat = x.toNat := by
  rw [BitVec.toNat_ofInt, Int.emod_eq_of_lt low (by simp [PTRDIFF_MAX] at high ⊢; omega)]

/-- `getCount` is the length, whatever the position of the pointers. -/
theorem getCount_toNat (wf : fifo.WF) (small : fifo.capacity ≤ PTRDIFF_MAX) :
    fifo.getCount.toNat = fifo.length := by
  by_cases empty : fifo.first = NULL
  · simp [getCount, isEmpty, length_empty empty, empty]
  · obtain ⟨low, high⟩ := wf.firstIn empty
    have lastLow := wf.lastLow
    have lastHigh := wf.lastHigh
    unfold capacity at small
    have sign := sle_zero_ofInt (x := (fifo.last : Int) - fifo.first) (by omega) (by omega)
    simp only [getCount, isEmpty, beq_iff_eq, empty, if_false, sign, decide_eq_true_eq, length, Circular.span]
    by_cases wraps : (fifo.last : Int) - fifo.first ≤ 0
    · rw [if_pos wraps, if_neg (by omega), ← BitVec.ofInt_add, toNat_ofInt (by omega) (by omega)]
      omega
    · rw [if_neg wraps, if_pos (by omega), toNat_ofInt (by omega) (by omega)]
      omega

/-- The queue an accepted push leaves. -/
def pushed (fifo : ByteFifo) : ByteFifo :=
  { fifo with first := fifo.start, last := Circular.next fifo.begin fifo.end_ fifo.last }

/-- The queue an accepted pull leaves. -/
def pulled (fifo : ByteFifo) : ByteFifo :=
  let first := Circular.next fifo.begin fifo.end_ fifo.first
  { fifo with first := if first = fifo.last then NULL else first }

theorem push_full (full : fifo.isFull = true) (data : Byte) : fifo.push mem data = (false, fifo, mem) := by
  simp [push, full]

theorem push_room (room : fifo.isFull = false) (data : Byte) :
    fifo.push mem data = (true, fifo.pushed, mem.store fifo.last data) := by
  by_cases empty : fifo.first = NULL <;> by_cases wraps : fifo.last + 1 = fifo.end_ <;>
    simp [push, room, pushed, start, Circular.next, empty, wraps]

theorem pull_empty (empty : fifo.isEmpty = true) (data : Byte) : fifo.pull mem data = (false, data, fifo) := by
  simp [pull, empty]

/-- `first++` and the wrap that follows it. -/
theorem first_wraps : (if fifo.first + 1 = fifo.end_ then { fifo with first := fifo.begin }
    else { fifo with first := fifo.first + 1 }) =
      { fifo with first := Circular.next fifo.begin fifo.end_ fifo.first } := by
  unfold Circular.next
  split <;> rfl

theorem pull_held (held : fifo.isEmpty = false) (data : Byte) :
    fifo.pull mem data = (true, mem fifo.first, fifo.pulled) := by
  simp only [pull, held, Bool.false_eq_true, if_false, first_wraps, pulled]
  split <;> rfl

@[simp] theorem pushed_begin : fifo.pushed.begin = fifo.begin := rfl
@[simp] theorem pushed_end : fifo.pushed.end_ = fifo.end_ := rfl
@[simp] theorem pushed_capacity : fifo.pushed.capacity = fifo.capacity := rfl
@[simp] theorem pulled_begin : fifo.pulled.begin = fifo.begin := rfl
@[simp] theorem pulled_end : fifo.pulled.end_ = fifo.end_ := rfl
@[simp] theorem pulled_capacity : fifo.pulled.capacity = fifo.capacity := rfl

theorem start_ne_null (wf : fifo.WF) : fifo.start ≠ NULL := by
  have := (start_bounds wf).1
  have := wf.notNull
  omega

theorem pushed_wf (wf : fifo.WF) : fifo.pushed.WF := by
  obtain ⟨low, high⟩ := Circular.next_bounds wf.lastLow wf.lastHigh
  exact ⟨wf.notNull, wf.room, low, high, fun _ => start_bounds wf⟩

theorem pushed_length (wf : fifo.WF) (room : fifo.isFull = false) : fifo.pushed.length = fifo.length + 1 := by
  obtain ⟨low, high⟩ := start_bounds wf
  have short := length_lt wf room
  have walk : fifo.pushed.last = Circular.advance fifo.begin fifo.end_ fifo.start (fifo.length + 1) := by
    rw [← Circular.next_advance high short, ← last_eq wf]
    rfl
  have present : fifo.pushed.first ≠ NULL := start_ne_null wf
  rw [length, if_neg present, walk]
  exact Circular.span_advance low high (Nat.succ_pos _) short

/-- An accepted push appends its byte. -/
theorem pushed_contents (wf : fifo.WF) (room : fifo.isFull = false) (data : Byte) :
    fifo.pushed.contents (mem.store fifo.last data) = fifo.contents mem ++ [data] := by
  obtain ⟨low, high⟩ := start_bounds wf
  rw [contents, pushed_length wf room, contents_start, last_eq wf]
  exact Circular.cells_update_end low high (length_lt wf room) data

/-- What is left behind the oldest byte. -/
theorem contents_held (wf : fifo.WF) (held : fifo.first ≠ NULL) :
    fifo.contents mem = mem fifo.first ::
      Circular.cells mem fifo.begin fifo.end_ (Circular.next fifo.begin fifo.end_ fifo.first) (fifo.length - 1) := by
  obtain ⟨k, hk⟩ : ∃ k, fifo.length = k + 1 := ⟨fifo.length - 1, by have := length_pos wf held; omega⟩
  rw [contents, hk]
  rfl

/-- The rest of the walk over the contents ends at the insert location. -/
theorem last_eq_rest (wf : fifo.WF) (held : fifo.first ≠ NULL) :
    fifo.last = Circular.advance fifo.begin fifo.end_ (Circular.next fifo.begin fifo.end_ fifo.first)
      (fifo.length - 1) := by
  have pos := length_pos wf held
  have le := length_le wf
  have walk := last_eq wf
  rw [start, if_neg held] at walk
  rw [walk, Circular.advance_next (wf.firstIn held).1 (by unfold capacity at le; omega)]
  congr 1
  omega

theorem next_eq_last (wf : fifo.WF) (held : fifo.first ≠ NULL) :
    Circular.next fifo.begin fifo.end_ fifo.first = fifo.last ↔ fifo.length = 1 := by
  obtain ⟨low, high⟩ := wf.firstIn held
  obtain ⟨nlow, nhigh⟩ := Circular.next_bounds low high
  have pos := length_pos wf held
  have le := length_le wf
  have rest := last_eq_rest wf held
  constructor
  · intro meets
    by_contra more
    have apart : Circular.advance fifo.begin fifo.end_ (Circular.next fifo.begin fifo.end_ fifo.first) 0 ≠
        Circular.advance fifo.begin fifo.end_ (Circular.next fifo.begin fifo.end_ fifo.first) (fifo.length - 1) :=
      Circular.advance_ne (by omega) (by unfold capacity at le; omega)
    rw [Circular.advance_zero nhigh, ← rest] at apart
    exact apart meets
  · intro one
    rw [rest, one, Circular.advance_zero nhigh]

theorem pulled_wf (wf : fifo.WF) (held : fifo.first ≠ NULL) : fifo.pulled.WF := by
  obtain ⟨low, high⟩ := wf.firstIn held
  refine ⟨wf.notNull, wf.room, wf.lastLow, wf.lastHigh, fun left => ?_⟩
  by_cases meets : Circular.next fifo.begin fifo.end_ fifo.first = fifo.last
  · simp [pulled, meets] at left
  · simpa [pulled, meets] using Circular.next_bounds low high

theorem pulled_length (wf : fifo.WF) (held : fifo.first ≠ NULL) : fifo.pulled.length = fifo.length - 1 := by
  obtain ⟨low, high⟩ := wf.firstIn held
  obtain ⟨nlow, nhigh⟩ := Circular.next_bounds low high
  have pos := length_pos wf held
  have le := length_le wf
  by_cases meets : Circular.next fifo.begin fifo.end_ fifo.first = fifo.last
  · rw [length_empty (by simp [pulled, meets]), (next_eq_last wf held).1 meets]
  · have more : fifo.length ≠ 1 := fun one => meets ((next_eq_last wf held).2 one)
    have present : Circular.next fifo.begin fifo.end_ fifo.first ≠ NULL := by
      have := wf.notNull
      omega
    have first : fifo.pulled.first = Circular.next fifo.begin fifo.end_ fifo.first := by simp [pulled, meets]
    have walk : fifo.pulled.last = Circular.advance fifo.begin fifo.end_
        (Circular.next fifo.begin fifo.end_ fifo.first) (fifo.length - 1) := last_eq_rest wf held
    rw [length, first, if_neg present, walk]
    exact Circular.span_advance nlow nhigh (by omega) (by unfold capacity at le; omega)

/-- An accepted pull removes the oldest byte, the one it returns. -/
theorem pulled_contents (wf : fifo.WF) (held : fifo.first ≠ NULL) (mem : Memory) :
    fifo.contents mem = mem fifo.first :: fifo.pulled.contents mem := by
  rw [contents_held wf held, contents, pulled_length wf held]
  congr 1
  by_cases meets : Circular.next fifo.begin fifo.end_ fifo.first = fifo.last
  · rw [(next_eq_last wf held).1 meets]
    rfl
  · simp [pulled, meets]

end Leon3Bsp.ByteFifo
