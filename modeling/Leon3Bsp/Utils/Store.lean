import Mathlib.Data.Set.Basic
import Leon3Bsp.Utils.ByteFifoContents

/-!
# The caller's queues in one memory

A store is the memory with the queue objects that live in it, each known by its
address. Queues on disjoint blocks do not disturb one another, so above this
module a store is its contents: one list of bytes for each queue.
-/

namespace Leon3Bsp
set_option autoImplicit false

/-- The address of a `ByteFifo` object, not `NULL`. -/
abbrev FifoRef := Nat

structure Store where
  mem : Memory
  fifo : FifoRef → ByteFifo

namespace Store

/-- `ByteFifo_push(q, data)`. -/
def push (s : Store) (q : FifoRef) (data : Byte) : Bool × Store :=
  let r := (s.fifo q).push s.mem data
  (r.1, ⟨r.2.2, Function.update s.fifo q r.2.1⟩)

/-- `ByteFifo_pull(q, &data)`. -/
def pull (s : Store) (q : FifoRef) (data : Byte) : Bool × Byte × Store :=
  let r := (s.fifo q).pull s.mem data
  (r.1, r.2.1, { s with fifo := Function.update s.fifo q r.2.2 })

def contents (s : Store) (q : FifoRef) : List Byte :=
  (s.fifo q).contents s.mem

def capacity (s : Store) (q : FifoRef) : Nat :=
  (s.fifo q).capacity

/-- Well-formed queues on disjoint blocks. -/
structure Separate (queues : Set FifoRef) (s : Store) : Prop where
  wf : ∀ q ∈ queues, (s.fifo q).WF
  apart : ∀ q ∈ queues, ∀ r ∈ queues, q ≠ r →
    (s.fifo q).end_ ≤ (s.fifo r).begin ∨ (s.fifo r).end_ ≤ (s.fifo q).begin

/-- One queue now holds `items`; the others are as they were. -/
structure Becomes (queues : Set FifoRef) (s s' : Store) (q : FifoRef) (items : List Byte) : Prop where
  separate : Separate queues s'
  here : s'.contents q = items
  elsewhere : ∀ r ∈ queues, r ≠ q → s'.contents r = s.contents r
  capacity : ∀ r ∈ queues, s'.capacity r = s.capacity r

/-- The queues and their blocks are as they were. -/
structure Same (queues : Set FifoRef) (s s' : Store) : Prop where
  fifo : ∀ q ∈ queues, s'.fifo q = s.fifo q
  mem : ∀ q ∈ queues, ∀ a, (s.fifo q).begin ≤ a → a < (s.fifo q).end_ → s'.mem a = s.mem a

/-- The stores differ in the queues and what lies in their blocks at most. -/
structure AgreeBeside (queues : Set FifoRef) (s t : Store) : Prop where
  fifo : ∀ r, r ∉ queues → t.fifo r = s.fifo r
  mem : ∀ a, (∀ q ∈ queues, a < (s.fifo q).begin ∨ (s.fifo q).end_ ≤ a) → t.mem a = s.mem a

variable {queues : Set FifoRef} {s s' : Store} {q : FifoRef}

theorem Same.refl (queues : Set FifoRef) (s : Store) : Same queues s s :=
  ⟨fun _ _ => rfl, fun _ _ _ _ _ => rfl⟩

theorem Same.trans {s'' : Store} (first : Same queues s s') (second : Same queues s' s'') : Same queues s s'' := by
  refine ⟨fun q mem => (second.fifo q mem).trans (first.fifo q mem), fun q mem a low high => ?_⟩
  have fifo := first.fifo q mem
  exact (second.mem q mem a (fifo ▸ low) (fifo ▸ high)).trans (first.mem q mem a low high)

theorem Same.contents (same : Same queues s s') (separate : Separate queues s) {q : FifoRef} (mem : q ∈ queues) :
    s'.contents q = s.contents q := by
  rw [Store.contents, same.fifo q mem]
  exact ByteFifo.contents_congr (separate.wf q mem) (same.mem q mem)

theorem Same.capacity (same : Same queues s s') {q : FifoRef} (mem : q ∈ queues) : s'.capacity q = s.capacity q := by
  rw [Store.capacity, same.fifo q mem]
  rfl

theorem Same.separate (same : Same queues s s') (separate : Separate queues s) : Separate queues s' := by
  refine ⟨fun q mem => same.fifo q mem ▸ separate.wf q mem, fun q mem r mem' ne => ?_⟩
  rw [same.fifo q mem, same.fifo r mem']
  exact separate.apart q mem r mem' ne

theorem Same.becomes (same : Same queues s s') (separate : Separate queues s) (mem : q ∈ queues) :
    Becomes queues s s' q (s.contents q) :=
  ⟨same.separate separate, same.contents separate mem, fun _ mem _ => same.contents separate mem,
    fun _ mem => same.capacity mem⟩

theorem Becomes.trans {s'' : Store} {items items' : List Byte} (first : Becomes queues s s' q items)
    (second : Becomes queues s' s'' q items') : Becomes queues s s'' q items' :=
  ⟨second.separate, second.here, fun r mem ne => (second.elsewhere r mem ne).trans (first.elsewhere r mem ne),
    fun r mem => (second.capacity r mem).trans (first.capacity r mem)⟩

theorem isEmpty_iff (separate : Separate queues s) (mem : q ∈ queues) :
    (s.fifo q).isEmpty = true ↔ s.contents q = [] :=
  ByteFifo.isEmpty_iff (separate.wf q mem) s.mem

theorem isFull_iff (separate : Separate queues s) (mem : q ∈ queues) :
    (s.fifo q).isFull = true ↔ (s.contents q).length = s.capacity q :=
  ByteFifo.isFull_iff (separate.wf q mem) s.mem

theorem length_le (separate : Separate queues s) (mem : q ∈ queues) : (s.contents q).length ≤ s.capacity q := by
  rw [Store.contents, ByteFifo.contents_length]
  exact ByteFifo.length_le (separate.wf q mem)

/-- Moving the pointers of one queue within its block keeps the blocks apart. -/
theorem Separate.update (separate : Separate queues s) {fifo : ByteFifo} (wf : fifo.WF)
    (begin : fifo.begin = (s.fifo q).begin) (end_ : fifo.end_ = (s.fifo q).end_) (mem : Memory) :
    Separate queues ⟨mem, Function.update s.fifo q fifo⟩ := by
  have bounds : ∀ r, (Function.update s.fifo q fifo r).begin = (s.fifo r).begin ∧
      (Function.update s.fifo q fifo r).end_ = (s.fifo r).end_ := by
    intro r
    by_cases here : r = q
    · subst here
      simp [begin, end_]
    · simp [Function.update_of_ne here]
  constructor
  · intro r mem'
    by_cases here : r = q
    · subst here
      simpa using wf
    · simpa [Function.update_of_ne here] using separate.wf r mem'
  · intro r mem' t mem'' ne
    simp only [bounds]
    exact separate.apart r mem' t mem'' ne

theorem capacity_update {fifo : ByteFifo} (begin : fifo.begin = (s.fifo q).begin)
    (end_ : fifo.end_ = (s.fifo q).end_) (mem : Memory) (r : FifoRef) :
    Store.capacity ⟨mem, Function.update s.fifo q fifo⟩ r = s.capacity r := by
  by_cases here : r = q
  · subst here
    simp [Store.capacity, ByteFifo.capacity, begin, end_]
  · simp [Store.capacity, Function.update_of_ne here]

theorem push_accepted (room : (s.fifo q).isFull = false) (data : Byte) : (s.push q data).1 = true := by
  rw [push, ByteFifo.push_room room]

/-- A push appends to a well-formed queue with room, whatever the others are. -/
theorem push_contents (wf : (s.fifo q).WF) (room : (s.fifo q).isFull = false) (data : Byte) :
    (s.push q data).2.contents q = s.contents q ++ [data] := by
  have appended : (s.fifo q).pushed.contents (s.mem.store (s.fifo q).last data) = (s.fifo q).contents s.mem ++ [data] :=
    ByteFifo.pushed_contents wf room data
  rw [push, ByteFifo.push_room room]
  simpa [contents] using appended

/-- A byte pushed into a queue with room. -/
theorem push_room (separate : Separate queues s) (mem : q ∈ queues) (room : (s.fifo q).isFull = false) (data : Byte) :
    Becomes queues s (s.push q data).2 q (s.contents q ++ [data]) := by
  have wf := separate.wf q mem
  refine ⟨?_, push_contents wf room data, ?_, ?_⟩ <;> rw [push, ByteFifo.push_room room]
  · exact separate.update (ByteFifo.pushed_wf wf) rfl rfl _
  · intro r mem' ne
    have apart := separate.apart q mem r mem' ne.symm
    simp only [contents, Function.update_of_ne ne]
    apply ByteFifo.contents_congr (separate.wf r mem')
    intro a low high
    refine Function.update_of_ne ?_ _ _
    have := wf.lastLow
    have := wf.lastHigh
    omega
  · exact fun r _ => capacity_update ByteFifo.pushed_begin ByteFifo.pushed_end _ r

theorem push_full (full : (s.fifo q).isFull = true) (data : Byte) : s.push q data = (false, s) := by
  rw [push, ByteFifo.push_full full]
  simp

theorem pull_empty (empty : (s.fifo q).isEmpty = true) (data : Byte) : s.pull q data = (false, data, s) := by
  rw [pull, ByteFifo.pull_empty empty]
  simp

theorem pull_delivered (held : (s.fifo q).isEmpty = false) (data : Byte) : (s.pull q data).1 = true := by
  rw [pull, ByteFifo.pull_held held]

/-- A pull moves the pointers of its queue whatever the memory holds. -/
theorem pull_fifo (held : (s.fifo q).isEmpty = false) (data : Byte) :
    (s.pull q data).2.2.fifo q = (s.fifo q).pulled := by
  rw [pull, ByteFifo.pull_held held]
  exact Function.update_self _ _ _

/-- The oldest byte pulled from a queue that holds some. -/
theorem pull_held (separate : Separate queues s) (mem : q ∈ queues) (held : (s.fifo q).isEmpty = false) (data : Byte) :
    ∃ rest, s.contents q = (s.pull q data).2.1 :: rest ∧ Becomes queues s (s.pull q data).2.2 q rest := by
  have wf := separate.wf q mem
  have present : (s.fifo q).first ≠ NULL := by simpa [ByteFifo.isEmpty] using held
  rw [pull, ByteFifo.pull_held held]
  dsimp only
  refine ⟨_, ByteFifo.pulled_contents wf present s.mem, separate.update (ByteFifo.pulled_wf wf present) rfl rfl _,
    ?_, ?_, fun r _ => capacity_update ByteFifo.pulled_begin ByteFifo.pulled_end _ r⟩
  · simp [contents]
  · intro r mem' ne
    simp [contents, Function.update_of_ne ne]

end Store

end Leon3Bsp
