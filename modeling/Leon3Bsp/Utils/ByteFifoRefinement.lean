import Leon3Bsp.Lib.BoundedQueue
import Leon3Bsp.Lib.Transducer
import Leon3Bsp.Utils.ByteFifoContents

/-!
# The byte queue refines a bounded queue

The operations of a byte queue on a block of `n` bytes are those of
`BoundedQueue Byte n` on its contents, results and queries included, in every
sequence of calls from either initialiser.
-/

namespace Leon3Bsp.ByteFifo
set_option autoImplicit false
open BoundedQueue (Call Observation)

/-- What a call returned and what the queries answer after it. -/
def observe (result : Option Bool) (data : Option Byte) (fifo : ByteFifo) : Observation Byte :=
  ⟨result, data, fifo.isEmpty, fifo.isFull, fifo.getCount.toNat⟩

/-- One call on a queue and the memory its block lies in. -/
def step (s : ByteFifo × Memory) : Call Byte → Observation Byte × (ByteFifo × Memory)
  | .clear => (observe none none s.1.clear, (s.1.clear, s.2))
  | .push a => (observe (s.1.push s.2 a).1 none (s.1.push s.2 a).2.1, (s.1.push s.2 a).2)
  | .pull data =>
    (observe (s.1.pull s.2 data).1 (s.1.pull s.2 data).2.1 (s.1.pull s.2 data).2.2, ((s.1.pull s.2 data).2.2, s.2))

/-- The addresses a call reads or writes through a pointer of the queue. -/
def dereferenced (fifo : ByteFifo) : Call Byte → List Nat
  | .clear => []
  | .push _ => if fifo.isFull then [] else [fifo.last]
  | .pull _ => if fifo.isEmpty then [] else [fifo.first]

/-- The queue has the block `[block, block + n)`, holds the items of `q`, and
the memory outside the block is that of `before`. -/
structure Represents (block n : Nat) (before : Memory) (s : ByteFifo × Memory) (q : BoundedQueue Byte n) : Prop where
  wf : s.1.WF
  begin : s.1.begin = block
  end_ : s.1.end_ = block + n
  items : s.1.contents s.2 = q.items
  outside : ∀ a, a < block ∨ block + n ≤ a → s.2 a = before a

variable {block n : Nat} {before : Memory} {s : ByteFifo × Memory} {q : BoundedQueue Byte n}

theorem Represents.capacity (r : Represents block n before s q) : s.1.capacity = n := by
  rw [ByteFifo.capacity, r.begin, r.end_]
  omega

theorem Represents.length (r : Represents block n before s q) : s.1.length = q.items.length := by
  rw [← r.items, contents_length]

/-- The queries answer alike. -/
theorem Represents.observe (r : Represents block n before s q) (small : n ≤ PTRDIFF_MAX) (result : Option Bool)
    (data : Option Byte) : ByteFifo.observe result data s.1 = BoundedQueue.observe result data q := by
  unfold ByteFifo.observe BoundedQueue.observe BoundedQueue.isEmpty BoundedQueue.isFull
  rw [isEmpty_eq r.wf s.2, isFull_eq r.wf s.2, r.items, r.capacity,
    getCount_toNat r.wf (by rw [r.capacity]; exact small), r.length]

theorem Represents.clear (r : Represents block n before s q) :
    Represents block n before (s.1.clear, s.2) BoundedQueue.empty where
  wf := ⟨r.wf.notNull, r.wf.room, Nat.le_refl _, r.wf.room, fun held => absurd rfl held⟩
  begin := r.begin
  end_ := r.end_
  items := by rw [contents, length_empty rfl]; rfl
  outside := r.outside

theorem Represents.push (r : Represents block n before s q) (a : Byte) :
    (s.1.push s.2 a).1 = (q.push a).1 ∧ Represents block n before (s.1.push s.2 a).2 (q.push a).2 := by
  have lengths := r.length
  have cap := r.capacity
  cases full : s.1.isFull with
  | true =>
    have count := (isFull_iff r.wf s.2).1 full
    rw [contents_length] at count
    rw [push_full full, BoundedQueue.push_refused (by omega)]
    exact ⟨rfl, r⟩
  | false =>
    have short := length_lt r.wf full
    obtain ⟨accepted, appended⟩ := BoundedQueue.push_accepted (q := q) (by omega) a
    have low := r.wf.lastLow
    have high := r.wf.lastHigh
    rw [r.begin] at low
    rw [r.end_] at high
    rw [push_room full, accepted]
    refine ⟨rfl, pushed_wf r.wf, r.begin, r.end_, ?_, fun x out => ?_⟩
    · rw [pushed_contents r.wf full, r.items, appended]
    · show Function.update s.2 s.1.last a x = before x
      rw [Function.update_of_ne (by omega)]
      exact r.outside x out

theorem Represents.pull (r : Represents block n before s q) (data : Byte) :
    (s.1.pull s.2 data).1 = (q.pull data).1 ∧ (s.1.pull s.2 data).2.1 = (q.pull data).2.1 ∧
      Represents block n before ((s.1.pull s.2 data).2.2, s.2) (q.pull data).2.2 := by
  cases empty : s.1.isEmpty with
  | true =>
    have none := (isEmpty_iff r.wf s.2).1 empty
    rw [pull_empty empty, BoundedQueue.pull_empty (r.items ▸ none)]
    exact ⟨rfl, rfl, r⟩
  | false =>
    have held : s.1.first ≠ NULL := by simpa [isEmpty] using empty
    have front := pulled_contents r.wf held s.2
    rw [r.items] at front
    obtain ⟨accepted, byte, rest⟩ := BoundedQueue.pull_cons front data
    rw [pull_held empty, accepted, byte]
    exact ⟨rfl, rfl, pulled_wf r.wf held, r.begin, r.end_, rest.symm, r.outside⟩

theorem step_simulates (block : Nat) {n : Nat} (small : n ≤ PTRDIFF_MAX) (before : Memory) :
    Transducer.Simulates (Represents block n before) step BoundedQueue.step := by
  rintro s q (_ | a | data) r
  · have next := r.clear
    exact ⟨next.observe small none none, next⟩
  · obtain ⟨result, next⟩ := r.push a
    exact ⟨(next.observe small _ none).trans (by rw [result]; rfl), next⟩
  · obtain ⟨result, byte, next⟩ := r.pull data
    exact ⟨(next.observe small _ _).trans (by rw [result, byte]; rfl), next⟩

theorem Represents.init (notNull : block ≠ NULL) (pos : 0 < n) (fifo : ByteFifo) (mem : Memory) :
    Represents block n mem (fifo.init block n, mem) BoundedQueue.empty := by
  have apart := Nat.pos_of_ne_zero notNull
  rw [ByteFifo.init, if_neg (by omega)]
  refine ⟨⟨apart, ?_, Nat.le_refl _, ?_, fun held => absurd rfl held⟩, rfl, rfl, ?_, fun _ _ => rfl⟩
  · show block < block + n
    omega
  · show block < block + n
    omega
  · rw [contents, length_empty rfl]
    rfl

/-- The bytes of a block, in order. -/
def blockBytes (mem : Memory) (block n : Nat) : BoundedQueue Byte n :=
  ⟨(List.range n).map fun i => mem (block + i), by simp⟩

theorem Represents.initFromBytes (notNull : block ≠ NULL) (pos : 0 < n) (fifo : ByteFifo) (mem : Memory) :
    Represents block n mem (fifo.initFromBytes block n, mem) (blockBytes mem block n) := by
  have apart := Nat.pos_of_ne_zero notNull
  rw [ByteFifo.initFromBytes, if_neg (by omega)]
  refine ⟨⟨apart, ?_, Nat.le_refl _, ?_, fun _ => ⟨Nat.le_refl _, ?_⟩⟩, rfl, rfl, ?_, fun _ _ => rfl⟩
  · show block < block + n
    omega
  · show block < block + n
    omega
  · show block < block + n
    omega
  · have full : Circular.span block (block + n) block block = n := by simp [Circular.span]
    simp only [contents, ByteFifo.length, if_neg notNull, full]
    exact Circular.cells_consecutive (Nat.le_refl _) (by omega) (Nat.le_refl _)

/-- Every pointer of the queue that a call may follow stays in the block. -/
structure InBlock (block n : Nat) (fifo : ByteFifo) : Prop where
  last : block ≤ fifo.last ∧ fifo.last < block + n
  first : fifo.first = NULL ∨ block ≤ fifo.first ∧ fifo.first < block + n
  access : ∀ call, ∀ a ∈ fifo.dereferenced call, block ≤ a ∧ a < block + n

theorem Represents.inBlock (r : Represents block n before s q) : InBlock block n s.1 := by
  have last : block ≤ s.1.last ∧ s.1.last < block + n := by
    rw [← r.end_, ← r.begin]
    exact ⟨r.wf.lastLow, r.wf.lastHigh⟩
  have first : s.1.first ≠ NULL → block ≤ s.1.first ∧ s.1.first < block + n := by
    rw [← r.end_, ← r.begin]
    exact r.wf.firstIn
  refine ⟨last, or_iff_not_imp_left.2 first, ?_⟩
  rintro (_ | _ | _) a member
  · cases member
  · simp only [dereferenced] at member
    split at member
    · cases member
    · rw [List.mem_singleton.1 member]
      exact last
  · simp only [dereferenced] at member
    split at member
    · cases member
    · rename_i held
      rw [List.mem_singleton.1 member]
      exact first (by simpa [isEmpty] using held)

/-- A run of the code against a run of the bounded queue it starts as: the same
observations, the same contents, pointers in the block after every call, other
memory untouched. -/
structure RefinesFrom (block n : Nat) (fifo : ByteFifo) (mem : Memory) (q : BoundedQueue Byte n)
    (calls : List (Call Byte)) : Prop where
  observations : (Transducer.run step (fifo, mem) calls).1 = (Transducer.run BoundedQueue.step q calls).1
  contents : (Transducer.run step (fifo, mem) calls).2.1.contents (Transducer.run step (fifo, mem) calls).2.2 =
    (Transducer.run BoundedQueue.step q calls).2.items
  inBlock : ∀ k, InBlock block n (Transducer.run step (fifo, mem) (calls.take k)).2.1
  outside : ∀ a, a < block ∨ block + n ≤ a → (Transducer.run step (fifo, mem) calls).2.2 a = mem a

theorem Represents.refinesFrom {fifo : ByteFifo} {mem : Memory} (small : n ≤ PTRDIFF_MAX)
    (r : Represents block n mem (fifo, mem) q) (calls : List (Call Byte)) : RefinesFrom block n fifo mem q calls := by
  obtain ⟨observations, final⟩ := (step_simulates block small mem).run r calls
  have along : ∀ k, InBlock block n (Transducer.run step (fifo, mem) (calls.take k)).2.1 := fun k =>
    ((step_simulates block small mem).run r (calls.take k)).2.inBlock
  exact ⟨observations, final.items, along, final.outside⟩

/-- **The byte queue is a bounded queue**, from `ByteFifo_init` and from
`ByteFifo_initFromBytes`, over any sequence of calls. -/
theorem refines_bounded_queue {block n : Nat} (notNull : block ≠ NULL) (pos : 0 < n) (small : n ≤ PTRDIFF_MAX)
    (fifo : ByteFifo) (mem : Memory) (calls : List (Call Byte)) :
    RefinesFrom block n (fifo.init block n) mem BoundedQueue.empty calls ∧
      RefinesFrom block n (fifo.initFromBytes block n) mem (blockBytes mem block n) calls :=
  ⟨(Represents.init notNull pos fifo mem).refinesFrom small calls,
    (Represents.initFromBytes notNull pos fifo mem).refinesFrom small calls⟩

/-- A block of one byte fills, refuses, empties and refuses again. -/
theorem refines_bounded_queue_one :
    (Transducer.run step (init ⟨0, 0, 0, 0⟩ 0x40000000 1, fun _ => 0) [.push 7, .push 8, .pull 0, .pull 9]).1 =
      [⟨some true, none, false, true, 1⟩, ⟨some false, none, false, true, 1⟩, ⟨some true, some 7, true, false, 0⟩,
        ⟨some false, some 9, true, false, 0⟩] :=
  (refines_bounded_queue (by decide : 0x40000000 ≠ NULL) (by decide : 0 < 1) (by decide) ⟨0, 0, 0, 0⟩ (fun _ => 0)
    [.push 7, .push 8, .pull 0, .pull 9]).1.observations.trans rfl

end Leon3Bsp.ByteFifo
