import Leon3Bsp.Utils.Store
import Leon3Bsp.Utils.TwoUsers

/-!
# Many queues in one memory

The callers of the library keep several byte queues, each on a block of its own.
However their calls are interleaved, each queue answers as a bounded queue that
is alone in the world, and no byte outside the blocks is written.
-/

namespace Leon3Bsp.Store
set_option autoImplicit false
open BoundedQueue (Call Observation)
open ByteFifo (Represents)

/-- One call on one of the queues. -/
def step (s : Store) (call : FifoRef × Call Byte) : Observation Byte × Store :=
  let r := ByteFifo.step (s.fifo call.1, s.mem) call.2
  (r.1, ⟨r.2.2, Function.update s.fifo call.1 r.2.1⟩)

/-- `Store.step` is made of the store's operations. -/
theorem step_push (s : Store) (q : FifoRef) (data : Byte) : (s.step (q, .push data)).2 = (s.push q data).2 := rfl

theorem step_pull (s : Store) (q : FifoRef) (data : Byte) : (s.step (q, .pull data)).2 = (s.pull q data).2.2 := rfl

/-- Queue `q` holds the items of `held`, all queues stand on the blocks they had
in `start`, and beside the blocks the memory is that of `start`. -/
structure Holds (queues : Set FifoRef) (start : Store) (q : FifoRef) (s : Store)
    (held : BoundedQueue Byte (start.capacity q)) : Prop where
  separate : Separate queues s
  begin : ∀ r, (s.fifo r).begin = (start.fifo r).begin
  end_ : ∀ r, (s.fifo r).end_ = (start.fifo r).end_
  represents : Represents (start.fifo q).begin (start.capacity q) s.mem (s.fifo q, s.mem) held
  outside : ∀ a, (∀ r ∈ queues, a < (start.fifo r).begin ∨ (start.fifo r).end_ ≤ a) → s.mem a = start.mem a

section Step

variable {queues : Set FifoRef} {start s : Store} {q r : FifoRef} {held : BoundedQueue Byte (start.capacity q)}

/-- What a call on `r` does to the store: its block stays, and only bytes in it are written. -/
structure Moved (queues : Set FifoRef) (r : FifoRef) (s s' : Store) : Prop where
  separate : Separate queues s'
  begin : ∀ t, (s'.fifo t).begin = (s.fifo t).begin
  end_ : ∀ t, (s'.fifo t).end_ = (s.fifo t).end_
  elsewhere : ∀ t, t ≠ r → s'.fifo t = s.fifo t
  mem : ∀ a, a < (s.fifo r).begin ∨ (s.fifo r).end_ ≤ a → s'.mem a = s.mem a

theorem moved_step (separate : Separate queues s) (member : r ∈ queues) (small : s.capacity r ≤ PTRDIFF_MAX) (call : Call Byte) :
    Moved queues r s (s.step (r, call)).2 := by
  have wf := separate.wf r member
  have simulates := ByteFifo.step_simulates (s.fifo r).begin small s.mem
  obtain ⟨-, next⟩ := simulates (s.fifo r, s.mem) _ call (ByteFifo.represents_queue wf s.mem)
  have block := ByteFifo.begin_add_capacity wf
  have begin : (ByteFifo.step (s.fifo r, s.mem) call).2.1.begin = (s.fifo r).begin := next.begin
  have end_ : (ByteFifo.step (s.fifo r, s.mem) call).2.1.end_ = (s.fifo r).end_ := next.end_.trans block
  refine ⟨separate.update next.wf begin end_ _, fun t => ?_, fun t => ?_, fun t apart => Function.update_of_ne apart _ _,
    fun a out => ?_⟩
  · by_cases here : t = r
    · subst here
      exact (congrArg ByteFifo.begin (Function.update_self _ _ _)).trans begin
    · exact congrArg ByteFifo.begin (Function.update_of_ne here _ _)
  · by_cases here : t = r
    · subst here
      exact (congrArg ByteFifo.end_ (Function.update_self _ _ _)).trans end_
    · exact congrArg ByteFifo.end_ (Function.update_of_ne here _ _)
  · rw [← block] at out
    exact next.outside a out

theorem Holds.capacity (holds : Holds queues start q s held) (r : FifoRef) : s.capacity r = start.capacity r := by
  rw [Store.capacity, ByteFifo.capacity, holds.begin, holds.end_]
  rfl

theorem Holds.moved {s' : Store} {held' : BoundedQueue Byte (start.capacity q)} (holds : Holds queues start q s held)
    (member : r ∈ queues) (moved : Moved queues r s s')
    (represents : Represents (start.fifo q).begin (start.capacity q) s'.mem (s'.fifo q, s'.mem) held') :
    Holds queues start q s' held' := by
  refine ⟨moved.separate, fun t => (moved.begin t).trans (holds.begin t), fun t => (moved.end_ t).trans (holds.end_ t),
    represents, fun a out => ?_⟩
  have beside : a < (s.fifo r).begin ∨ (s.fifo r).end_ ≤ a := by
    rw [holds.begin, holds.end_]
    exact out r member
  rw [moved.mem a beside, holds.outside a out]

/-- A call on the queue itself is one of the bounded queue. -/
theorem Holds.own (holds : Holds queues start q s held) (member : q ∈ queues) (small : start.capacity q ≤ PTRDIFF_MAX)
    (call : Call Byte) : (s.step (q, call)).1 = (held.step call).1 ∧
      Holds queues start q (s.step (q, call)).2 (held.step call).2 := by
  obtain ⟨same, next⟩ := ByteFifo.step_simulates _ small s.mem _ _ call holds.represents
  have moved := moved_step holds.separate member (holds.capacity q ▸ small) call
  refine ⟨same, holds.moved member moved ?_⟩
  have fifo : (s.step (q, call)).2.fifo q = (ByteFifo.step (s.fifo q, s.mem) call).2.1 := Function.update_self _ _ _
  rw [fifo]
  exact ⟨next.wf, next.begin, next.end_, next.items, fun _ _ => rfl⟩

/-- A call on another queue leaves it as it is. -/
theorem Holds.other (holds : Holds queues start q s held) (member : q ∈ queues) (member' : r ∈ queues) (apart : r ≠ q)
    (small : start.capacity r ≤ PTRDIFF_MAX) (call : Call Byte) : Holds queues start q (s.step (r, call)).2 held := by
  have moved := moved_step holds.separate member' (holds.capacity r ▸ small) call
  refine holds.moved member' moved ?_
  obtain ⟨wf, begin, end_, items, -⟩ := holds.represents
  have blocks := holds.separate.apart r member' q member apart
  rw [moved.elsewhere q apart.symm]
  refine ⟨wf, begin, end_, ?_, fun _ _ => rfl⟩
  rw [← items]
  refine ByteFifo.contents_congr wf fun a low high => moved.mem a ?_
  have low' : (s.fifo q).begin ≤ a := low
  have high' : a < (s.fifo q).end_ := high
  omega

end Step

/-- `ByteFifo_init` on disjoint blocks. -/
theorem separate_init {queues : Set FifoRef} {mem : Memory} {fifo : FifoRef → ByteFifo} {block size : FifoRef → Nat}
    (notNull : ∀ q ∈ queues, block q ≠ NULL) (pos : ∀ q ∈ queues, 0 < size q)
    (disjoint : ∀ q ∈ queues, ∀ r ∈ queues, q ≠ r → block q + size q ≤ block r ∨ block r + size r ≤ block q) :
    Separate queues ⟨mem, fun q => (fifo q).init (block q) (size q)⟩ := by
  have initial (q : FifoRef) (member : q ∈ queues) := Represents.init (notNull q member) (pos q member) (fifo q) mem
  refine ⟨fun q member => (initial q member).wf, fun q member r member' apart => ?_⟩
  have ends := (initial q member).end_
  have ends' := (initial r member').end_
  have begins := (initial q member).begin
  have begins' := (initial r member').begin
  rw [ends, ends', begins, begins']
  exact disjoint q member r member' apart

/-- **Each queue for itself**: for queues on disjoint blocks and any interleaving
of calls on them, the answers to the calls on each queue, results, bytes and
queries, are those of a bounded queue that gets these calls alone, its contents
are the items of that queue, and no byte outside the blocks changes. -/
theorem queues_independent {queues : Set FifoRef} {s : Store} (separate : Separate queues s)
    (small : ∀ q ∈ queues, s.capacity q ≤ PTRDIFF_MAX) {calls : List (FifoRef × Call Byte)}
    (among : ∀ call ∈ calls, call.1 ∈ queues) {q : FifoRef} (member : q ∈ queues) :
    let final := Transducer.run step s calls
    let alone := Transducer.run BoundedQueue.step (ByteFifo.queue (separate.wf q member) s.mem) (Transducer.inputsOf q calls)
    Transducer.outputsOf q calls final.1 = alone.1 ∧ final.2.contents q = alone.2.items ∧ Separate queues final.2 ∧
      ∀ a, (∀ r ∈ queues, a < (s.fifo r).begin ∨ (s.fifo r).end_ ≤ a) → final.2.mem a = s.mem a := by
  have wf := separate.wf q member
  have holds : Holds queues s q s (ByteFifo.queue wf s.mem) :=
    ⟨separate, fun _ => rfl, fun _ => rfl, ByteFifo.represents_queue wf s.mem, fun _ _ => rfl⟩
  have own (s' : Store) (held : BoundedQueue Byte (s.capacity q)) (call : Call Byte) (holds : Holds queues s q s' held) :=
    holds.own member (small q member) call
  have other (s' : Store) (held : BoundedQueue Byte (s.capacity q)) (r : FifoRef) (call : Call Byte) (apart : r ≠ q)
      (member' : r ∈ queues) (holds : Holds queues s q s' held) := holds.other member member' apart (small r member') call
  obtain ⟨outputs, final⟩ := Transducer.run_among among own other holds
  exact ⟨outputs, final.represents.items, final.separate, final.outside⟩

/-- Two queues of two bytes side by side. -/
theorem queues_independent_two :
    let s : Store := ⟨fun _ => 0, fun q => ByteFifo.init ⟨0, 0, 0, 0⟩ (16 + 2 * q) 2⟩
    let calls : List (FifoRef × Call Byte) := [(0, .push 7), (1, .push 9), (1, .push 8), (0, .pull 0), (1, .pull 0)]
    Transducer.outputsOf 0 calls (Transducer.run step s calls).1 =
      [⟨some true, none, false, false, 1⟩, ⟨some true, some 7, true, false, 0⟩] := by
  intro s calls
  have separate : Separate {0, 1} s := by
    refine separate_init (fun q _ => ?_) (fun q _ => by decide) fun q _ r _ apart => ?_
    · unfold NULL
      omega
    · rcases Nat.lt_or_gt_of_ne apart with below | above
      · omega
      · omega
  have small : ∀ q ∈ ({0, 1} : Set FifoRef), s.capacity q ≤ PTRDIFF_MAX := by
    rintro q (rfl | rfl) <;> decide
  have first : (0 : FifoRef) ∈ ({0, 1} : Set FifoRef) := Or.inl rfl
  have second : (1 : FifoRef) ∈ ({0, 1} : Set FifoRef) := Or.inr rfl
  have among : ∀ call ∈ calls, call.1 ∈ ({0, 1} : Set FifoRef) := by
    simp only [calls, List.forall_mem_cons]
    exact ⟨first, second, second, first, second, fun _ none => (List.not_mem_nil none).elim⟩
  obtain ⟨outputs, -⟩ := queues_independent separate small among first
  exact outputs.trans rfl

end Leon3Bsp.Store
