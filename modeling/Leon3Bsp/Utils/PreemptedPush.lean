import Leon3Bsp.Lib.Preemption
import Leon3Bsp.Utils.TwoUsers

/-!
# `ByteFifo_push` preempted by the transmission interrupt

`ByteFifo_push` as its sequence of statements, each reading the shared pointers
afresh, with the interrupt's `pull` guarded by `isEmpty` run between two of them.
-/

namespace Leon3Bsp.ByteFifo
set_option autoImplicit false
open Preemption (preempted)

/-- An activation of `ByteFifo_push`: its result once the call has returned. -/
structure PushFrame where
  result : Option Bool

def PushFrame.start : PushFrame :=
  ⟨none⟩

def PushFrame.returned (frame : PushFrame) : Bool :=
  frame.result.isSome

/-- `if(ByteFifo_isFull(fifo)) return false;` -/
def pushTest (s : Shared × PushFrame) : Shared × PushFrame :=
  (s.1, if s.1.1.isFull then { s.2 with result := some false } else s.2)

/-- The statements of `ByteFifo_push` after its test. -/
def pushBody (data : Byte) : List (Shared × PushFrame → Shared × PushFrame) :=
  [ -- if(fifo->first == NULL) fifo->first = fifo->last;
    fun s => ((if s.1.1.first = NULL then { s.1.1 with first := s.1.1.last } else s.1.1, s.1.2), s.2),
    -- *fifo->last = data;
    fun s => ((s.1.1, s.1.2.store s.1.1.last data), s.2),
    -- fifo->last++;
    fun s => (({ s.1.1 with last := s.1.1.last + 1 }, s.1.2), s.2),
    -- if(fifo->last == fifo->end) fifo->last = fifo->begin;
    fun s => ((if s.1.1.last = s.1.1.end_ then { s.1.1 with last := s.1.1.begin } else s.1.1, s.1.2), s.2),
    -- return true;
    fun s => (s.1, { s.2 with result := some true }) ]

/-- `ByteFifo_push`, statement by statement. -/
def pushStatements (data : Byte) : List (Shared × PushFrame → Shared × PushFrame) :=
  (pushTest :: pushBody data).map (Preemption.guarded PushFrame.returned)

/-- The use of the transmission queue in `Uart_handleTx`: whether a byte was
pulled, and `buf`. -/
def send (shared : Shared) : (Bool × Byte) × Shared :=
  if shared.1.isEmpty then ((false, 0), shared)
  else (((shared.1.pull shared.2 0).1, (shared.1.pull shared.2 0).2.1), ((shared.1.pull shared.2 0).2.2, shared.2))

/-- What a push leaves: the queue and the memory, the result. -/
def PushFrame.left (s : Shared × PushFrame) : Shared × Option Bool :=
  (s.1, s.2.result)

/-- `ByteFifo_push(fifo, data)` with the interrupt's pull run once `k`
statements have run: whether a byte was pulled and which, and what the push leaves. -/
def preemptedPush (fifo : ByteFifo) (mem : Memory) (data : Byte) (k : Nat) : (Bool × Byte) × (Shared × Option Bool) :=
  let final := preempted (pushStatements data) send k ((fifo, mem), .start)
  (final.1, PushFrame.left final.2)

variable {fifo : ByteFifo} {mem : Memory}

/-- `if(fifo->first == NULL) fifo->first = fifo->last;` -/
def claimFirst (fifo : ByteFifo) : ByteFifo :=
  if fifo.first = NULL then { fifo with first := fifo.last } else fifo

/-- `if(fifo->last == fifo->end) fifo->last = fifo->begin;` -/
def wrapLast (fifo : ByteFifo) : ByteFifo :=
  if fifo.last = fifo.end_ then { fifo with last := fifo.begin } else fifo

/-- `fifo->last++` and the wrap that follows it. -/
def advancedLast (fifo : ByteFifo) : ByteFifo :=
  { fifo with last := Circular.next fifo.begin fifo.end_ fifo.last }

theorem wrapLast_increment (f : ByteFifo) : wrapLast { f with last := f.last + 1 } = f.advancedLast := by
  unfold wrapLast advancedLast Circular.next
  split <;> rfl

theorem claimFirst_eq (f : ByteFifo) : claimFirst f = { f with first := f.start } := by
  unfold claimFirst start
  split <;> rfl

theorem pushed_eq : fifo.pushed = (claimFirst fifo).advancedLast := by
  rw [claimFirst_eq]
  rfl

/-! The rest of a push from one of its statements on. -/

theorem left_wrapLast (f : ByteFifo) (mem : Memory) (data : Byte) :
    PushFrame.left (Preemption.run ((pushStatements data).drop 4) ((f, mem), .start)) =
      ((wrapLast f, mem), some true) := rfl

theorem left_incrementLast (f : ByteFifo) (mem : Memory) (data : Byte) :
    PushFrame.left (Preemption.run ((pushStatements data).drop 3) ((f, mem), .start)) =
      ((f.advancedLast, mem), some true) := by
  rw [← wrapLast_increment]
  exact left_wrapLast { f with last := f.last + 1 } mem data

theorem left_store (f : ByteFifo) (mem : Memory) (data : Byte) :
    PushFrame.left (Preemption.run ((pushStatements data).drop 2) ((f, mem), .start)) =
      ((f.advancedLast, mem.store f.last data), some true) :=
  left_incrementLast f (mem.store f.last data) data

theorem left_claim (f : ByteFifo) (mem : Memory) (data : Byte) :
    PushFrame.left (Preemption.run ((pushStatements data).drop 1) ((f, mem), .start)) =
      ((f.pushed, mem.store f.last data), some true) := by
  have last : (claimFirst f).last = f.last := by rw [claimFirst_eq]
  rw [pushed_eq, ← last]
  exact left_store (claimFirst f) mem data

theorem guarded_test_full (full : fifo.isFull = true) :
    Preemption.guarded PushFrame.returned pushTest ((fifo, mem), .start) = ((fifo, mem), ⟨some false⟩) := by
  simp [Preemption.guarded, PushFrame.returned, PushFrame.start, pushTest, full]

theorem guarded_test_room (room : fifo.isFull = false) :
    Preemption.guarded PushFrame.returned pushTest ((fifo, mem), .start) = ((fifo, mem), .start) := by
  simp [Preemption.guarded, PushFrame.returned, PushFrame.start, pushTest, room]

/-- Uninterrupted, the statements are `push`. -/
theorem left_push (fifo : ByteFifo) (mem : Memory) (data : Byte) :
    PushFrame.left (Preemption.run (pushStatements data) ((fifo, mem), .start)) =
      ((fifo.push mem data).2, some (fifo.push mem data).1) := by
  rw [pushStatements, List.map_cons, Preemption.run_cons]
  cases full : fifo.isFull with
  | true =>
    rw [guarded_test_full full, Preemption.run_returned rfl, push_full full]
    rfl
  | false =>
    rw [guarded_test_room full, push_room full]
    exact left_claim fifo mem data

/-- The call returns from its test on a full queue. -/
theorem push_returned (full : fifo.isFull = true) (mem : Memory) (data : Byte) (k : Nat) :
    preemptedPush fifo mem data (k + 1) = ((send (fifo, mem)).1, (send (fifo, mem)).2, some false) := by
  have done : PushFrame.returned ⟨some false⟩ = true := rfl
  simp only [preemptedPush, pushStatements, List.map_cons, Preemption.preempted_succ, guarded_test_full full,
    Preemption.preempted_returned done]
  rfl

/-- A queue with room passes the test. -/
theorem preempted_room (room : fifo.isFull = false) (data : Byte) (k : Nat) :
    preempted (pushStatements data) send (k + 1) ((fifo, mem), .start) =
      preempted ((pushStatements data).drop 1) send k ((fifo, mem), .start) := by
  simp only [pushStatements, List.map_cons, Preemption.preempted_succ, guarded_test_room room, List.drop_succ_cons,
    List.drop_zero]

/-! The interrupt before each of the statements that follow the test. -/

theorem push_before_claim (room : fifo.isFull = false) (mem : Memory) (data : Byte) :
    preemptedPush fifo mem data 1 =
      let s := send (fifo, mem)
      (s.1, (s.2.1.pushed, s.2.2.store s.2.1.last data), some true) := by
  rw [preemptedPush, preempted_room room]
  exact congrArg (Prod.mk _) (left_claim _ _ _)

theorem push_before_store (room : fifo.isFull = false) (mem : Memory) (data : Byte) :
    preemptedPush fifo mem data 2 =
      let s := send (claimFirst fifo, mem)
      (s.1, (s.2.1.advancedLast, s.2.2.store s.2.1.last data), some true) := by
  rw [preemptedPush, preempted_room room]
  exact congrArg (Prod.mk _) (left_store _ _ _)

theorem push_before_increment (room : fifo.isFull = false) (mem : Memory) (data : Byte) :
    preemptedPush fifo mem data 3 =
      let s := send (claimFirst fifo, mem.store (claimFirst fifo).last data)
      (s.1, (s.2.1.advancedLast, s.2.2), some true) := by
  rw [preemptedPush, preempted_room room]
  exact congrArg (Prod.mk _) (left_incrementLast _ _ data)

/-- `fifo->last++`. -/
def incrementLast (fifo : ByteFifo) : ByteFifo :=
  { fifo with last := fifo.last + 1 }

@[simp] theorem incrementLast_first : fifo.incrementLast.first = fifo.first := rfl

theorem push_before_wrap (room : fifo.isFull = false) (mem : Memory) (data : Byte) :
    preemptedPush fifo mem data 4 =
      let s := send ((claimFirst fifo).incrementLast, mem.store (claimFirst fifo).last data)
      (s.1, (wrapLast s.2.1, s.2.2), some true) := by
  rw [preemptedPush, preempted_room room]
  exact congrArg (Prod.mk _) (left_wrapLast _ _ data)

theorem push_before_return (room : fifo.isFull = false) (mem : Memory) (data : Byte) (k : Nat) :
    preemptedPush fifo mem data (k + 5) =
      let s := send (fifo.pushed, mem.store (claimFirst fifo).last data)
      (s.1, s.2, some true) := by
  rw [preemptedPush, preempted_room room, pushed_eq, ← wrapLast_increment]
  rcases k with _ | _ | k <;> rfl

/-- The push and the interrupt's pull settled into one of the two orders, and
the queue is well formed again. -/
def PushSettles (wf : fifo.WF) (mem : Memory) (data : Byte) (k : Nat) : Prop :=
  ∃ pulled out shared result, preemptedPush fifo mem data k = ((pulled, out), shared, some result) ∧
    Settles wf mem 0 data result pulled out shared

/-- The fill levels at which the interrupt may come once `k` statements have
run. From the claim of `first` to the increment of `last` an empty queue shows
one byte too early and a queue of one byte is emptied under the push; both are
harmless in a block of one byte, where the queue of one byte is full, and where
the cell already holds the byte. Before the wrap only the end of the block hurts. -/
def PushUndisturbed (fifo : ByteFifo) (mem : Memory) (data : Byte) : Nat → Prop
  | 2 => (fifo.length = 0 → fifo.capacity = 1 ∧ mem fifo.last = data) ∧ (fifo.length = 1 → fifo.capacity = 1)
  | 3 => fifo.length ≤ 1 → fifo.capacity = 1
  | 4 => fifo.length = 0 → fifo.last + 1 ≠ fifo.end_
  | _ => True

theorem pushSettles_iff {wf : fifo.WF} {data : Byte} {k : Nat} {pulled result : Bool} {shared : Shared} {out : Byte}
    (run : preemptedPush fifo mem data k = ((pulled, out), shared, some result)) :
    PushSettles wf mem data k ↔ Settles wf mem 0 data result pulled out shared := by
  constructor
  · rintro ⟨p, o, s, r, same, settles⟩
    rw [run] at same
    obtain ⟨⟨rfl, rfl⟩, rfl, same⟩ : (pulled = p ∧ out = o) ∧ shared = s ∧ some result = some r := by simpa using same
    cases same
    exact settles
  · exact fun settles => ⟨_, _, _, _, run, settles⟩

theorem send_eq (shared : Shared) :
    send shared = (((shared.1.pull shared.2 0).1, (shared.1.pull shared.2 0).2.1),
      ((shared.1.pull shared.2 0).2.2, shared.2)) := by
  cases empty : shared.1.isEmpty with
  | true => rw [send, if_pos empty, pull_empty empty]
  | false => simp [send, empty]

theorem send_held (held : fifo.first ≠ NULL) : send (fifo, mem) = ((true, mem fifo.first), (fifo.pulled, mem)) := by
  rw [send_eq, pull_held (isEmpty_false held)]

theorem send_empty (empty : fifo.first = NULL) : send (fifo, mem) = ((false, 0), (fifo, mem)) := by
  simp [send, isEmpty, empty]

/-- The interrupt before the push begins. -/
theorem push_settles_zero (wf : fifo.WF) (data : Byte) : PushSettles wf mem data 0 := by
  have run : preemptedPush fifo mem data 0 =
      (((fifo.pull mem 0).1, (fifo.pull mem 0).2.1), ((fifo.pull mem 0).2.2.push mem data).2,
        some ((fifo.pull mem 0).2.2.push mem data).1) := by
    rw [preemptedPush, Preemption.preempted_zero, send_eq]
    exact congrArg (Prod.mk _) (left_push _ _ _)
  rw [pushSettles_iff run]
  exact settles_pullThenPush wf mem 0 data

theorem first_ne_null_of_full (wf : fifo.WF) (full : fifo.isFull = true) : fifo.first ≠ NULL := fun empty => by
  simp [isFull_empty wf empty] at full

theorem push_settles_full (wf : fifo.WF) (full : fifo.isFull = true) (data : Byte) (k : Nat) :
    PushSettles wf mem data (k + 1) := by
  have held := first_ne_null_of_full wf full
  have run := push_returned full mem data k
  rw [send_held held] at run
  rw [pushSettles_iff run]
  exact settles_refused wf held full 0 data

theorem push_settles_claim (wf : fifo.WF) (room : fifo.isFull = false) (data : Byte) : PushSettles wf mem data 1 := by
  have run := push_before_claim room mem data
  by_cases empty : fifo.first = NULL
  · rw [send_empty empty] at run
    rw [pushSettles_iff run]
    exact settles_empty wf empty 0 data
  · rw [send_held empty] at run
    rw [pushSettles_iff run]
    exact settles_pulled_first wf empty mem 0 data

theorem claimFirst_held (held : fifo.first ≠ NULL) : claimFirst fifo = fifo := by
  simp [claimFirst, held]

theorem claimFirst_empty (empty : fifo.first = NULL) : claimFirst fifo = { fifo with first := fifo.last } := by
  simp [claimFirst, empty]

theorem next_last_eq_iff (wf : fifo.WF) : Circular.next fifo.begin fifo.end_ fifo.last = fifo.last ↔ fifo.capacity = 1 := by
  have := wf.lastLow
  have := wf.lastHigh
  unfold Circular.next capacity
  split <;> omega

/-- The interrupt empties a queue of one byte under a push that has found it
occupied: the new byte is lost. -/
theorem settles_under_iff (wf : fifo.WF) (held : fifo.first ≠ NULL) (room : fifo.isFull = false) (data : Byte) :
    Settles wf mem 0 data true true (mem fifo.first) (fifo.pulled.advancedLast, mem.store fifo.last data) ↔
      fifo.length ≠ 1 := by
  have meets := next_eq_last wf held
  constructor
  · intro settles one
    refine not_settles_emptied held (length_lt wf room) ?_ settles
    simp [advancedLast, pulled, meets.2 one]
  · intro more
    have apart : Circular.next fifo.begin fifo.end_ fifo.first ≠ fifo.last := fun eq => more (meets.1 eq)
    have both : fifo.pulled.advancedLast = fifo.pushed.pulled := by
      rw [pushed_pulled wf held room]
      simp [advancedLast, pulled, apart]
    rw [both]
    exact settles_accepted wf held room mem 0 data

/-- The interrupt pulls from an empty queue whose `first` is already set: the
queue then shows a full block, unless the block is one byte. -/
theorem settles_claimed_iff (wf : fifo.WF) (empty : fifo.first = NULL) (data out : Byte) :
    Settles wf mem 0 data true true out ((claimFirst fifo).pulled.advancedLast, mem.store fifo.last data) ↔
      fifo.capacity = 1 ∧ out = data := by
  have meets := next_last_eq_iff wf
  obtain ⟨nlow, nhigh⟩ := Circular.next_bounds wf.lastLow wf.lastHigh
  rw [claimFirst_empty empty]
  by_cases cap : fifo.capacity = 1
  · have both : ({ fifo with first := fifo.last } : ByteFifo).pulled.advancedLast = fifo.pushed.pulled := by
      rw [pushed_pulled_empty empty]
      simp [advancedLast, pulled, meets.2 cap]
    rw [both]
    constructor
    · exact fun settles => ⟨cap, (settles_through_only empty settles).1⟩
    · rintro ⟨-, rfl⟩
      exact settles_through wf empty 0 out
  · refine iff_of_false (fun settles => ?_) fun both => cap both.1
    have apart : Circular.next fifo.begin fifo.end_ fifo.last ≠ fifo.last := fun eq => cap (meets.1 eq)
    have gone := (settles_through_only empty settles).2
    have notNull := wf.notNull
    have first : ({ fifo with first := fifo.last } : ByteFifo).pulled.advancedLast.first =
        Circular.next fifo.begin fifo.end_ fifo.last := by
      simp [advancedLast, pulled, apart]
    refine contents_ne_nil ?_ ?_ nlow _ gone
    · rw [first]
      omega
    · rw [first]
      exact nhigh

theorem claimFirst_ne_null (wf : fifo.WF) : (claimFirst fifo).first ≠ NULL := by
  rw [claimFirst_eq]
  exact start_ne_null wf

theorem push_settles_store_iff (wf : fifo.WF) (room : fifo.isFull = false) (data : Byte) :
    PushSettles wf mem data 2 ↔ PushUndisturbed fifo mem data 2 := by
  have short := length_lt wf room
  have run := push_before_store room mem data
  rw [send_held (claimFirst_ne_null wf)] at run
  by_cases empty : fifo.first = NULL
  · have first : (claimFirst fifo).first = fifo.last := by rw [claimFirst_empty empty]
    have last : (claimFirst fifo).pulled.last = fifo.last := by rw [claimFirst_empty empty]; rfl
    simp only [first, last] at run
    rw [pushSettles_iff run, settles_claimed_iff wf empty]
    simp only [PushUndisturbed, length_empty empty, true_implies, Nat.zero_ne_one, false_implies, and_true]
  · have pos := length_pos wf empty
    have last : fifo.pulled.last = fifo.last := rfl
    simp only [claimFirst_held empty, last] at run
    rw [pushSettles_iff run, settles_under_iff wf empty room]
    simp only [PushUndisturbed]
    omega

theorem push_settles_increment_iff (wf : fifo.WF) (room : fifo.isFull = false) (data : Byte) :
    PushSettles wf mem data 3 ↔ PushUndisturbed fifo mem data 3 := by
  have short := length_lt wf room
  have run := push_before_increment room mem data
  rw [send_held (claimFirst_ne_null wf)] at run
  by_cases empty : fifo.first = NULL
  · have first : (claimFirst fifo).first = fifo.last := by rw [claimFirst_empty empty]
    have last : (claimFirst fifo).last = fifo.last := by rw [claimFirst_empty empty]
    simp only [first, last, Memory.store, Function.update_self] at run
    rw [pushSettles_iff run, settles_claimed_iff wf empty]
    simp only [PushUndisturbed, length_empty empty, and_true, Nat.zero_le, true_implies]
  · have pos := length_pos wf empty
    simp only [claimFirst_held empty, store_first room] at run
    rw [pushSettles_iff run, settles_under_iff wf empty room]
    simp only [PushUndisturbed]
    omega

/-- Past the end of the block `last` never meets a `first` in it, so the bytes
pulled before and after the wrap are the same. -/
theorem wrapLast_pulled (wf : fifo.WF) (held : fifo.first ≠ NULL) (room : fifo.isFull = false) :
    wrapLast fifo.incrementLast.pulled = fifo.pushed.pulled := by
  have apart := next_first_ne wf held room
  have inside := (Circular.next_bounds (wf.firstIn held).1 (wf.firstIn held).2).2
  have ahead : Circular.next fifo.begin fifo.end_ fifo.first ≠ fifo.last + 1 := fun meets => by
    refine apart (meets.trans ?_)
    simp [Circular.next, Nat.ne_of_lt (meets ▸ inside)]
  rw [pushed_pulled wf held room]
  have unwrapped : fifo.incrementLast.pulled =
      { fifo with first := Circular.next fifo.begin fifo.end_ fifo.first, last := fifo.last + 1 } := by
    simp [pulled, incrementLast, ahead]
  rw [unwrapped]
  exact wrapLast_increment { fifo with first := Circular.next fifo.begin fifo.end_ fifo.first }

/-- An empty queue whose byte went into the last cell of the block: the pull
wraps `first` and not yet `last`, so they miss each other. -/
theorem not_settles_wrap {wf : fifo.WF} {data out : Byte} {shared : Shared} (empty : fifo.first = NULL)
    (first : shared.1.first = fifo.begin) (last : shared.1.last = fifo.begin) (end_ : shared.1.end_ = fifo.end_)
    (begin : shared.1.begin = fifo.begin) : ¬ Settles wf mem 0 data true true out shared := fun settles => by
  have notNull := wf.notNull
  refine contents_ne_nil ?_ ?_ (Nat.le_of_eq (begin.trans last.symm)) _ (settles_through_only empty settles).2
  · rw [first]
    omega
  · rw [first, end_]
    exact wf.room

theorem push_settles_wrap_iff (wf : fifo.WF) (room : fifo.isFull = false) (data : Byte) :
    PushSettles wf mem data 4 ↔ PushUndisturbed fifo mem data 4 := by
  have run := push_before_wrap room mem data
  have present : (claimFirst fifo).incrementLast.first ≠ NULL := claimFirst_ne_null wf
  rw [send_held present] at run
  by_cases empty : fifo.first = NULL
  · rw [claimFirst_empty empty] at run
    simp only [incrementLast_first, Memory.store, Function.update_self] at run
    rw [pushSettles_iff run]
    simp only [PushUndisturbed, length_empty empty, true_implies]
    by_cases wraps : fifo.last + 1 = fifo.end_
    · refine iff_of_false (not_settles_wrap empty ?_ ?_ ?_ ?_) fun inside => inside wraps
      all_goals
        have low := wf.lastLow
        have apart : fifo.begin ≠ fifo.end_ := Nat.ne_of_lt wf.room
        simp [wrapLast, pulled, incrementLast, Circular.next, wraps, apart]
    · have both : wrapLast ({ fifo with first := fifo.last } : ByteFifo).incrementLast.pulled =
          fifo.pushed.pulled := by
        rw [pushed_pulled_empty empty]
        simp [wrapLast, pulled, incrementLast, Circular.next, wraps]
      rw [both]
      exact iff_of_true (settles_through wf empty 0 data) wraps
  · have pos := length_pos wf empty
    simp only [claimFirst_held empty, incrementLast_first, store_first room] at run
    rw [pushSettles_iff run, wrapLast_pulled wf empty room]
    refine iff_of_true (settles_accepted wf empty room mem 0 data) fun none => ?_
    omega

theorem push_settles_late (wf : fifo.WF) (room : fifo.isFull = false) (data : Byte) (k : Nat) :
    PushSettles wf mem data (k + 5) := by
  have last : (claimFirst fifo).last = fifo.last := by rw [claimFirst_eq]
  have present : fifo.pushed.first ≠ NULL := start_ne_null wf
  have run := push_before_return room mem data k
  rw [send_held present, last] at run
  rw [pushSettles_iff run]
  by_cases empty : fifo.first = NULL
  · have first : fifo.pushed.first = fifo.last := by simp [pushed, start, empty]
    simp only [first, Memory.store, Function.update_self]
    exact settles_through wf empty 0 data
  · rw [pushed_first empty, store_first room]
    exact settles_accepted wf empty room mem 0 data

/-- **A push preempted by the interrupt's pull.** The two calls settle into one
of their orders exactly in the states of `PushUndisturbed`. -/
theorem push_preempted_iff {fifo : ByteFifo} (wf : fifo.WF) (mem : Memory) (data : Byte) (k : Nat) :
    PushSettles wf mem data k ↔ PushUndisturbed fifo mem data k := by
  cases full : fifo.isFull with
  | true =>
    have length : fifo.length = fifo.capacity := by simpa using (isFull_iff wf mem).1 full
    have pos := capacity_pos wf
    have settles : PushSettles wf mem data k := by
      cases k with
      | zero => exact push_settles_zero wf data
      | succ k => exact push_settles_full wf full data k
    refine iff_of_true settles ?_
    unfold PushUndisturbed
    split
    · exact ⟨by omega, by omega⟩
    · omega
    · omega
    · trivial
  | false =>
    match k with
    | 0 => exact iff_of_true (push_settles_zero wf data) trivial
    | 1 => exact iff_of_true (push_settles_claim wf full data) trivial
    | 2 => exact push_settles_store_iff wf full data
    | 3 => exact push_settles_increment_iff wf full data
    | 4 => exact push_settles_wrap_iff wf full data
    | k + 5 => exact iff_of_true (push_settles_late wf full data k) trivial

/-- Two bytes in a block of three, the insert location in its last cell. -/
def roomForOne : ByteFifo :=
  ⟨0x40000000, 0x40000003, 0x40000000, 0x40000002⟩

theorem roomForOne_wf : roomForOne.WF :=
  ⟨by decide, by decide, by decide, by decide, by decide⟩

/-- Behind two other bytes the push may be interrupted right after its store. -/
theorem push_preempted_roomForOne : PushSettles roomForOne_wf (fun a => BitVec.ofNat 8 a) 0x2a 3 :=
  (push_preempted_iff roomForOne_wf _ 0x2a 3).2 fun few => absurd few (by decide)

/-- An empty queue in a block of two. -/
def emptyOfTwo : ByteFifo :=
  ⟨0x40000000, 0x40000002, NULL, 0x40000000⟩

theorem emptyOfTwo_wf : emptyOfTwo.WF :=
  ⟨by decide, by decide, by decide, by decide, by decide⟩

/-- The interrupt between the claim of `first` and the store sends a stale byte. -/
theorem push_preempted_empty : ¬ PushSettles emptyOfTwo_wf (fun a => BitVec.ofNat 8 a) 0x2a 2 := by
  rw [push_settles_store_iff emptyOfTwo_wf (by decide)]
  exact fun undisturbed => absurd (undisturbed.1 (by decide)).1 (by decide)

end Leon3Bsp.ByteFifo
