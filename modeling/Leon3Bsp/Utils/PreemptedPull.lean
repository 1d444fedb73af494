import Leon3Bsp.Lib.Preemption
import Leon3Bsp.Utils.TwoUsers

/-!
# `ByteFifo_pull` preempted by the reception interrupt

`ByteFifo_pull` as its sequence of statements, each reading the shared pointers
afresh, with the interrupt's `isFull` and `push` of a received byte run between
two of them.
-/

namespace Leon3Bsp.ByteFifo
set_option autoImplicit false
open Preemption (preempted)

/-- An activation of `ByteFifo_pull`: `*data`, the last comparison, and the
result once the call has returned. -/
structure PullFrame where
  data : Byte
  meets : Bool
  result : Option Bool

def PullFrame.start (data : Byte) : PullFrame :=
  ⟨data, false, none⟩

def PullFrame.returned (frame : PullFrame) : Bool :=
  frame.result.isSome

/-- `if(ByteFifo_isEmpty(fifo)) return false;` -/
def pullTest (s : Shared × PullFrame) : Shared × PullFrame :=
  (s.1, if s.1.1.isEmpty then { s.2 with result := some false } else s.2)

/-- The statements of `ByteFifo_pull` after its test. -/
def pullBody : List (Shared × PullFrame → Shared × PullFrame) :=
  [ -- *data = *fifo->first;
    fun s => (s.1, { s.2 with data := s.1.2 s.1.1.first }),
    -- fifo->first++;
    fun s => (({ s.1.1 with first := s.1.1.first + 1 }, s.1.2), s.2),
    -- if(fifo->first == fifo->end) fifo->first = fifo->begin;
    fun s => ((if s.1.1.first = s.1.1.end_ then { s.1.1 with first := s.1.1.begin } else s.1.1, s.1.2), s.2),
    -- if(fifo->first == fifo->last)
    fun s => (s.1, { s.2 with meets := s.1.1.first == s.1.1.last }),
    --     fifo->first = NULL;
    fun s => ((if s.2.meets then { s.1.1 with first := NULL } else s.1.1, s.1.2), s.2),
    -- return true;
    fun s => (s.1, { s.2 with result := some true }) ]

/-- `ByteFifo_pull`, statement by statement. -/
def pullStatements : List (Shared × PullFrame → Shared × PullFrame) :=
  (pullTest :: pullBody).map (Preemption.guarded PullFrame.returned)

/-- The use of the reception queue in `Uart_handleRx`: whether the byte was accepted. -/
def receive (byte : Byte) (shared : Shared) : Bool × Shared :=
  if shared.1.isFull then (false, shared) else shared.1.push shared.2 byte

/-- What a pull leaves: the queue and the memory, `*data`, the result. -/
def PullFrame.left (s : Shared × PullFrame) : Shared × Byte × Option Bool :=
  (s.1, s.2.data, s.2.result)

/-- `ByteFifo_pull(fifo, data)` with `byte` received once `k` statements have
run: whether the byte was accepted, and what the pull leaves. -/
def preemptedPull (fifo : ByteFifo) (mem : Memory) (data byte : Byte) (k : Nat) :
    Bool × (Shared × Byte × Option Bool) :=
  let final := preempted pullStatements (receive byte) k ((fifo, mem), .start data)
  (final.1, PullFrame.left final.2)

section Pull

variable {fifo : ByteFifo} {mem : Memory}

/-- `if(fifo->first == fifo->end) fifo->first = fifo->begin;` -/
def wrapFirst (fifo : ByteFifo) : ByteFifo :=
  if fifo.first = fifo.end_ then { fifo with first := fifo.begin } else fifo

/-- `if(fifo->first == fifo->last) fifo->first = NULL;` -/
def clearFirst (fifo : ByteFifo) : ByteFifo :=
  if fifo.first = fifo.last then { fifo with first := NULL } else fifo

theorem pulled_eq : fifo.pulled = clearFirst (wrapFirst { fifo with first := fifo.first + 1 }) := by
  simp only [wrapFirst, first_wraps, clearFirst, pulled]
  split <;> rfl

/-! The rest of a pull from one of its statements on. -/

/-- `x` is the queue the comparison saw. -/
theorem left_clear (f x : ByteFifo) (mem : Memory) (data : Byte) :
    PullFrame.left (Preemption.run (pullStatements.drop 5) ((f, mem), ⟨data, x.first == x.last, none⟩)) =
      ((if x.first = x.last then { f with first := NULL } else f, mem), data, some true) := by
  show ((if (x.first == x.last) = true then { f with first := NULL } else f, mem), data, some true) = _
  simp only [beq_iff_eq]

theorem left_compare (f : ByteFifo) (mem : Memory) (data : Byte) :
    PullFrame.left (Preemption.run (pullStatements.drop 4) ((f, mem), .start data)) =
      ((clearFirst f, mem), data, some true) :=
  left_clear f f mem data

theorem left_wrap (f : ByteFifo) (mem : Memory) (data : Byte) :
    PullFrame.left (Preemption.run (pullStatements.drop 3) ((f, mem), .start data)) =
      ((clearFirst (wrapFirst f), mem), data, some true) :=
  left_compare (wrapFirst f) mem data

theorem left_increment (f : ByteFifo) (mem : Memory) (data : Byte) :
    PullFrame.left (Preemption.run (pullStatements.drop 2) ((f, mem), .start data)) =
      ((f.pulled, mem), data, some true) := by
  rw [pulled_eq]
  exact left_wrap { f with first := f.first + 1 } mem data

theorem left_read (f : ByteFifo) (mem : Memory) (data : Byte) :
    PullFrame.left (Preemption.run (pullStatements.drop 1) ((f, mem), .start data)) =
      ((f.pulled, mem), mem f.first, some true) :=
  left_increment f mem (mem f.first)

theorem guarded_test_empty (empty : fifo.isEmpty = true) (data : Byte) :
    Preemption.guarded PullFrame.returned pullTest ((fifo, mem), .start data) =
      ((fifo, mem), ⟨data, false, some false⟩) := by
  simp [Preemption.guarded, PullFrame.returned, PullFrame.start, pullTest, empty]

theorem guarded_test_held (held : fifo.isEmpty = false) (data : Byte) :
    Preemption.guarded PullFrame.returned pullTest ((fifo, mem), .start data) = ((fifo, mem), .start data) := by
  simp [Preemption.guarded, PullFrame.returned, PullFrame.start, pullTest, held]

/-- Uninterrupted, the statements are `pull`. -/
theorem left_pull (fifo : ByteFifo) (mem : Memory) (data : Byte) :
    PullFrame.left (Preemption.run pullStatements ((fifo, mem), .start data)) =
      (((fifo.pull mem data).2.2, mem), (fifo.pull mem data).2.1, some (fifo.pull mem data).1) := by
  rw [pullStatements, List.map_cons, Preemption.run_cons]
  cases empty : fifo.isEmpty with
  | true =>
    rw [guarded_test_empty empty, Preemption.run_returned rfl, pull_empty empty]
    rfl
  | false =>
    rw [guarded_test_held empty, pull_held empty]
    exact left_read fifo mem data

/-- The call returns from its test on an empty queue. -/
theorem pull_returned (empty : fifo.isEmpty = true) (data byte : Byte) (k : Nat) :
    preemptedPull fifo mem data byte (k + 1) =
      ((receive byte (fifo, mem)).1, (receive byte (fifo, mem)).2, data, some false) := by
  have done : PullFrame.returned ⟨data, false, some false⟩ = true := rfl
  simp only [preemptedPull, pullStatements, List.map_cons, Preemption.preempted_succ, guarded_test_empty empty,
    Preemption.preempted_returned done]
  rfl

/-- A queue that holds a byte passes the test. -/
theorem preempted_held (held : fifo.isEmpty = false) (data byte : Byte) (k : Nat) :
    preempted pullStatements (receive byte) (k + 1) ((fifo, mem), .start data) =
      preempted (pullStatements.drop 1) (receive byte) k ((fifo, mem), .start data) := by
  simp only [pullStatements, List.map_cons, Preemption.preempted_succ, guarded_test_held held, List.drop_succ_cons,
    List.drop_zero]

/-! A byte received before each of the statements that follow the test. -/

theorem pull_before_read (held : fifo.isEmpty = false) (data byte : Byte) :
    preemptedPull fifo mem data byte 1 =
      let s := receive byte (fifo, mem)
      (s.1, (s.2.1.pulled, s.2.2), s.2.2 s.2.1.first, some true) := by
  rw [preemptedPull, preempted_held held]
  exact congrArg (Prod.mk _) (left_read _ _ _)

theorem pull_before_increment (held : fifo.isEmpty = false) (data byte : Byte) :
    preemptedPull fifo mem data byte 2 =
      let s := receive byte (fifo, mem)
      (s.1, (s.2.1.pulled, s.2.2), mem fifo.first, some true) := by
  rw [preemptedPull, preempted_held held]
  exact congrArg (Prod.mk _) (left_increment _ _ _)

theorem pull_before_wrap (held : fifo.isEmpty = false) (data byte : Byte) :
    preemptedPull fifo mem data byte 3 =
      let s := receive byte ({ fifo with first := fifo.first + 1 }, mem)
      (s.1, (clearFirst (wrapFirst s.2.1), s.2.2), mem fifo.first, some true) := by
  rw [preemptedPull, preempted_held held]
  exact congrArg (Prod.mk _) (left_wrap _ _ _)

/-- The queue with `first` moved on and not yet compared with `last`. -/
def advanced (fifo : ByteFifo) : ByteFifo :=
  { fifo with first := Circular.next fifo.begin fifo.end_ fifo.first }

theorem pull_before_compare (held : fifo.isEmpty = false) (data byte : Byte) :
    preemptedPull fifo mem data byte 4 =
      let s := receive byte (fifo.advanced, mem)
      (s.1, (clearFirst s.2.1, s.2.2), mem fifo.first, some true) := by
  rw [preemptedPull, preempted_held held, advanced, ← first_wraps]
  exact congrArg (Prod.mk _) (left_compare _ _ _)

theorem pull_before_clear (held : fifo.isEmpty = false) (data byte : Byte) :
    preemptedPull fifo mem data byte 5 =
      let s := receive byte (fifo.advanced, mem)
      (s.1, (if fifo.advanced.first = fifo.advanced.last then { s.2.1 with first := NULL } else s.2.1, s.2.2), mem fifo.first,
        some true) := by
  rw [preemptedPull, preempted_held held, advanced, ← first_wraps]
  exact congrArg (Prod.mk _) (left_clear _ (wrapFirst { fifo with first := fifo.first + 1 }) _ _)

theorem pull_before_return (held : fifo.isEmpty = false) (data byte : Byte) (k : Nat) :
    preemptedPull fifo mem data byte (k + 6) =
      let s := receive byte (fifo.pulled, mem)
      (s.1, s.2, mem fifo.first, some true) := by
  have cleared (x : ByteFifo) : clearFirst x = if (x.first == x.last) = true then { x with first := NULL } else x := by
    simp only [clearFirst, beq_iff_eq]
  rw [preemptedPull, preempted_held held, pulled_eq, cleared]
  rcases k with _ | _ | k <;> rfl

/-- The pull and the received byte settled into one of the two orders, and the
queue is well formed again. -/
def PullSettles (wf : fifo.WF) (mem : Memory) (data byte : Byte) (k : Nat) : Prop :=
  ∃ accepted shared out result, preemptedPull fifo mem data byte k = (accepted, shared, out, some result) ∧
    Settles wf mem data byte accepted result out shared

/-- The fill levels at which the interrupt may come once `k` statements have
run: between the increment and the comparison with `last`, neither one byte nor
a full queue (one byte is harmless where `first` stands past the end); once they
were compared, not the last byte of a queue with room. -/
def PullUndisturbed (fifo : ByteFifo) : Nat → Prop
  | 3 => fifo.length ≠ fifo.capacity ∧ (fifo.length = 1 → fifo.first + 1 = fifo.end_)
  | 4 => fifo.length = 1 ∨ fifo.length = fifo.capacity → fifo.capacity = 1
  | 5 => fifo.length = 1 → fifo.capacity = 1
  | _ => True

theorem receive_room (room : fifo.isFull = false) (byte : Byte) :
    receive byte (fifo, mem) = (true, (fifo.pushed, mem.store fifo.last byte)) := by
  simp [receive, room, push_room room]

theorem receive_full (full : fifo.isFull = true) (byte : Byte) : receive byte (fifo, mem) = (false, (fifo, mem)) := by
  simp [receive, full]

theorem pullSettles_iff {wf : fifo.WF} {data byte : Byte} {k : Nat} {accepted result : Bool} {shared : Shared} {out : Byte}
    (run : preemptedPull fifo mem data byte k = (accepted, shared, out, some result)) :
    PullSettles wf mem data byte k ↔ Settles wf mem data byte accepted result out shared := by
  constructor
  · rintro ⟨a, s, o, r, same, settles⟩
    rw [run] at same
    obtain ⟨rfl, rfl, rfl, same⟩ : accepted = a ∧ shared = s ∧ out = o ∧ some result = some r := by simpa using same
    cases same
    exact settles
  · exact fun settles => ⟨_, _, _, _, run, settles⟩

theorem receive_eq (byte : Byte) (shared : Shared) : receive byte shared = shared.1.push shared.2 byte := by
  cases full : shared.1.isFull with
  | true => rw [receive, if_pos full, push_full full]
  | false => simp [receive, full]

/-- A byte received before the pull begins. -/
theorem pull_settles_zero (wf : fifo.WF) (data byte : Byte) : PullSettles wf mem data byte 0 := by
  have run : preemptedPull fifo mem data byte 0 =
      ((fifo.push mem byte).1, (((fifo.push mem byte).2.1.pull (fifo.push mem byte).2.2 data).2.2, (fifo.push mem byte).2.2),
        ((fifo.push mem byte).2.1.pull (fifo.push mem byte).2.2 data).2.1,
        some ((fifo.push mem byte).2.1.pull (fifo.push mem byte).2.2 data).1) := by
    rw [preemptedPull, Preemption.preempted_zero, receive_eq]
    exact congrArg (Prod.mk _) (left_pull _ _ _)
  rw [pullSettles_iff run]
  exact settles_pushThenPull wf mem data byte

theorem pull_settles_empty (wf : fifo.WF) (empty : fifo.first = NULL) (data byte : Byte) (k : Nat) :
    PullSettles wf mem data byte (k + 1) := by
  rw [pullSettles_iff (pull_returned (by simp [isEmpty, empty]) data byte k), receive_room (isFull_empty wf empty)]
  exact settles_empty wf empty data byte

/-- Before the increment the interrupt sees the queue as it was. -/
theorem pull_settles_early (wf : fifo.WF) (held : fifo.first ≠ NULL) (data byte : Byte) :
    PullSettles wf mem data byte 1 ∧ PullSettles wf mem data byte 2 := by
  have some := isEmpty_false held
  rw [pullSettles_iff (pull_before_read some data byte), pullSettles_iff (pull_before_increment some data byte)]
  cases full : fifo.isFull with
  | true =>
    rw [receive_full full]
    exact ⟨settles_refused wf held full data byte, settles_refused wf held full data byte⟩
  | false =>
    have accepted := settles_accepted wf held full mem data byte
    rw [receive_room full]
    refine ⟨?_, accepted⟩
    simpa only [pushed_first held, store_first full] using accepted

theorem pull_settles_late (wf : fifo.WF) (held : fifo.first ≠ NULL) (data byte : Byte) (k : Nat) :
    PullSettles wf mem data byte (k + 6) := by
  rw [pullSettles_iff (pull_before_return (isEmpty_false held) data byte k), receive_room (pulled_room wf held)]
  exact settles_pulled_first wf held mem data byte

theorem pulled_eq_clear : fifo.pulled = clearFirst fifo.advanced := by
  by_cases meets : Circular.next fifo.begin fifo.end_ fifo.first = fifo.last
  · rw [clearFirst, if_pos (show fifo.advanced.first = fifo.advanced.last from meets)]
    simp [pulled, advanced, meets]
  · rw [clearFirst, if_neg (show fifo.advanced.first ≠ fifo.advanced.last from meets)]
    simp [pulled, advanced, meets]

theorem next_ne_null (wf : fifo.WF) (held : fifo.first ≠ NULL) :
    Circular.next fifo.begin fifo.end_ fifo.first ≠ NULL := by
  have := (Circular.next_bounds (wf.firstIn held).1 (wf.firstIn held).2).1
  have := wf.notNull
  omega

/-- The interrupt's push after the task moved `first` on moves `last` alike. -/
theorem advanced_pushed (wf : fifo.WF) (held : fifo.first ≠ NULL) : fifo.advanced.pushed = fifo.pushed.advanced := by
  simp [advanced, pushed, start, held, next_ne_null wf held]

/-- The queue looks full to the interrupt once `first` has reached `last`. -/
theorem advanced_isFull (wf : fifo.WF) (held : fifo.first ≠ NULL) : fifo.advanced.isFull = true ↔ fifo.length = 1 := by
  rw [← next_eq_last wf held]
  simp [isFull, advanced]

/-- In a full queue the push makes `last` catch up with `first`, and the task
then takes the queue for empty. -/
theorem pushed_pulled_full (full : fifo.first = fifo.last) : fifo.pushed.pulled.first = NULL := by
  simp [pulled, pushed, start, full]

/-- The last byte is being taken: the received byte is refused, which is right
only for a queue of one byte. -/
theorem settles_last_iff (wf : fifo.WF) (held : fifo.first ≠ NULL) (one : fifo.length = 1) (data byte : Byte) :
    Settles wf mem data byte false true (mem fifo.first) (fifo.pulled, mem) ↔ fifo.capacity = 1 := by
  constructor
  · intro settles
    by_contra more
    have := capacity_pos wf
    exact not_settles_refused (by omega) settles
  · intro cap
    exact settles_refused wf held ((isFull_iff wf mem).2 (by rw [contents_length]; omega)) data byte

/-- The received byte is accepted before the task compares `first` with `last`:
right unless the queue was full. -/
theorem settles_both_iff (wf : fifo.WF) (held : fifo.first ≠ NULL) (data byte : Byte) :
    Settles wf mem data byte true true (mem fifo.first) (fifo.pushed.pulled, mem.store fifo.last byte) ↔
      fifo.length ≠ fifo.capacity := by
  constructor
  · intro settles full
    exact not_settles_lost full (pushed_pulled_full ((length_eq_capacity wf).1 full)) settles
  · intro room
    refine settles_accepted wf held ?_ mem data byte
    by_contra full
    exact room ((isFull_iff wf mem).1 (by simpa using full) ▸ contents_length.symm)

theorem pull_settles_compare_iff (wf : fifo.WF) (held : fifo.first ≠ NULL) (data byte : Byte) :
    PullSettles wf mem data byte 4 ↔ PullUndisturbed fifo 4 := by
  rw [pullSettles_iff (pull_before_compare (isEmpty_false held) data byte)]
  cases full : fifo.advanced.isFull with
  | true =>
    have one := (advanced_isFull wf held).1 full
    rw [receive_full full]
    show Settles wf mem data byte false true (mem fifo.first) (clearFirst fifo.advanced, mem) ↔ _
    rw [← pulled_eq_clear, settles_last_iff wf held one]
    simp only [PullUndisturbed]
    omega
  | false =>
    have more : fifo.length ≠ 1 := fun one => by simp [(advanced_isFull wf held).2 one] at full
    rw [receive_room full, advanced_pushed wf held]
    show Settles wf mem data byte true true (mem fifo.first)
      (clearFirst fifo.pushed.advanced, mem.store fifo.last byte) ↔ _
    rw [← pulled_eq_clear, settles_both_iff wf held]
    simp only [PullUndisturbed]
    omega

theorem pull_settles_clear_iff (wf : fifo.WF) (held : fifo.first ≠ NULL) (data byte : Byte) :
    PullSettles wf mem data byte 5 ↔ PullUndisturbed fifo 5 := by
  rw [pullSettles_iff (pull_before_clear (isEmpty_false held) data byte)]
  cases full : fifo.advanced.isFull with
  | true =>
    have one := (advanced_isFull wf held).1 full
    have meets : fifo.advanced.first = fifo.advanced.last := by simpa [isFull] using full
    have pulled : fifo.pulled = { fifo.advanced with first := NULL } := by rw [pulled_eq_clear, clearFirst, if_pos meets]
    rw [receive_full full, if_pos meets]
    show Settles wf mem data byte false true (mem fifo.first) ({ fifo.advanced with first := NULL }, mem) ↔ _
    rw [← pulled, settles_last_iff wf held one]
    simp only [PullUndisturbed]
    omega
  | false =>
    have more : fifo.length ≠ 1 := fun one => by simp [(advanced_isFull wf held).2 one] at full
    have apart : fifo.advanced.first ≠ fifo.advanced.last := by simpa [isFull] using full
    have pulled : fifo.pulled = fifo.advanced := by rw [pulled_eq_clear, clearFirst, if_neg apart]
    have settles := settles_pulled_first wf held mem data byte
    rw [pulled] at settles
    rw [receive_room full, if_neg apart]
    exact ⟨fun _ one => absurd one more, fun _ => settles⟩

theorem pull_settles_wrap_iff (wf : fifo.WF) (held : fifo.first ≠ NULL) (data byte : Byte) :
    PullSettles wf mem data byte 3 ↔ PullUndisturbed fifo 3 := by
  rw [pullSettles_iff (pull_before_wrap (isEmpty_false held) data byte)]
  have high := wf.lastHigh
  have meets := next_eq_last wf held
  cases full : ({ fifo with first := fifo.first + 1 } : ByteFifo).isFull with
  | true =>
    have reached : fifo.first + 1 = fifo.last := by simpa [isFull] using full
    have inside : fifo.first + 1 ≠ fifo.end_ := by omega
    have one : fifo.length = 1 := meets.1 (by simpa [Circular.next, inside] using reached)
    rw [receive_full full]
    show Settles wf mem data byte false true (mem fifo.first)
      (clearFirst (wrapFirst { fifo with first := fifo.first + 1 }), mem) ↔ _
    have wide : fifo.capacity ≠ 1 := by
      have low := (wf.firstIn held).1
      unfold capacity
      omega
    rw [← pulled_eq, settles_last_iff wf held one]
    exact iff_of_false wide fun undisturbed => inside (undisturbed.2 one)
  | false =>
    have apart : fifo.first + 1 ≠ fifo.last := by simpa [isFull] using full
    have past : fifo.length = 1 → fifo.first + 1 = fifo.end_ := fun one => by
      by_contra inside
      exact apart (by simpa [Circular.next, inside] using meets.2 one)
    have moved : wrapFirst ({ fifo with first := fifo.first + 1 } : ByteFifo).pushed = fifo.pushed.advanced := by
      have present : fifo.first + 1 ≠ NULL := Nat.succ_ne_zero _
      have stop : fifo.end_ ≠ NULL := Nat.ne_of_gt (Nat.lt_of_le_of_lt (Nat.zero_le _) high)
      by_cases wraps : fifo.first + 1 = fifo.end_ <;>
        simp [wrapFirst, pushed, start, advanced, Circular.next, held, wraps, present, stop]
    rw [receive_room full]
    show Settles wf mem data byte true true (mem fifo.first)
      (clearFirst (wrapFirst ({ fifo with first := fifo.first + 1 } : ByteFifo).pushed), mem.store fifo.last byte) ↔ _
    rw [moved, ← pulled_eq_clear, settles_both_iff wf held]
    exact ⟨fun room => ⟨room, past⟩, fun undisturbed => undisturbed.1⟩

/-- **A pull preempted by a received byte.** The two calls settle into one of
their orders exactly at the fill levels of `PullUndisturbed`. -/
theorem pull_preempted_iff {fifo : ByteFifo} (wf : fifo.WF) (mem : Memory) (data byte : Byte) (k : Nat) :
    PullSettles wf mem data byte k ↔ PullUndisturbed fifo k := by
  by_cases empty : fifo.first = NULL
  · have none := length_empty empty
    have cap := capacity_pos wf
    have settles : PullSettles wf mem data byte k := by
      cases k with
      | zero => exact pull_settles_zero wf data byte
      | succ k => exact pull_settles_empty wf empty data byte k
    refine iff_of_true settles ?_
    unfold PullUndisturbed
    split <;> first | trivial | omega
  · match k with
    | 0 => exact iff_of_true (pull_settles_zero wf data byte) trivial
    | 1 => exact iff_of_true (pull_settles_early wf empty data byte).1 trivial
    | 2 => exact iff_of_true (pull_settles_early wf empty data byte).2 trivial
    | 3 => exact pull_settles_wrap_iff wf empty data byte
    | 4 => exact pull_settles_compare_iff wf empty data byte
    | 5 => exact pull_settles_clear_iff wf empty data byte
    | k + 6 => exact iff_of_true (pull_settles_late wf empty data byte k) trivial

/-- Two bytes in a block of three. -/
def twoOfThree : ByteFifo :=
  ⟨0x40000000, 0x40000003, 0x40000000, 0x40000002⟩

theorem twoOfThree_wf : twoOfThree.WF :=
  ⟨by decide, by decide, by decide, by decide, by decide⟩

/-- With room to spare the interrupt may come right after `first++`. -/
theorem pull_preempted_twoOfThree : PullSettles twoOfThree_wf (fun a => BitVec.ofNat 8 a) 0xff 0x2a 3 :=
  (pull_preempted_iff twoOfThree_wf _ 0xff 0x2a 3).2 ⟨by decide, by decide⟩

/-- Two bytes in a block of two. -/
def twoOfTwo : ByteFifo :=
  ⟨0x40000000, 0x40000002, 0x40000000, 0x40000000⟩

theorem twoOfTwo_wf : twoOfTwo.WF :=
  ⟨by decide, by decide, by decide, by decide, by decide⟩

/-- A byte received just after `first++` in a full queue: all bytes are gone. -/
theorem pull_preempted_full : ¬ PullSettles twoOfTwo_wf (fun a => BitVec.ofNat 8 a) 0xff 0x2a 3 := by
  rw [pull_settles_wrap_iff twoOfTwo_wf (by decide)]
  exact fun undisturbed => undisturbed.1 (by decide)

end Pull

end Leon3Bsp.ByteFifo
