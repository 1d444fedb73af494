import Leon3Bsp.Utils.ByteFifoRefinement

/-!
# A push and a pull by two users of one queue

Both sides of a byte queue belong to different users: a task and the driver's
interrupt. `Settles` says that what a push and a pull left is what they leave
in one of the two orders on the bounded queue, with the queue well formed.
-/

namespace Leon3Bsp.ByteFifo
set_option autoImplicit false

/-- What a task and an interrupt share: the queue and the memory. -/
abbrev Shared := ByteFifo × Memory

variable {fifo : ByteFifo} {mem : Memory}

/-- The bounded queue that a queue in use stands for. -/
def queue (wf : fifo.WF) (mem : Memory) : BoundedQueue Byte fifo.capacity :=
  ⟨fifo.contents mem, by simpa using length_le wf⟩

/-- The two calls settled into one of their orders and left a well-formed queue
on the same block. -/
structure Settles (wf : fifo.WF) (mem : Memory) (data byte : Byte) (pushed pulled : Bool) (out : Byte)
    (shared : Shared) : Prop where
  after : shared.1.WF
  begin : shared.1.begin = fifo.begin
  end_ : shared.1.end_ = fifo.end_
  serial : (queue wf mem).Serial data byte ⟨pushed, pulled, out, shared.1.contents shared.2⟩

theorem begin_add_capacity (wf : fifo.WF) : fifo.begin + fifo.capacity = fifo.end_ := by
  have := wf.room
  unfold capacity
  omega

theorem represents_queue (wf : fifo.WF) (mem : Memory) :
    Represents fifo.begin fifo.capacity mem (fifo, mem) (queue wf mem) :=
  ⟨wf, rfl, (begin_add_capacity wf).symm, rfl, fun _ _ => rfl⟩

theorem Represents.settles {wf : fifo.WF} {q : BoundedQueue Byte fifo.capacity} {shared : Shared} {data byte out : Byte}
    {pushed pulled : Bool} (final : Represents fifo.begin fifo.capacity mem shared q)
    (serial : (queue wf mem).Serial data byte ⟨pushed, pulled, out, q.items⟩) :
    Settles wf mem data byte pushed pulled out shared := by
  refine ⟨final.wf, final.begin, final.end_.trans (begin_add_capacity wf), ?_⟩
  rw [final.items]
  exact serial

theorem settles_pullThenPush (wf : fifo.WF) (mem : Memory) (data byte : Byte) :
    Settles wf mem data byte ((fifo.pull mem data).2.2.push mem byte).1 (fifo.pull mem data).1 (fifo.pull mem data).2.1
      ((fifo.pull mem data).2.2.push mem byte).2 := by
  obtain ⟨pulled, out, mid⟩ := (represents_queue wf mem).pull data
  obtain ⟨pushed, final⟩ := mid.push byte
  exact final.settles (Or.inl (by rw [pulled, out, pushed]; rfl))

theorem settles_pushThenPull (wf : fifo.WF) (mem : Memory) (data byte : Byte) :
    Settles wf mem data byte (fifo.push mem byte).1 ((fifo.push mem byte).2.1.pull (fifo.push mem byte).2.2 data).1
      ((fifo.push mem byte).2.1.pull (fifo.push mem byte).2.2 data).2.1
      (((fifo.push mem byte).2.1.pull (fifo.push mem byte).2.2 data).2.2, (fifo.push mem byte).2.2) := by
  obtain ⟨pushed, mid⟩ := (represents_queue wf mem).push byte
  obtain ⟨pulled, out, final⟩ := mid.pull data
  exact final.settles (Or.inr (by rw [pulled, out, pushed]; rfl))

theorem isEmpty_false (held : fifo.first ≠ NULL) : fifo.isEmpty = false := by
  simpa [isEmpty] using held

theorem isFull_empty (wf : fifo.WF) (empty : fifo.first = NULL) : fifo.isFull = false := by
  have := wf.notNull
  have := wf.lastLow
  simp only [isFull, empty, beq_eq_false_iff_ne, NULL] at *
  omega

theorem pulled_room (wf : fifo.WF) (held : fifo.first ≠ NULL) : fifo.pulled.isFull = false := by
  have pos := length_pos wf held
  have le := length_le wf
  by_contra full
  have := (isFull_iff (pulled_wf wf held) fun _ => 0).1 (by simpa using full)
  rw [contents_length, pulled_length wf held, pulled_capacity] at this
  omega

/-- The byte a push writes is not the oldest one. -/
theorem store_first (room : fifo.isFull = false) (byte : Byte) :
    mem.store fifo.last byte fifo.first = mem fifo.first :=
  Function.update_of_ne (by simpa [isFull] using room) _ _

theorem pushed_first (held : fifo.first ≠ NULL) : fifo.pushed.first = fifo.first := by
  simp [pushed, start, held]

/-- With a byte held and room for another the pointers stay apart. -/
theorem next_first_ne (wf : fifo.WF) (held : fifo.first ≠ NULL) (room : fifo.isFull = false) :
    Circular.next fifo.begin fifo.end_ fifo.first ≠ Circular.next fifo.begin fifo.end_ fifo.last := fun meets => by
  have first := pushed_first held
  have one := (next_eq_last (pushed_wf wf) (first ▸ held)).1 (by rw [first]; exact meets)
  rw [pushed_length wf room] at one
  have := length_pos wf held
  omega

/-- Pushed, then pulled: both pointers one on. -/
theorem pushed_pulled (wf : fifo.WF) (held : fifo.first ≠ NULL) (room : fifo.isFull = false) :
    fifo.pushed.pulled = { fifo with
      first := Circular.next fifo.begin fifo.end_ fifo.first
      last := Circular.next fifo.begin fifo.end_ fifo.last } := by
  have apart : Circular.next fifo.begin fifo.end_ fifo.first ≠ fifo.pushed.last := next_first_ne wf held room
  rw [pulled, pushed_first held, pushed_begin, pushed_end, if_neg apart]
  rfl

/-- A byte pushed into an empty queue and pulled again. -/
theorem pushed_pulled_empty (empty : fifo.first = NULL) :
    fifo.pushed.pulled = { fifo with first := NULL, last := Circular.next fifo.begin fifo.end_ fifo.last } := by
  simp [pulled, pushed, start, empty]

theorem settles_accepted (wf : fifo.WF) (held : fifo.first ≠ NULL) (room : fifo.isFull = false) (mem : Memory)
    (data byte : Byte) :
    Settles wf mem data byte true true (mem fifo.first) (fifo.pushed.pulled, mem.store fifo.last byte) := by
  have serial := settles_pushThenPull wf mem data byte
  rw [push_room room, pull_held (isEmpty_false (pushed_first held ▸ held)), pushed_first held] at serial
  simpa only [store_first room] using serial

theorem settles_refused (wf : fifo.WF) (held : fifo.first ≠ NULL) (full : fifo.isFull = true) (data byte : Byte) :
    Settles wf mem data byte false true (mem fifo.first) (fifo.pulled, mem) := by
  have serial := settles_pushThenPull wf mem data byte
  rwa [push_full full, pull_held (isEmpty_false held)] at serial

theorem settles_pulled_first (wf : fifo.WF) (held : fifo.first ≠ NULL) (mem : Memory) (data byte : Byte) :
    Settles wf mem data byte true true (mem fifo.first) (fifo.pulled.pushed, mem.store fifo.last byte) := by
  have serial := settles_pullThenPush wf mem data byte
  rwa [pull_held (isEmpty_false held), push_room (pulled_room wf held)] at serial

theorem settles_empty (wf : fifo.WF) (empty : fifo.first = NULL) (data byte : Byte) :
    Settles wf mem data byte true false data (fifo.pushed, mem.store fifo.last byte) := by
  have serial := settles_pullThenPush wf mem data byte
  rwa [pull_empty (by simp [isEmpty, empty]), push_room (isFull_empty wf empty)] at serial

theorem settles_through (wf : fifo.WF) (empty : fifo.first = NULL) (data byte : Byte) :
    Settles wf mem data byte true true byte (fifo.pushed.pulled, mem.store fifo.last byte) := by
  have serial := settles_pushThenPull wf mem data byte
  have first : fifo.pushed.first = fifo.last := by simp [pushed, start, empty]
  have present : fifo.pushed.first ≠ NULL := start_ne_null wf
  rw [push_room (isFull_empty wf empty), pull_held (isEmpty_false present), first] at serial
  simpa only [Memory.store, Function.update_self] using serial

/-- A byte refused although the queue had room belongs to neither order. -/
theorem not_settles_refused {wf : fifo.WF} {data byte out : Byte} {pulled : Bool} {shared : Shared}
    (room : fifo.length < fifo.capacity) : ¬ Settles wf mem data byte false pulled out shared := fun settles => by
  have := settles.serial.pushed (by simpa [queue] using room)
  cases this

/-- A byte accepted by a full queue is still in it in either order. -/
theorem not_settles_lost {wf : fifo.WF} {data byte out : Byte} {pulled : Bool} {shared : Shared}
    (full : fifo.length = fifo.capacity) (gone : shared.1.first = NULL) :
    ¬ Settles wf mem data byte true pulled out shared := fun settles => by
  have items := settles.serial.pushed_full (by simpa [queue] using full) (capacity_pos wf) rfl
  rw [contents, length_empty gone] at items
  exact items rfl

/-- A byte pulled from an empty queue is the pushed one, and nothing is left. -/
theorem settles_through_only {wf : fifo.WF} {data byte out : Byte} {pushed : Bool} {shared : Shared}
    (empty : fifo.first = NULL) (settles : Settles wf mem data byte pushed true out shared) :
    out = byte ∧ shared.1.contents shared.2 = [] := by
  have none : (queue wf mem).items = [] := by simp [queue, contents, length_empty empty, Circular.cells]
  exact settles.serial.pulled_empty none (capacity_pos wf) rfl

/-- With a byte held and room for another, something is left in either order. -/
theorem not_settles_emptied {wf : fifo.WF} {data byte out : Byte} {pushed pulled : Bool} {shared : Shared}
    (held : fifo.first ≠ NULL) (room : fifo.length < fifo.capacity) (gone : shared.1.first = NULL) :
    ¬ Settles wf mem data byte pushed pulled out shared := fun settles => by
  have some : (queue wf mem).items ≠ [] := by
    rw [ne_eq, ← List.length_eq_zero_iff]
    simpa [queue] using Nat.ne_of_gt (length_pos wf held)
  have items := settles.serial.items_ne_nil some (by simpa [queue] using room)
  rw [contents, length_empty gone] at items
  exact items rfl

/-- A queue whose `first` stands in its block holds something. -/
theorem contents_ne_nil {f : ByteFifo} (present : f.first ≠ NULL) (high : f.first < f.end_) (low : f.begin ≤ f.last)
    (mem : Memory) : f.contents mem ≠ [] := by
  rw [ne_eq, ← List.length_eq_zero_iff, contents_length, length, if_neg present]
  exact Nat.ne_of_gt (Circular.span_pos high low)

end Leon3Bsp.ByteFifo
