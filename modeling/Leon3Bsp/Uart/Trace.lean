import Leon3Bsp.Uart.System

/-!
# Reading a trace

The streams that can be read off a trace: bytes written to and read from the
data register, bytes accepted by a queue and pulled from it by the caller, and
how often a callback was called.
-/

namespace Leon3Bsp.Uart
set_option autoImplicit false

def Event.written : Event → Option Byte
  | .write .data value => some (value.setWidth 8)
  | _ => none

def Event.taken : Event → Option Byte
  | .read .data value => some (value.setWidth 8)
  | _ => none

def Event.accepted (q : FifoRef) : Event → Option Byte
  | .pushed fifo data => if fifo = q then some data else none
  | _ => none

def Event.drawn (q : FifoRef) : Event → Option Byte
  | .pulled fifo data => if fifo = q then some data else none
  | _ => none

def Event.calls (hook : Hook) : Event → Bool
  | .called h _ _ _ _ => h == hook
  | _ => false

/-- This callback was called with this argument. -/
def Event.invokes (hook : Hook) (callback : Callback) (arg : Arg) : Event → Bool
  | .called h c a _ _ => h == hook && (c == callback && a == arg)
  | _ => false

/-- The status register was read with `TS` set. -/
def Event.showsTS : Event → Bool
  | .read .status value => getFlag value Status.TS
  | _ => false

/-- The bytes written to the data register. -/
def dataWritten (trace : List Event) : List Byte :=
  trace.filterMap Event.written

/-- The bytes read from the data register. -/
def dataRead (trace : List Event) : List Byte :=
  trace.filterMap Event.taken

/-- The bytes queue `q` accepted. -/
def pushedTo (q : FifoRef) (trace : List Event) : List Byte :=
  trace.filterMap (Event.accepted q)

/-- The bytes the caller pulled from queue `q`. -/
def pulledFrom (q : FifoRef) (trace : List Event) : List Byte :=
  trace.filterMap (Event.drawn q)

/-- How often a callback of `hook` was called. -/
def callCount (hook : Hook) (trace : List Event) : Nat :=
  trace.countP (Event.calls hook)

/-- How often this callback was called with this argument. -/
def invocations (hook : Hook) (callback : Callback) (arg : Arg) (trace : List Event) : Nat :=
  trace.countP (Event.invokes hook callback arg)

/-- The first `n` reads of the status register, which shows `status i` at read `i`. -/
def statusReads (status : Nat → Word) (n : Nat) : List Event :=
  (List.range n).map fun i => .read .status (status i)

/-- Every write to the data register comes after a read of the status register
that showed `TS`. -/
def TsGuarded (trace : List Event) : Prop :=
  ∀ before value after, trace = before ++ .write .data value :: after → ∃ event ∈ before, event.showsTS = true

section Append

variable (trace trace' : List Event) (q : FifoRef) (hook : Hook)

@[simp] theorem dataWritten_append : dataWritten (trace ++ trace') = dataWritten trace ++ dataWritten trace' :=
  List.filterMap_append

@[simp] theorem dataRead_append : dataRead (trace ++ trace') = dataRead trace ++ dataRead trace' :=
  List.filterMap_append

@[simp] theorem pushedTo_append : pushedTo q (trace ++ trace') = pushedTo q trace ++ pushedTo q trace' :=
  List.filterMap_append

@[simp] theorem pulledFrom_append : pulledFrom q (trace ++ trace') = pulledFrom q trace ++ pulledFrom q trace' :=
  List.filterMap_append

@[simp] theorem callCount_append : callCount hook (trace ++ trace') = callCount hook trace + callCount hook trace' :=
  List.countP_append

@[simp] theorem invocations_append (c : Callback) (arg : Arg) :
    invocations hook c arg (trace ++ trace') = invocations hook c arg trace + invocations hook c arg trace' :=
  List.countP_append

end Append

theorem statusReads_zero (status : Nat → Word) : statusReads status 0 = [] := rfl

theorem statusReads_succ (status : Nat → Word) (n : Nat) :
    statusReads status (n + 1) = statusReads status n ++ [.read .status (status n)] := by
  rw [statusReads, List.range_succ, List.map_append]
  rfl

theorem invocations_eq_zero {hook : Hook} (c : Callback) (arg : Arg) {trace : List Event}
    (none : callCount hook trace = 0) : invocations hook c arg trace = 0 := by
  rw [invocations, List.countP_eq_zero]
  rw [callCount, List.countP_eq_zero] at none
  intro event mem invokes
  refine none event mem ?_
  cases event with
  | called h => exact (Bool.and_eq_true _ _ ▸ invokes).1
  | _ => cases invokes

@[simp] theorem invocations_called (hook : Hook) (c : Callback) (arg : Arg) (uart : Uart) (store : Store) :
    invocations hook c arg [.called hook c arg uart store] = 1 := by
  simp [invocations, Event.invokes]

@[simp] theorem setWidth_setWidth_byte (data : Byte) : (data.setWidth 32).setWidth 8 = data := by
  apply BitVec.eq_of_toNat_eq
  simp

theorem dataWritten_write (data : Byte) (trace : List Event) :
    dataWritten (.write .data (data.setWidth 32) :: trace) = data :: dataWritten trace :=
  congrArg (· :: dataWritten trace) (setWidth_setWidth_byte data)

theorem pushedTo_pushed (r q : FifoRef) (data : Byte) : pushedTo r [.pushed q data] = if r = q then [data] else [] := by
  by_cases here : r = q
  · simp [pushedTo, Event.accepted, here]
  · simp [pushedTo, Event.accepted, here, Ne.symm here]

theorem pulledFrom_pulled (r q : FifoRef) (data : Byte) : pulledFrom r [.pulled q data] = if r = q then [data] else [] := by
  by_cases here : r = q
  · simp [pulledFrom, Event.drawn, here]
  · simp [pulledFrom, Event.drawn, here, Ne.symm here]

/-- Events that move no byte and end no transmission. -/
structure Silent (trace : List Event) : Prop where
  dataWritten : dataWritten trace = []
  dataRead : dataRead trace = []
  pushedTo : ∀ q, pushedTo q trace = []
  pulledFrom : ∀ q, pulledFrom q trace = []
  txEnd : callCount .txEnd trace = 0

theorem Silent.nil : Silent [] :=
  ⟨rfl, rfl, fun _ => rfl, fun _ => rfl, rfl⟩

theorem Silent.append {trace trace' : List Event} (first : Silent trace) (second : Silent trace') :
    Silent (trace ++ trace') := by
  constructor
  · rw [dataWritten_append, first.dataWritten, second.dataWritten, List.append_nil]
  · rw [dataRead_append, first.dataRead, second.dataRead, List.append_nil]
  · intro q
    rw [pushedTo_append, first.pushedTo, second.pushedTo, List.append_nil]
  · intro q
    rw [pulledFrom_append, first.pulledFrom, second.pulledFrom, List.append_nil]
  · rw [callCount_append, first.txEnd, second.txEnd]

theorem Silent.read {r : Register} (other : r ≠ .data) (value : Word) : Silent [.read r value] := by
  cases r with
  | data => exact absurd rfl other
  | status | control | clkscl => exact ⟨rfl, rfl, fun _ => rfl, fun _ => rfl, rfl⟩

theorem Silent.called {hook : Hook} (other : hook ≠ .txEnd) (c : Callback) (arg : Arg) (uart : Uart) (store : Store) :
    Silent [.called hook c arg uart store] := by
  refine ⟨rfl, rfl, fun _ => rfl, fun _ => rfl, ?_⟩
  simp [callCount, Event.calls, other]

/-- No byte written, so nothing to guard. -/
theorem TsGuarded.of_silent {trace : List Event} (none : dataWritten trace = []) : TsGuarded trace := by
  rintro before value after rfl
  simp [dataWritten, Event.written] at none

theorem TsGuarded.append {trace trace' : List Event} (first : TsGuarded trace) (second : TsGuarded trace') :
    TsGuarded (trace ++ trace') := by
  intro before value after split
  rcases List.append_eq_append_iff.1 split with ⟨middle, rfl, inSecond⟩ | ⟨middle, rfl, inFirst⟩
  · obtain ⟨event, mem, shows⟩ := second middle value after inSecond
    exact ⟨event, List.mem_append_right _ mem, shows⟩
  · cases middle with
    | nil =>
      obtain ⟨event, mem, shows⟩ := second [] value after (by simpa using inFirst.symm)
      exact absurd mem List.not_mem_nil
    | cons event rest =>
      simp only [List.cons_append, List.cons.injEq] at inFirst
      obtain ⟨rfl, rfl⟩ := inFirst
      exact first before value rest rfl

section Calls

variable {σ : Type} {made : Made σ} {segment : List Event}

/-- The events of a call are what it appended. -/
theorem events_eq (appended : made.after.trace = made.before.trace ++ segment) : events made = segment := by
  rw [events, appended, List.drop_left]

end Calls

end Leon3Bsp.Uart
