import Leon3Bsp.Lib.PeriodicCounter
import Leon3Bsp.Uart.Config
import Leon3Bsp.Uart.Trace

/-!
# When the length callback is called

`Uart_handleRx` counts the bytes it accepts in `sentBytes` and starts over at the
target length. `Uart_readAsync` does not start the count over, so a count left
by the attachment before makes the first callback too early, or lets it come
only after the count has wrapped.
-/

namespace Leon3Bsp.Uart
set_option autoImplicit false
open Wp Execution PeriodicCounter

variable {σ : Type}

/-- `interruptData.sentBytes`. -/
abbrev World.sentBytes (w : World σ) : Word :=
  w.uart.interruptData.sentBytes

/-- How many bytes the queue behind a pointer accepted. -/
def acceptedBy : Option FifoRef → List Event → Nat
  | some q, trace => (pushedTo q trace).length
  | none, _ => 0

/-- How often the length callback of the handler was called. -/
def lengthCount (handler : RxHandler) (trace : List Event) : Nat :=
  invocations .rxLength handler.lengthCallback handler.lengthArg trace

/-- How many bytes were accepted in a run. -/
def accepted (fifo : Option FifoRef) (calls : List (Made σ)) : Nat :=
  (calls.map fun made => acceptedBy fifo (events made)).sum

/-- The length callback is called with every `targetLength`-th accepted byte,
and never else. -/
def Periodic (fifo : Option FifoRef) (handler : RxHandler) (calls : List (Made σ)) : Prop :=
  AtEach (fun earlier made => lengthCount handler (events made) =
    if acceptedBy fifo (events made) = 1 ∧ handler.targetLength.toNat ∣ accepted fifo (earlier ++ [made]) then 1
    else 0) calls

/-- Interrupts, pulls by the caller and bytes that arrive. -/
def Handles (_ : World σ) : Call → Prop
  | .handleRx | .handleInterrupt | .pull _ _ | .arrive _ => True
  | _ => False

/-- The part of the descriptor that times the length callback. -/
structure SameTiming (w w' : World σ) : Prop where
  rxFifo : w'.uart.rxFifo = w.uart.rxFifo
  rxHandler : w'.uart.rxHandler = w.uart.rxHandler
  sentBytes : w'.sentBytes = w.sentBytes

/-- No byte is accepted and the length callback is not called. -/
structure Uncounted (fifo : Option FifoRef) (w w' : World σ) : Prop where
  timing : SameTiming w w'
  trace : ∃ segment, w'.trace = w.trace ++ segment ∧ acceptedBy fifo segment = 0 ∧ callCount .rxLength segment = 0

/-- What the functions of the caller may do: they leave the reception alone,
and if they touch its queue, they do not fill it. -/
structure Drains (fifo : Option FifoRef) (w w' : World σ) : Prop where
  uncounted : Uncounted fifo w w'
  room : ∀ q, fifo = some q → (w.store.fifo q).isFull = false → (w'.store.fifo q).isFull = false

/-- The count went one on, while `n` bytes were accepted. -/
structure Ticks (fifo : Option FifoRef) (handler : RxHandler) (n : Nat) (w w' : World σ) : Prop where
  rxFifo : w'.uart.rxFifo = w.uart.rxFifo
  rxHandler : w'.uart.rxHandler = w.uart.rxHandler
  sentBytes : w'.sentBytes = tick handler.targetLength w.sentBytes
  trace : ∃ segment, w'.trace = w.trace ++ segment ∧ acceptedBy fifo segment = n ∧
    lengthCount handler segment = if w.sentBytes + 1 = handler.targetLength then 1 else 0

@[simp] theorem acceptedBy_append (fifo : Option FifoRef) (trace trace' : List Event) :
    acceptedBy fifo (trace ++ trace') = acceptedBy fifo trace + acceptedBy fifo trace' := by
  cases fifo with
  | none => rfl
  | some q => simp [acceptedBy]

@[simp] theorem lengthCount_append (handler : RxHandler) (trace trace' : List Event) :
    lengthCount handler (trace ++ trace') = lengthCount handler trace + lengthCount handler trace' :=
  invocations_append _ _ _ _ _

theorem acceptedBy_eq_zero {trace : List Event} (none : ∀ q, pushedTo q trace = []) (fifo : Option FifoRef) :
    acceptedBy fifo trace = 0 := by
  cases fifo with
  | none => rfl
  | some q => rw [acceptedBy, none, List.length_nil]

section Steps

variable {env : Env σ} {fifo : Option FifoRef} {handler : RxHandler} {n : Nat} {w w' w'' : World σ}

theorem SameTiming.trans (first : SameTiming w w') (second : SameTiming w' w'') : SameTiming w w'' :=
  ⟨second.rxFifo.trans first.rxFifo, second.rxHandler.trans first.rxHandler, second.sentBytes.trans first.sentBytes⟩

theorem Uncounted.trans (first : Uncounted fifo w w') (second : Uncounted fifo w' w'') : Uncounted fifo w w'' := by
  obtain ⟨timing, s, trace, unaccepted, uncalled⟩ := first
  obtain ⟨timing', s', trace', unaccepted', uncalled'⟩ := second
  refine ⟨timing.trans timing', s ++ s', ?_, ?_, ?_⟩
  · rw [trace', trace, List.append_assoc]
  · rw [acceptedBy_append, unaccepted, unaccepted']
  · rw [callCount_append, uncalled, uncalled']

theorem Drains.trans (first : Drains fifo w w') (second : Drains fifo w' w'') : Drains fifo w w'' :=
  ⟨first.uncounted.trans second.uncounted, fun q attached room => second.room q attached (first.room q attached room)⟩

/-- A step that leaves the queues alone. -/
theorem Drains.beside {segment : List Event} (timing : SameTiming w w') (store : w'.store = w.store)
    (trace : w'.trace = w.trace ++ segment) (unaccepted : ∀ q, pushedTo q segment = [])
    (uncalled : callCount .rxLength segment = 0) : Drains fifo w w' := by
  refine ⟨⟨timing, segment, trace, acceptedBy_eq_zero unaccepted fifo, uncalled⟩, fun q _ room => ?_⟩
  rw [store]
  exact room

theorem Drains.refl (w : World σ) : Drains fifo w w :=
  .beside ⟨rfl, rfl, rfl⟩ rfl (List.append_nil _).symm (fun _ => rfl) rfl

theorem drains_afterRead (r : Register) (w : World σ) : Drains fifo w (w.afterRead env r) :=
  .beside ⟨rfl, rfl, rfl⟩ rfl rfl (fun _ => rfl) rfl

theorem drains_calling {hook : Hook} (other : hook ≠ .rxLength) (c : Callback) (arg : Arg) (w : World σ) :
    Drains fifo w (w.calling hook c arg) := by
  refine .beside ⟨rfl, rfl, rfl⟩ rfl rfl (fun _ => rfl) ?_
  simp [callCount, Event.calls, other]

theorem absorbs_drains (env : Env σ) : Absorbs env (Drains fifo) (Drains fifo) where
  refl := .refl
  trans := .trans
  afterRead _ w := drains_afterRead _ w
  withErrorFlags _ _ := .beside ⟨rfl, rfl, rfl⟩ rfl (List.append_nil _).symm (fun _ => rfl) rfl
  called reception callback := (drains_calling (by rcases reception with rfl | rfl <;> decide) _ _ _).trans callback

/-- Transmission may take from the reception queue if that is attached twice. -/
theorem uncounted_afterSend (q : FifoRef) (w : World σ) : Uncounted fifo w (w.afterSend env q) :=
  ⟨⟨rfl, rfl, rfl⟩, _, w.afterSend_trace env q, acceptedBy_eq_zero (fun _ => rfl) fifo, rfl⟩

theorem TxOutcome.uncounted {tx : Bool} (outcome : TxOutcome env (Drains fifo) w tx w') : Uncounted fifo w w' := by
  rcases outcome.absorbed (absorbs_drains env) with drains | ⟨q, -, -, -, ⟨-, rfl⟩ | ⟨-, callback⟩⟩
  · exact drains.uncounted
  · exact uncounted_afterSend q w
  · exact (uncounted_afterSend q w).trans ((drains_calling (by decide) _ _ _).trans callback).uncounted

theorem Ticks.after (first : Uncounted fifo w w') (ticks : Ticks fifo handler n w' w'') : Ticks fifo handler n w w'' := by
  obtain ⟨timing, s, trace, unaccepted, uncalled⟩ := first
  obtain ⟨rxFifo, rxHandler, sentBytes, s', trace', one, calls⟩ := ticks
  rw [timing.sentBytes] at sentBytes calls
  refine ⟨rxFifo.trans timing.rxFifo, rxHandler.trans timing.rxHandler, sentBytes, s ++ s', ?_, ?_, ?_⟩
  · rw [trace', trace, List.append_assoc]
  · rw [acceptedBy_append, unaccepted, one, Nat.zero_add]
  · rw [lengthCount_append, calls, lengthCount, invocations_eq_zero _ _ uncalled, Nat.zero_add]

theorem Ticks.before (ticks : Ticks fifo handler n w w') (last : Uncounted fifo w' w'') : Ticks fifo handler n w w'' := by
  obtain ⟨rxFifo, rxHandler, sentBytes, s, trace, one, calls⟩ := ticks
  obtain ⟨timing, s', trace', unaccepted, uncalled⟩ := last
  refine ⟨timing.rxFifo.trans rxFifo, timing.rxHandler.trans rxHandler, timing.sentBytes.trans sentBytes, s ++ s',
    ?_, ?_, ?_⟩
  · rw [trace', trace, List.append_assoc]
  · rw [acceptedBy_append, unaccepted, one, Nat.add_zero]
  · rw [lengthCount_append, calls, lengthCount, invocations_eq_zero _ _ uncalled, Nat.add_zero]

/-- The count goes one on, and the callback is called when it reaches the target. -/
theorem Counted.ticks (counted : Counted (Drains fifo) w w') (rxHandler : w.uart.rxHandler = handler) :
    Ticks fifo handler 0 w w' ∧
      ∀ q, fifo = some q → (w.store.fifo q).isFull = false → (w'.store.fifo q).isFull = false := by
  subst rxHandler
  cases counted with
  | skipped short =>
    refine ⟨⟨rfl, rfl, (if_neg short).symm, [], (List.append_nil _).symm, acceptedBy_eq_zero (fun _ => rfl) fifo, ?_⟩,
      fun q _ room => room⟩
    rw [if_neg short]
    rfl
  | called reached callback =>
    have called : Ticks fifo w.uart.rxHandler 0 w ((w.withSentBytes 0).calling .rxLength
        w.uart.rxHandler.lengthCallback w.uart.rxHandler.lengthArg) := by
      refine ⟨rfl, rfl, (if_pos reached).symm, _, World.calling_trace _ _ _ _, acceptedBy_eq_zero (fun _ => rfl) fifo, ?_⟩
      rw [if_pos reached]
      exact invocations_called _ _ _ _ _
    exact ⟨called.before callback.uncounted, callback.room⟩

/-- A byte that `Uart_handleRx` accepts goes into the queue and is counted once. -/
theorem RxOutcome.timed {rx : Bool} (outcome : RxOutcome env (Drains fifo) w rx w') (rxFifo : w.uart.rxFifo = fifo)
    (rxHandler : w.uart.rxHandler = handler) : Uncounted fifo w w' ∨ Ticks fifo handler 1 w w' := by
  have data : Drains fifo w (w.afterData env) := ((absorbs_drains env).afterStatus w).trans (drains_afterRead .data _)
  cases outcome with
  | disabled off => exact Or.inl ((absorbs_drains env).afterControl w).uncounted
  | nothing on clear => exact Or.inl ((absorbs_drains env).afterStatus w).uncounted
  | detached ready absent => exact Or.inl ((absorbs_drains env).afterStatus w).uncounted
  | dropped ready attached full =>
    exact Or.inl (data.trans ((absorbs_drains env).withErrorFlags _ _)).uncounted
  | accepted ready attached room matched counted attached' =>
    rename_i q r w₁ w₂
    have before := data.trans (matched.absorbed (absorbs_drains env))
    have handler₁ := before.uncounted.timing.rxHandler.trans rxHandler
    obtain ⟨ticks, keeps⟩ := counted.ticks handler₁
    have whole := Ticks.after before.uncounted ticks
    have same : fifo = some r := by rw [← rxFifo, ← whole.rxFifo, attached']
    have here : q = r := by
      rw [rxFifo, same] at attached
      exact (Option.some.inj attached).symm
    subst here
    have free : (w₂.store.fifo q).isFull = false := keeps q same (before.room q same room)
    obtain ⟨rxFifo', rxHandler', sentBytes, s, trace, none, calls⟩ := whole
    refine Or.inr ⟨?_, ?_, ?_, s ++ [.pushed q (w.rxByte env)], ?_, ?_, ?_⟩
    · rw [World.afterPush_uart, rxFifo']
    · rw [World.afterPush_uart, rxHandler']
    · rw [World.sentBytes, World.afterPush_uart, ← sentBytes]
    · rw [w₂.afterPush_room free, trace, List.append_assoc]
    · rw [acceptedBy_append, none, same]
      rw [acceptedBy, pushedTo_pushed, if_pos rfl]
      rfl
    · rw [lengthCount_append, calls]
      exact Nat.add_zero _

theorem InterruptOutcome.timed (outcome : InterruptOutcome env (Drains fifo) w w') (rxFifo : w.uart.rxFifo = fifo)
    (rxHandler : w.uart.rxHandler = handler) : Uncounted fifo w w' ∨ Ticks fifo handler 1 w w' := by
  obtain ⟨errorOutcome, rxOutcome, txOutcome⟩ := outcome
  have first := (errorOutcome.absorbed (absorbs_drains env)).uncounted
  have last := txOutcome.uncounted
  rcases rxOutcome.timed (first.timing.rxFifo.trans rxFifo) (first.timing.rxHandler.trans rxHandler) with
    uncounted | ticks
  · exact Or.inl ((first.trans uncounted).trans last)
  · exact Or.inr ((Ticks.after first ticks).before last)

theorem timed_exec (callbacks : Callbacks partially env (Drains fifo)) (rxFifo : w.uart.rxFifo = fifo)
    (rxHandler : w.uart.rxHandler = handler) {call : Call} (handles : Handles w call) :
    wp partially (exec env call) (fun _ w' => Uncounted fifo w w' ∨ Ticks fifo handler 1 w w') w := by
  have detaching : Detaching partially (Drains (σ := σ) fifo) := fun _ _ _ _ _ => trivial
  cases call with
  | handleRx =>
    rw [exec, wp_bind]
    apply wp_mono (wp_handleRx callbacks detaching)
    intro _ w' outcome
    exact outcome.timed rxFifo rxHandler
  | handleInterrupt =>
    rw [exec, wp_bind]
    apply wp_mono (wp_handleInterrupt callbacks detaching)
    intro _ w' outcome
    exact outcome.timed rxFifo rxHandler
  | pull q data =>
    have timing : SameTiming w (w.afterPull q data) := by
      constructor <;> simp only [World.sentBytes, World.afterPull_uart]
    rw [exec, wp_bind, pullByte, wp_act, wp_pure]
    refine Or.inl ?_
    cases empty : (w.store.fifo q).isEmpty with
    | true =>
      rw [w.afterPull_empty empty]
      exact (Drains.refl w).uncounted
    | false => exact ⟨timing, _, w.afterPull_held empty data, acceptedBy_eq_zero (fun _ => rfl) fifo, rfl⟩
  | arrive byte =>
    exact Or.inl ⟨⟨rfl, rfl, rfl⟩, [], (List.append_nil _).symm, acceptedBy_eq_zero (fun _ => rfl) fifo, rfl⟩
  | _ => exact handles.elim

end Steps

/-- How the count goes on from `s`, and what the period depends on. -/
structure Timed (fifo : Option FifoRef) (handler : RxHandler) (s : Word) (calls : List (Made σ)) (w : World σ) :
    Prop where
  rxFifo : w.uart.rxFifo = fifo
  rxHandler : w.uart.rxHandler = handler
  sentBytes : w.sentBytes = after handler.targetLength s (accepted fifo calls)
  periodic : Periodic fifo handler calls ↔ ∀ i < accepted fifo calls,
    (after handler.targetLength s i + 1 = handler.targetLength ↔ handler.targetLength.toNat ∣ i + 1)

section Runs

variable {env : Env σ} {fifo : Option FifoRef} {handler : RxHandler} {s : Word} {calls : List (Made σ)}

@[simp] theorem accepted_snoc (made : Made σ) : accepted fifo (calls ++ [made]) = accepted fifo calls + acceptedBy fifo (events made) := by
  simp [accepted]

theorem Timed.uncounted (made : Made σ) (timed : Timed fifo handler s calls made.before) (uncounted : Uncounted fifo made.before made.after) :
    Timed fifo handler s (calls ++ [made]) made.after := by
  obtain ⟨timing, segment, trace, none, uncalled⟩ := uncounted
  have same : accepted fifo (calls ++ [made]) = accepted fifo calls := by
    rw [accepted_snoc, events_eq trace, none, Nat.add_zero]
  refine ⟨timing.rxFifo.trans timed.rxFifo, timing.rxHandler.trans timed.rxHandler, ?_, ?_⟩
  · rw [timing.sentBytes, timed.sentBytes, same]
  · rw [same, ← timed.periodic, Periodic, atEach_snoc, events_eq trace, none, lengthCount,
      invocations_eq_zero _ _ uncalled]
    simp [Periodic]

theorem Timed.ticks (made : Made σ) (timed : Timed fifo handler s calls made.before) (ticks : Ticks fifo handler 1 made.before made.after) :
    Timed fifo handler s (calls ++ [made]) made.after := by
  obtain ⟨rxFifo, rxHandler, sentBytes, segment, trace, one, calls'⟩ := ticks
  have next : accepted fifo (calls ++ [made]) = accepted fifo calls + 1 := by
    rw [accepted_snoc, events_eq trace, one]
  refine ⟨rxFifo.trans timed.rxFifo, rxHandler.trans timed.rxHandler, ?_, ?_⟩
  · rw [sentBytes, timed.sentBytes, next, after_succ]
  · rw [next, Nat.forall_lt_succ_right, ← timed.periodic, Periodic, atEach_snoc, next, events_eq trace, one, calls',
      timed.sentBytes]
    apply and_congr_right
    intro _
    -- the callback was called exactly if the count reached the target
    split <;> split <;> simp_all

/-- The run lemma. -/
theorem Timed.run (callbacks : Callbacks partially env (Drains fifo)) {attached w : World σ}
    (rxFifo : attached.uart.rxFifo = fifo) (rxHandler : attached.uart.rxHandler = handler)
    (run : Run env Handles attached calls w) : Timed fifo handler attached.sentBytes calls w := by
  refine run.invariant (I := Timed fifo handler attached.sentBytes) ⟨rxFifo, rxHandler, rfl, ?_⟩ ?_
  · exact iff_of_true (atEach_nil _) fun i none => absurd none (Nat.not_lt_zero i)
  · intro calls w call answer w' timed handles ran
    have spec := timed_exec callbacks timed.rxFifo timed.rxHandler handles
    have step := wp_ended spec ran
    rcases step with uncounted | ticks
    · exact Timed.uncounted ⟨w, call, answer, w'⟩ timed uncounted
    · exact Timed.ticks ⟨w, call, answer, w'⟩ timed ticks

end Runs

/-- **The period of the length callback.** After `Uart_readAsync` the callback
comes with every `targetLength`-th accepted byte if the count was zero then, and
otherwise only as long as fewer bytes are accepted than it takes to tell. -/
theorem length_periodic_iff {env : Env σ} {fifo : Option FifoRef} (callbacks : Callbacks partially env (Drains fifo))
    {handler : RxHandler} (positive : handler.targetLength ≠ 0) (start : World σ) :
    ∃ attached, exec env (.readAsync fifo handler) start = .ok (.done, attached) ∧
      ∀ calls w, Run env Handles attached calls w →
        (Periodic fifo handler calls ↔
          start.sentBytes = 0 ∨ accepted fifo calls < deviation handler.targetLength start.sentBytes) := by
  refine ⟨_, rfl, fun calls w run => ?_⟩
  rw [← keepsTime_iff positive]
  exact (Timed.run callbacks rfl rfl run).periodic

namespace Board

theorem callbacks_drain (fifo : Option FifoRef) : Callbacks partially env (Drains fifo) :=
  ⟨fun w => .refl w, fun _ _ w => .refl w⟩

/-- A handler for every second byte. -/
def everySecond : RxHandler :=
  { defaultRxHandler with targetLength := 2 }

end Board

/-- A count of zero: the second byte is reported. -/
theorem length_periodic_second :
    ∃ attached calls w,
      exec Board.env (.readAsync (some 0) Board.everySecond) (Board.world 4 ⟨1, [], []⟩) = .ok (.done, attached) ∧
      Run Board.env Handles attached calls w ∧
      calls.map Taken.input = [.arrive 0x41, .handleRx, .arrive 0x42, .handleInterrupt] ∧
      Periodic (some 0) Board.everySecond calls := by
  obtain ⟨w, performed⟩ : ∃ w, perform (exec Board.env) [.readAsync (some 0) Board.everySecond, .arrive 0x41, .handleRx,
      .arrive 0x42, .handleInterrupt] (Board.world 4 ⟨1, [], []⟩) = .ok (⟨⟩, w) := ⟨_, rfl⟩
  have positive : Board.everySecond.targetLength ≠ 0 := by decide
  obtain ⟨attached, attach, periodic⟩ := length_periodic_iff (Board.callbacks_drain (some 0)) positive
    (Board.world 4 ⟨1, [], []⟩)
  have handles : ∀ call ∈ [.arrive 0x41, .handleRx, .arrive 0x42, .handleInterrupt], ∀ w : World Board, Handles w call := by
    simp [Handles]
  obtain ⟨calls, run, inputs⟩ := perform_run handles (perform_rest performed attach)
  exact ⟨attached, calls, w, attach, run, inputs, (periodic calls w run).2 (Or.inl rfl)⟩

/-- One byte is received between two attachments: the callback of the second
comes with its first byte instead of its second. -/
theorem length_early :
    ∃ history start attached calls w,
      Run Board.env (fun _ _ => True) (Board.world 4 ⟨0, [], []⟩) history start ∧
      exec Board.env (.readAsync (some 0) Board.everySecond) start = .ok (.done, attached) ∧
      Run Board.env Handles attached calls w ∧ ¬ Periodic (some 0) Board.everySecond calls := by
  have nothing : Run Board.env (fun _ _ => True) (Board.world 4 ⟨0, [], []⟩) [] _ := .nil
  have configured := (nothing.snoc (i := .init .id0) trivial rfl).snoc (i := .setConfig (receiveOnly .none)) trivial rfl
  have history := ((configured.snoc (i := .readAsync (some 0) Board.everySecond) trivial rfl).snoc
    (i := .arrive 0x41) trivial rfl).snoc (i := .handleRx) trivial rfl
  refine ⟨_, _, _, _, _, history, rfl,
    (Run.nil.snoc (i := .arrive 0x42) (by trivial) rfl).snoc (i := .handleRx) (by trivial) rfl, fun periodic => ?_⟩
  have last := (atEach_snoc.1 periodic).2
  cases last

end Leon3Bsp.Uart
