import Leon3Bsp.Lib.Conservation
import Leon3Bsp.Uart.Board
import Leon3Bsp.Uart.Trace

/-!
# The transmitted stream

From the call that attaches a queue on, the bytes written to the data register
are the bytes that leave the queue, in order. Three paths send: the first byte
of `Uart_writeAsync`, the interrupt, and `Uart_write`, which is refused. Each
keeps the invariant `Sending` and conserves the stream.
-/

namespace Leon3Bsp.Uart
set_option autoImplicit false
open Wp Execution Conservation

variable {σ : Type}

/-- The part of the descriptor that transmission depends on. -/
structure SamePath (w w' : World σ) : Prop where
  txFifo : w'.uart.txFifo = w.uart.txFifo
  rxFifo : w'.uart.rxFifo = w.uart.rxFifo
  txHandler : w'.uart.txHandler = w.uart.txHandler

/-- Queue `q` is being sent: it is attached, and the reception queue is another one. -/
structure Sending (queues : Set FifoRef) (q : FifoRef) (w : World σ) : Prop where
  separate : Store.Separate queues w.store
  member : q ∈ queues
  txFifo : w.uart.txFifo = some q
  rxMember : ∀ r, w.uart.rxFifo = some r → r ∈ queues ∧ r ≠ q

/-- Nothing is sent and no transmission ends, nothing leaves `q`, and the
queues stay well formed. Bytes may enter `q`. -/
structure Spares (queues : Set FifoRef) (q : FifoRef) (w w' : World σ) (segment : List Event) : Prop where
  path : SamePath w w'
  separate : Store.Separate queues w.store → Store.Separate queues w'.store
  contents : Sending queues q w → w'.store.contents q = w.store.contents q ++ pushedTo q segment
  trace : w'.trace = w.trace ++ segment
  dataWritten : dataWritten segment = []
  txEnd : callCount .txEnd segment = 0

/-- What the functions of the caller may do while `q` is being sent: anything
but to touch the driver, write to the device or take from `q`. -/
def Sparing (queues : Set FifoRef) (q : FifoRef) (w w' : World σ) : Prop :=
  ∃ segment, Spares queues q w w' segment

/-- What was sent between two worlds is what left the queue. -/
structure Sends (q : FifoRef) (w w' : World σ) (segment : List Event) : Prop where
  trace : w'.trace = w.trace ++ segment
  conserved : Conserved (w.store.contents q) (pushedTo q segment) (dataWritten segment) (w'.store.contents q)
  guarded : TsGuarded segment

section Steps

variable {env : Env σ} {queues : Set FifoRef} {q : FifoRef} {w w' w'' : World σ}

theorem SamePath.trans (first : SamePath w w') (second : SamePath w' w'') : SamePath w w'' :=
  ⟨second.txFifo.trans first.txFifo, second.rxFifo.trans first.rxFifo, second.txHandler.trans first.txHandler⟩

theorem Sending.path (sending : Sending queues q w) (path : SamePath w w') (separate : Store.Separate queues w'.store) :
    Sending queues q w' := by
  refine ⟨separate, sending.member, path.txFifo.trans sending.txFifo, fun r attached => ?_⟩
  rw [path.rxFifo] at attached
  exact sending.rxMember r attached

theorem Spares.sending {segment : List Event} (spares : Spares queues q w w' segment)
    (sending : Sending queues q w) : Sending queues q w' :=
  sending.path spares.path (spares.separate sending.separate)

theorem Spares.sends {segment : List Event} (spares : Spares queues q w w' segment)
    (sending : Sending queues q w) : Sends q w w' segment := by
  refine ⟨spares.trace, ?_, .of_silent spares.dataWritten⟩
  rw [spares.dataWritten, spares.contents sending]
  exact .enter _ _

theorem Sparing.refl (w : World σ) : Sparing queues q w w :=
  ⟨[], ⟨rfl, rfl, rfl⟩, fun separate => separate, fun _ => (List.append_nil _).symm, (List.append_nil _).symm, rfl, rfl⟩

theorem Sparing.trans (first : Sparing queues q w w') (second : Sparing queues q w' w'') :
    Sparing queues q w w'' := by
  obtain ⟨s, first⟩ := first
  obtain ⟨s', second⟩ := second
  refine ⟨s ++ s', first.path.trans second.path, second.separate ∘ first.separate, fun sending => ?_, ?_, ?_, ?_⟩
  · rw [second.contents (first.sending sending), first.contents sending, pushedTo_append, List.append_assoc]
  · rw [second.trace, first.trace, List.append_assoc]
  · rw [dataWritten_append, first.dataWritten, second.dataWritten, List.append_nil]
  · rw [callCount_append, first.txEnd, second.txEnd]

/-- A step beside the queues, seen by a silent event or none. -/
theorem Sparing.beside {segment : List Event} (path : SamePath w w') (store : w'.store = w.store)
    (trace : w'.trace = w.trace ++ segment) (silent : Silent segment) : Sparing queues q w w' := by
  refine ⟨segment, path, fun separate => store ▸ separate, fun _ => ?_, trace, silent.dataWritten, silent.txEnd⟩
  rw [store, silent.pushedTo, List.append_nil]

theorem sparing_afterRead (r : Register) (w : World σ) : Sparing queues q w (w.afterRead env r) := by
  refine ⟨[.read r (w.value env r)], ⟨rfl, rfl, rfl⟩, fun separate => separate,
    fun _ => (List.append_nil _).symm, rfl, ?_, rfl⟩
  cases r <;> rfl

theorem sparing_calling {hook : Hook} (other : hook ≠ .txEnd) (c : Callback) (arg : Arg) (w : World σ) :
    Sparing queues q w (w.calling hook c arg) :=
  .beside ⟨rfl, rfl, rfl⟩ rfl rfl (.called other c arg w.uart w.store)

theorem absorbs_sparing (env : Env σ) : AbsorbsCount env (Sparing queues q) (Sparing queues q) where
  refl := .refl
  trans := .trans
  afterRead _ w := sparing_afterRead _ w
  withErrorFlags _ _ := .beside ⟨rfl, rfl, rfl⟩ rfl (List.append_nil _).symm .nil
  called reception callback := (sparing_calling (by rcases reception with rfl | rfl <;> decide) _ _ _).trans callback
  withSentBytes _ _ := .beside ⟨rfl, rfl, rfl⟩ rfl (List.append_nil _).symm .nil
  lengthCalled callback := (sparing_calling (by decide) _ _ _).trans callback

/-- A push to another queue. -/
theorem sparing_push_other {r : FifoRef} (sending : Sending queues q w) (member : r ∈ queues) (apart : r ≠ q)
    (data : Byte) : Sparing queues q w (w.afterPush r data) := by
  have path : SamePath w (w.afterPush r data) := by constructor <;> rw [World.afterPush_uart]
  cases full : (w.store.fifo r).isFull with
  | true =>
    rw [w.afterPush_full full]
    exact .refl w
  | false =>
    have becomes := Store.push_room sending.separate member full data
    have none : pushedTo q [.pushed r data] = [] := by rw [pushedTo_pushed, if_neg apart.symm]
    refine ⟨[.pushed r data], path, fun _ => ?_, fun _ => ?_, w.afterPush_room full data, rfl, rfl⟩
    · rw [World.afterPush_store]
      exact becomes.separate
    · rw [World.afterPush_store, none, List.append_nil]
      exact becomes.elsewhere q sending.member apart.symm

/-- Reception leaves the queue being sent alone. -/
theorem RxOutcome.sparing {rx : Bool} (outcome : RxOutcome env (Sparing queues q) w rx w')
    (sending : Sending queues q w) : Sparing queues q w w' := by
  rcases outcome.absorbed (absorbs_sparing env) (sparing_afterRead .data) with sparing | ⟨w₁, r, byte, sparing, attached, rfl⟩
  · exact sparing
  · obtain ⟨segment, spares⟩ := sparing
    have sending₁ := spares.sending sending
    obtain ⟨member, apart⟩ := sending₁.rxMember r attached
    exact Sparing.trans ⟨segment, spares⟩ (sparing_push_other sending₁ member apart byte)

/-- What `Uart_handleTx` does to the queue being sent: nothing, or it sends the
oldest byte, and calls the handler after the last one. -/
inductive TxStep (queues : Set FifoRef) (q : FifoRef) (w w' : World σ) : Prop
  | idle (sparing : Sparing queues q w w')
  | sent (w₁ : World σ) {byte : Byte} {rest : List Byte} {control status : Word} (front : w.store.contents q = byte :: rest)
      (shows : getFlag status Status.TS = true) (path : SamePath w w₁) (separate : Store.Separate queues w₁.store)
      (contents : w₁.store.contents q = rest) (trace : w₁.trace = w.trace ++
        [.read .control control, .read .status status, .write .data (byte.setWidth 32)])
      (callback : rest ≠ [] ∧ w' = w₁ ∨ rest = [] ∧
        Sparing queues q (w₁.calling .txEnd w.uart.txHandler.callback w.uart.txHandler.arg) w')

theorem TxOutcome.step {tx : Bool} (outcome : TxOutcome env (Sparing queues q) w tx w')
    (sending : Sending queues q w) : TxStep queues q w w' := by
  rcases outcome.absorbed (absorbs_sparing env).toAbsorbs with sparing | ⟨r, ready, attached, held, ended⟩
  · exact .idle sparing
  · rw [sending.txFifo] at attached
    cases attached
    obtain ⟨rest, front, becomes, drained⟩ := w.afterSend_held env sending.separate sending.member held
    refine .sent (w.afterSend env q) front ready.2 ⟨rfl, rfl, rfl⟩ becomes.separate becomes.here (w.afterSend_trace env q) ?_
    rcases ended with ⟨more, last⟩ | ⟨empty, callback⟩
    · exact Or.inl ⟨fun none => ne_true_of_eq_false more (drained.2 none), last⟩
    · exact Or.inr ⟨drained.1 empty, callback⟩

theorem Sends.trans {segment segment' : List Event} (first : Sends q w w' segment) (second : Sends q w' w'' segment') :
    Sends q w w'' (segment ++ segment') := by
  refine ⟨?_, ?_, first.guarded.append second.guarded⟩
  · rw [second.trace, first.trace, List.append_assoc]
  · rw [dataWritten_append, pushedTo_append]
    exact first.conserved.trans second.conserved

/-- The oldest byte is sent after `TS` was read. -/
theorem sends_front {byte : Byte} {rest : List Byte} {control status : Word} (front : w.store.contents q = byte :: rest)
    (shows : getFlag status Status.TS = true) (contents : w'.store.contents q = rest) (trace : w'.trace = w.trace ++
      [.read .control control, .read .status status, .write .data (byte.setWidth 32)]) :
    Sends q w w' [.read .control control, .read .status status, .write .data (byte.setWidth 32)] := by
  refine ⟨trace, ?_, ?_⟩
  · show Conserved _ [] (dataWritten (.write .data (byte.setWidth 32) :: [])) _
    rw [dataWritten_write, front, contents]
    exact .leave byte rest
  · intro before value after split
    match before, split with
    | [], split => simp at split
    | [_], split => simp at split
    | a :: b :: _, split =>
      simp only [List.cons_append, List.cons.injEq] at split
      obtain ⟨-, rfl, -⟩ := split
      exact ⟨_, List.mem_cons_of_mem _ List.mem_cons_self, shows⟩

/-- A callback called at the end of a transmission. -/
theorem sends_calling (c : Callback) (arg : Arg) (w : World σ) :
    Sends q w (w.calling .txEnd c arg) [.called .txEnd c arg w.uart w.store] :=
  ⟨rfl, .refl _, .of_silent rfl⟩

theorem TxStep.sending (step : TxStep queues q w w') (sending : Sending queues q w) :
    Sending queues q w' ∧ ∃ segment, Sends q w w' segment := by
  cases step with
  | idle sparing =>
    obtain ⟨segment, spares⟩ := sparing
    exact ⟨spares.sending sending, segment, spares.sends sending⟩
  | sent w₁ front shows path separate contents trace callback =>
    have sends := sends_front front shows contents trace
    have sending₁ := sending.path path separate
    rcases callback with ⟨-, rfl⟩ | ⟨-, segment, spares⟩
    · exact ⟨sending₁, _, sends⟩
    · have entered : Sending queues q (World.calling _ .txEnd w.uart.txHandler.callback w.uart.txHandler.arg) :=
        sending₁.path ⟨rfl, rfl, rfl⟩ separate
      exact ⟨spares.sending entered, _, (sends.trans (sends_calling _ _ _)).trans (spares.sends entered)⟩

/-- Up to `Uart_handleTx` an interrupt sends nothing. -/
theorem InterruptOutcome.step (outcome : InterruptOutcome env (Sparing queues q) w w')
    (sending : Sending queues q w) :
    ∃ w₁, Sparing queues q w w₁ ∧ Sending queues q w₁ ∧ TxStep queues q w₁ w' := by
  obtain ⟨errorOutcome, rxOutcome, txOutcome⟩ := outcome
  obtain ⟨s₁, spares₁⟩ := errorOutcome.absorbed (absorbs_sparing env).toAbsorbs
  have sending₁ := spares₁.sending sending
  obtain ⟨s₂, spares₂⟩ := rxOutcome.sparing sending₁
  have sending₂ := spares₂.sending sending₁
  exact ⟨_, Sparing.trans ⟨s₁, spares₁⟩ ⟨s₂, spares₂⟩, sending₂, txOutcome.step sending₂⟩

theorem InterruptOutcome.sending (outcome : InterruptOutcome env (Sparing queues q) w w')
    (sending : Sending queues q w) : Sending queues q w' ∧ ∃ segment, Sends q w w' segment := by
  obtain ⟨w₁, ⟨s, spares⟩, sending₁, step⟩ := outcome.step sending
  obtain ⟨sending₂, s', sends'⟩ := step.sending sending₁
  exact ⟨sending₂, _, (spares.sends sending).trans sends'⟩

theorem sparing_detaching : Detaching total (Sparing (σ := σ) queues q) := by
  rintro w w' ⟨segment, spares⟩ attached absent
  rw [spares.path.rxFifo] at absent
  exact attached absent

end Steps

/-- The calls of a run in which queue `q` is being sent. -/
def Sent (q : FifoRef) (_ : World σ) : Call → Prop
  | .handleInterrupt | .write _ _ _ => True
  | .push fifo _ => fifo = q
  | _ => False

/-- `Uart_write` is refused and writes nothing. -/
def Refused (made : Made σ) : Prop :=
  ∀ data limit errCode, made.input = .write data limit errCode →
    made.output = .written false .txFifoNotNull ∧ dataWritten (events made) = []

/-- What one call does while queue `q` is being sent. -/
structure SendStep (queues : Set FifoRef) (q : FifoRef) (made : Made σ) : Prop where
  sending : Sending queues q made.after
  sends : ∃ segment, Sends q made.before made.after segment
  refused : Refused made

section Calls

variable {env : Env σ} {queues : Set FifoRef} {q : FifoRef} {w : World σ}

theorem sendStep_handleInterrupt (callbacks : Callbacks total env (Sparing queues q))
    (sending : Sending queues q w) :
    wp total (exec env .handleInterrupt) (fun answer w' => SendStep queues q ⟨w, .handleInterrupt, answer, w'⟩) w := by
  rw [exec, wp_bind]
  apply wp_mono (wp_handleInterrupt callbacks sparing_detaching)
  intro _ w' outcome
  obtain ⟨sending', sends⟩ := outcome.sending sending
  exact ⟨sending', sends, fun _ _ _ other => by cases other⟩

theorem sendStep_write (sending : Sending queues q w) (data : Byte) (limit : Word) (errCode : ErrorCode) :
    wp total (exec env (.write data limit errCode))
      (fun answer w' => SendStep queues q ⟨w, .write data limit errCode, answer, w'⟩) w := by
  have path : SamePath w ((w.masked false).masked true) := ⟨rfl, rfl, rfl⟩
  rw [exec]
  unfold write
  simp only [wp_bind, wp_vectorDisable, wp_descriptor, World.masked_uart, sending.txFifo, wp_vectorEnable, wp_pure]
  refine ⟨sending.path path sending.separate, ⟨[], (List.append_nil _).symm, .refl _, .of_silent rfl⟩, ?_⟩
  intro _ _ _ _
  refine ⟨rfl, ?_⟩
  rw [events_eq (List.append_nil _).symm]
  rfl

theorem sendStep_push (sending : Sending queues q w) (data : Byte) :
    wp total (exec env (.push q data)) (fun answer w' => SendStep queues q ⟨w, .push q data, answer, w'⟩) w := by
  have path : SamePath w (w.afterPush q data) := by constructor <;> rw [World.afterPush_uart]
  rw [exec, wp_bind, pushByte, wp_act, wp_pure]
  cases full : (w.store.fifo q).isFull with
  | true =>
    rw [w.afterPush_full full]
    exact ⟨sending, ⟨[], (List.append_nil _).symm, .refl _, .of_silent rfl⟩, fun _ _ _ other => by cases other⟩
  | false =>
    have becomes := Store.push_room sending.separate sending.member full data
    refine ⟨sending.path path ?_, ⟨[.pushed q data], w.afterPush_room full data, ?_, .of_silent rfl⟩,
      fun _ _ _ other => by cases other⟩
    · rw [World.afterPush_store]
      exact becomes.separate
    · have entered : pushedTo q [.pushed q data] = [data] := by rw [pushedTo_pushed, if_pos rfl]
      rw [entered, World.afterPush_store, becomes.here]
      exact .enter _ _

theorem sendStep_exec (callbacks : Callbacks total env (Sparing queues q)) (sending : Sending queues q w)
    {call : Call} (sent : Sent q w call) :
    wp total (exec env call) (fun answer w' => SendStep queues q ⟨w, call, answer, w'⟩) w := by
  cases call with
  | handleInterrupt => exact sendStep_handleInterrupt callbacks sending
  | write data limit errCode => exact sendStep_write sending data limit errCode
  | push fifo data =>
    cases sent
    exact sendStep_push sending data
  | _ => exact sent.elim

/-- The first byte of `Uart_writeAsync`. -/
theorem wp_kick {may : Fault → Prop} {Q : Unit → World σ → Prop} (attached : w.uart.txFifo = some q)
    (sent : getFlag (w.value env .status) Status.TS = true →
      Q () (((w.afterRead env .status).withStore (w.store.pull q 0).2.2).afterWrite env .data
        ((w.store.pull q 0).2.1.setWidth 32)))
    (busy : getFlag (w.value env .status) Status.TS = false → Q () (w.afterRead env .status)) :
    wp may (kick env) Q w := by
  unfold kick
  simp only [wp_bind, wp_readRegister, wp_ite, wp_descriptor, World.afterRead_uart, attached, wp_fifoPull, wp_writeData,
    wp_pure]
  split
  case isTrue shows => exact sent shows
  case isFalse hides => exact busy (eq_false_of_ne_true hides)

/-- A queue that holds something may be attached. -/
structure Attachable (queues : Set FifoRef) (q : FifoRef) (w : World σ) : Prop where
  separate : Store.Separate queues w.store
  member : q ∈ queues
  held : w.store.contents q ≠ []
  rxMember : ∀ r, w.uart.rxFifo = some r → r ∈ queues ∧ r ≠ q

/-- What `Uart_writeAsync` does with a queue that holds something: it waits for
the first interrupt, or sends the first byte itself. -/
inductive Attached (env : Env σ) (queues : Set FifoRef) (q : FifoRef) (handler : TxHandler) (w w' : World σ) : Prop
  | waiting (hides : getFlag (w.value env .status) Status.TS = false) (sending : Sending queues q w')
      (handler : w'.uart.txHandler = handler) (contents : w'.store.contents q = w.store.contents q)
      (trace : w'.trace = w.trace ++ [.read .status (w.value env .status)])
  | kicked {byte : Byte} {rest : List Byte} (shows : getFlag (w.value env .status) Status.TS = true)
      (sending : Sending queues q w') (handler : w'.uart.txHandler = handler)
      (front : w.store.contents q = byte :: rest) (contents : w'.store.contents q = rest)
      (trace : w'.trace = w.trace ++ [.read .status (w.value env .status), .write .data (byte.setWidth 32)])

theorem wp_attach (attachable : Attachable queues q w) (handler : TxHandler) :
    wp total (exec env (.writeAsync (some q) handler))
      (fun answer w' => answer = .done ∧ Attached env queues q handler w w') w := by
  obtain ⟨separate, member, held, rxMember⟩ := attachable
  have some : (w.store.fifo q).isEmpty = false := by
    rw [← Bool.not_eq_true, Store.isEmpty_iff separate member]
    exact held
  rw [exec]
  unfold writeAsync
  simp only [wp_bind, wp_vectorDisable, wp_modifyDescriptor, wp_vectorEnable, wp_pure]
  apply wp_kick (q := q) rfl
  · intro shows
    obtain ⟨rest, front, becomes⟩ := Store.pull_held separate member some 0
    refine ⟨trivial, .kicked shows ⟨becomes.separate, member, rfl, rxMember⟩ rfl front becomes.here ?_⟩
    simp only [World.masked_trace, World.afterWrite_trace, World.withStore_trace, World.afterRead_trace,
      World.withUart_trace, List.append_assoc]
    rfl
  · intro hides
    exact ⟨trivial, .waiting hides ⟨separate, member, rfl, rxMember⟩ rfl rfl rfl⟩

theorem Attached.sending {handler : TxHandler} {w' : World σ} (attached : Attached env queues q handler w w') :
    Sending queues q w' ∧ ∃ segment, Sends q w w' segment := by
  cases attached with
  | waiting hides sending handler contents trace =>
    exact ⟨sending, _, trace, .of_eq contents, .of_silent rfl⟩
  | kicked shows sending handler front contents trace =>
    rename_i byte rest
    refine ⟨sending, _, trace, ?_, ?_⟩
    · show Conserved _ [] (dataWritten (.write .data (byte.setWidth 32) :: [])) _
      rw [dataWritten_write, front, contents]
      exact .leave byte rest
    · intro before value after split
      match before, split with
      | [], split => simp at split
      | a :: _, split =>
        simp only [List.cons_append, List.cons.injEq] at split
        obtain ⟨rfl, -⟩ := split
        exact ⟨_, List.mem_cons_self, shows⟩

end Calls

/-- **The transmitted stream.** Whatever follows the call that attaches `q`, the
bytes sent since and those still queued are the bytes it held and those pushed
since; `Uart_write` is refused, and nothing is sent unless `TS` was seen in the
same call. -/
theorem transmit_conserved {env : Env σ} {queues : Set FifoRef} {q : FifoRef}
    (callbacks : Callbacks total env (Sparing queues q)) {start : World σ} (attachable : Attachable queues q start)
    (handler : TxHandler) :
    ∃ attached, exec env (.writeAsync (some q) handler) start = .ok (.done, attached) ∧
      TsGuarded (events (⟨start, .writeAsync (some q) handler, .done, attached⟩ : Made σ)) ∧
      ∀ calls w, Run env (Sent q) attached calls w →
        (∃ segment, w.trace = start.trace ++ segment ∧
          dataWritten segment ++ w.store.contents q = start.store.contents q ++ pushedTo q segment) ∧
        (∀ made ∈ calls, Refused made ∧ TsGuarded (events made)) ∧
        ∀ call, Sent q w call → ∃ answer w', exec env call w = .ok (answer, w') := by
  obtain ⟨answer, attached, attach, rfl, first⟩ := wp_total (wp_attach attachable handler)
  obtain ⟨sending, s₀, sends₀⟩ := first.sending
  refine ⟨attached, attach, ?_, fun calls w run => ?_⟩
  · rw [events_eq sends₀.trace]
    exact sends₀.guarded
  -- the stream so far is an invariant of the run
  have stream : (Sending queues q w ∧ ∃ segment, Sends q start w segment) ∧
      ∀ made ∈ calls, Refused made ∧ TsGuarded (events made) := by
    apply run.invariant_each (I := fun _ w => Sending queues q w ∧ ∃ segment, Sends q start w segment) ⟨sending, s₀, sends₀⟩
    rintro calls w call answer w' ⟨sending, segment, sends⟩ sent run
    have step := wp_ended (sendStep_exec callbacks sending sent) run
    obtain ⟨segment', sends'⟩ := step.sends
    refine ⟨⟨step.sending, segment ++ segment', sends.trans sends'⟩, step.refused, ?_⟩
    rw [events_eq sends'.trace]
    exact sends'.guarded
  obtain ⟨⟨sending, segment, sends⟩, each⟩ := stream
  refine ⟨⟨segment, sends.trace, sends.conserved.symm⟩, each, fun call sent => ?_⟩
  obtain ⟨answer, w', ran, -⟩ := wp_total (sendStep_exec callbacks sending sent)
  exact ⟨answer, w', ran⟩

namespace Board

/-- Every queue holds `size` bytes and is full. -/
def fullStore (size : Nat) : Store :=
  ⟨fun a => BitVec.ofNat 8 a, fun q => (emptyFifo size q).initFromBytes (0x40000000 + 0x10000 * q) size⟩

/-- A board with full queues, the transmitter on. -/
def holding (size : Nat) (status : List Word) : World Board :=
  { world size ⟨2, status, []⟩ with store := fullStore size }

theorem fullStore_wf (size : Nat) (few : size = 1 ∨ size = 2) : ((fullStore size).fifo 0).WF := by
  rcases few with rfl | rfl <;> exact ⟨by decide, by decide, by decide, by decide, by decide⟩

theorem callbacks_sparing (queues : Set FifoRef) (q : FifoRef) :
    Callbacks total env (Sparing queues q) :=
  ⟨fun w => .refl w, fun _ _ w => .refl w⟩

theorem holding_attachable (size : Nat) (few : size = 1 ∨ size = 2) (status : List Word) :
    Attachable {0} 0 (holding size status) := by
  have wf := fullStore_wf size few
  refine ⟨⟨?_, ?_⟩, rfl, ?_, fun r attached => by cases attached⟩
  · rintro q rfl
    exact wf
  · rintro q rfl r rfl apart
    exact absurd rfl apart
  · intro none
    have empty := (ByteFifo.isEmpty_iff wf (fullStore size).mem).2 none
    rcases few with rfl | rfl <;> cases empty

end Board

/-- Two queued bytes, the first of which is sent when the queue is attached; a
byte is pushed, one is refused, and an interrupt sends the next. -/
theorem transmit_conserved_two :
    let start := Board.holding 2 [2, 0, 2, 2]
    ∃ attached calls w, exec Board.env (.writeAsync (some 0) defaultTxHandler) start = .ok (.done, attached) ∧
      Run Board.env (Sent 0) attached calls w ∧
      calls.map Taken.input = [.push 0 7, .write 9 1 .ok, .handleInterrupt] ∧
      ∃ segment, w.trace = start.trace ++ segment ∧
        dataWritten segment ++ w.store.contents 0 = [0, 1] ++ pushedTo 0 segment := by
  obtain ⟨w, performed⟩ : ∃ w, perform (exec Board.env) [.writeAsync (some 0) defaultTxHandler, .push 0 7, .write 9 1 .ok,
      .handleInterrupt] (Board.holding 2 [2, 0, 2, 2]) = .ok (⟨⟩, w) := ⟨_, rfl⟩
  obtain ⟨attached, attach, -, stream⟩ := transmit_conserved (Board.callbacks_sparing {0} 0)
    (Board.holding_attachable 2 (Or.inr rfl) [2, 0, 2, 2]) defaultTxHandler
  have sent : ∀ call ∈ [.push 0 7, .write 9 1 .ok, .handleInterrupt], ∀ w : World Board, Sent 0 w call := by
    simp [Sent]
  obtain ⟨calls, run, inputs⟩ := perform_run sent (perform_rest performed attach)
  exact ⟨attached, calls, w, attach, run, inputs, (stream calls w run).1⟩

end Leon3Bsp.Uart
