import Leon3Bsp.Uart.Transmit

/-!
# Attaching an empty queue

`Uart_handleTx` pulls only from a queue that holds something. `Uart_writeAsync`
pulls without looking and writes its byte whether or not the pull delivered one,
so with the shift register empty it sends a zero nobody pushed.
-/

namespace Leon3Bsp.Uart
set_option autoImplicit false
open Wp Execution Conservation

variable {σ : Type}

/-- Queue `q` is attached for transmission; the reception queue may be the same. -/
structure Carries (queues : Set FifoRef) (q : FifoRef) (w : World σ) : Prop where
  separate : Store.Separate queues w.store
  member : q ∈ queues
  txFifo : w.uart.txFifo = some q
  rxMember : ∀ r, w.uart.rxFifo = some r → r ∈ queues

/-- Nothing is sent and `q` only grows, by what is pushed to it. -/
structure Feeds (queues : Set FifoRef) (q : FifoRef) (w w' : World σ) (segment : List Event) : Prop where
  txFifo : w'.uart.txFifo = w.uart.txFifo
  rxFifo : w'.uart.rxFifo = w.uart.rxFifo
  separate : Store.Separate queues w.store → Store.Separate queues w'.store
  contents : Store.Separate queues w.store → w'.store.contents q = w.store.contents q ++ pushedTo q segment
  trace : w'.trace = w.trace ++ segment
  dataWritten : dataWritten segment = []

/-- What the functions of the caller may do: anything but to touch the driver,
write to the device or take from `q`. -/
def Feeding (queues : Set FifoRef) (q : FifoRef) (w w' : World σ) : Prop :=
  ∃ segment, Feeds queues q w w' segment

section Steps

variable {env : Env σ} {queues : Set FifoRef} {q : FifoRef} {w w' w'' : World σ} {segment : List Event}

theorem Feeds.carries (feeds : Feeds queues q w w' segment) (carries : Carries queues q w) : Carries queues q w' := by
  refine ⟨feeds.separate carries.separate, carries.member, feeds.txFifo.trans carries.txFifo, fun r attached => ?_⟩
  rw [feeds.rxFifo] at attached
  exact carries.rxMember r attached

theorem Feeds.sends (feeds : Feeds queues q w w' segment) (carries : Carries queues q w) : Sends q w w' segment := by
  refine ⟨feeds.trace, ?_, .of_silent feeds.dataWritten⟩
  rw [feeds.dataWritten, feeds.contents carries.separate]
  exact .enter _ _

theorem Feeding.refl (w : World σ) : Feeding queues q w w :=
  ⟨[], rfl, rfl, fun separate => separate, fun _ => (List.append_nil _).symm, (List.append_nil _).symm, rfl⟩

theorem Feeding.trans (first : Feeding queues q w w') (second : Feeding queues q w' w'') : Feeding queues q w w'' := by
  obtain ⟨s, first⟩ := first
  obtain ⟨s', second⟩ := second
  refine ⟨s ++ s', second.txFifo.trans first.txFifo, second.rxFifo.trans first.rxFifo, second.separate ∘ first.separate,
    fun separate => ?_, ?_, ?_⟩
  · rw [second.contents (first.separate separate), first.contents separate, pushedTo_append, List.append_assoc]
  · rw [second.trace, first.trace, List.append_assoc]
  · rw [dataWritten_append, first.dataWritten, second.dataWritten, List.append_nil]

/-- A step beside the queues. -/
theorem Feeding.beside (txFifo : w'.uart.txFifo = w.uart.txFifo) (rxFifo : w'.uart.rxFifo = w.uart.rxFifo)
    (store : w'.store = w.store) (trace : w'.trace = w.trace ++ segment) (written : dataWritten segment = [])
    (pushed : pushedTo q segment = []) : Feeding queues q w w' := by
  refine ⟨segment, txFifo, rxFifo, fun separate => store ▸ separate, fun _ => ?_, trace, written⟩
  rw [store, pushed, List.append_nil]

theorem feeding_calling (hook : Hook) (c : Callback) (arg : Arg) (w : World σ) : Feeding queues q w (w.calling hook c arg) :=
  .beside rfl rfl rfl rfl rfl rfl

theorem absorbs_feeding (env : Env σ) : AbsorbsCount env (Feeding queues q) (Feeding queues q) where
  refl := .refl
  trans := .trans
  afterRead _ _ := .beside rfl rfl rfl rfl rfl rfl
  withErrorFlags _ _ := .beside rfl rfl rfl (List.append_nil _).symm rfl rfl
  called _ callback := (feeding_calling _ _ _ _).trans callback
  withSentBytes _ _ := .beside rfl rfl rfl (List.append_nil _).symm rfl rfl
  lengthCalled callback := (feeding_calling _ _ _ _).trans callback

/-- A push, to `q` or to another queue. -/
theorem feeding_push {r : FifoRef} (carries : Carries queues q w) (member : r ∈ queues) (data : Byte) :
    Feeding queues q w (w.afterPush r data) := by
  have txFifo : (w.afterPush r data).uart.txFifo = w.uart.txFifo := by rw [World.afterPush_uart]
  have rxFifo : (w.afterPush r data).uart.rxFifo = w.uart.rxFifo := by rw [World.afterPush_uart]
  cases full : (w.store.fifo r).isFull with
  | true =>
    rw [w.afterPush_full full]
    exact .refl w
  | false =>
    have becomes := Store.push_room carries.separate member full data
    refine ⟨[.pushed r data], txFifo, rxFifo, fun _ => ?_, fun _ => ?_, w.afterPush_room full data, rfl⟩
    · rw [World.afterPush_store]
      exact becomes.separate
    · rw [World.afterPush_store, pushedTo_pushed]
      by_cases same : q = r
      · subst same
        rw [if_pos rfl, becomes.here]
      · rw [if_neg same, List.append_nil, becomes.elsewhere q carries.member same]

theorem RxOutcome.feeding {rx : Bool} (outcome : RxOutcome env (Feeding queues q) w rx w') (carries : Carries queues q w) :
    Feeding queues q w w' := by
  rcases outcome.absorbed (absorbs_feeding env) (fun w => .beside rfl rfl rfl rfl rfl rfl) with
    feeding | ⟨w₁, r, byte, feeding, attached, rfl⟩
  · exact feeding
  · obtain ⟨segment, feeds⟩ := feeding
    have carries₁ := feeds.carries carries
    exact Feeding.trans ⟨segment, feeds⟩ (feeding_push carries₁ (carries₁.rxMember r attached) byte)

/-- What a step of the transmission keeps. -/
def Carried (queues : Set FifoRef) (q : FifoRef) (w w' : World σ) : Prop :=
  Carries queues q w' ∧ ∃ segment, Sends q w w' segment

theorem Feeding.carried (feeding : Feeding queues q w w') (carries : Carries queues q w) : Carried queues q w w' := by
  obtain ⟨segment, feeds⟩ := feeding
  exact ⟨feeds.carries carries, segment, feeds.sends carries⟩

theorem Carried.trans (first : Carried queues q w w') (second : Carried queues q w' w'') : Carried queues q w w'' := by
  obtain ⟨-, s, sends⟩ := first
  obtain ⟨carries, s', sends'⟩ := second
  exact ⟨carries, s ++ s', sends.trans sends'⟩

theorem TxOutcome.carried {tx : Bool} (outcome : TxOutcome env (Feeding queues q) w tx w') (carries : Carries queues q w) :
    Carried queues q w w' := by
  rcases outcome.absorbed (absorbs_feeding env).toAbsorbs with feeding | ⟨r, ready, attached, held, ended⟩
  · exact feeding.carried carries
  · rw [carries.txFifo] at attached
    cases attached
    obtain ⟨rest, front, becomes, -⟩ := w.afterSend_held env carries.separate carries.member held
    have sent : Carried queues q w (w.afterSend env q) :=
      ⟨⟨becomes.separate, carries.member, carries.txFifo, carries.rxMember⟩, _,
        sends_front front ready.2 becomes.here (w.afterSend_trace env q)⟩
    rcases ended with ⟨-, rfl⟩ | ⟨-, callback⟩
    · exact sent
    · have called : Feeding queues q (w.afterSend env q) w' := (feeding_calling _ _ _ _).trans callback
      exact sent.trans (called.carried sent.1)

theorem InterruptOutcome.carried (outcome : InterruptOutcome env (Feeding queues q) w w') (carries : Carries queues q w) :
    Carried queues q w w' := by
  obtain ⟨errorOutcome, rxOutcome, txOutcome⟩ := outcome
  have error := (errorOutcome.absorbed (absorbs_feeding env).toAbsorbs).carried carries
  have received := error.trans ((rxOutcome.feeding error.1).carried error.1)
  exact received.trans (txOutcome.carried received.1)

end Steps

/-- The calls of a run: interrupts, and pushes to the attached queue. -/
def Fills (q : FifoRef) (_ : World σ) : Call → Prop
  | .handleInterrupt => True
  | .push fifo _ => fifo = q
  | _ => False

section Calls

variable {env : Env σ} {queues : Set FifoRef} {q : FifoRef} {w w' : World σ} {call : Call} {answer : Answer}

theorem exec_carried (callbacks : Callbacks partially env (Feeding queues q)) (carries : Carries queues q w)
    (fills : Fills q w call) (run : exec env call w = .ok (answer, w')) : Carried queues q w w' := by
  cases call with
  | handleInterrupt =>
    have spec : wp partially (exec env .handleInterrupt) (fun _ w' => Carried queues q w w') w := by
      rw [exec, wp_bind]
      apply wp_mono (wp_handleInterrupt callbacks fun _ _ _ _ _ => trivial)
      intro _ w' outcome
      exact outcome.carried carries
    have ended := wp_ended spec run
    exact ended
  | push fifo data =>
    cases fills
    cases run
    exact (feeding_push carries carries.member data).carried carries
  | _ => exact fills.elim

/-- What `Uart_writeAsync` does with an empty queue. -/
theorem attach_empty (env : Env σ) (separate : Store.Separate queues w.store) (member : q ∈ queues)
    (rxMember : ∀ r, w.uart.rxFifo = some r → r ∈ queues) (empty : w.store.contents q = []) (handler : TxHandler) :
    wp total (exec env (.writeAsync (some q) handler)) (fun answer w' => answer = .done ∧ Carries queues q w' ∧
      w'.store.contents q = [] ∧ ∃ segment, w'.trace = w.trace ++ segment ∧ pushedTo q segment = [] ∧
        dataWritten segment = if getFlag (w.value env .status) Status.TS then [0] else []) w := by
  have none : (w.store.fifo q).isEmpty = true := (Store.isEmpty_iff separate member).2 empty
  rw [exec]
  unfold writeAsync
  simp only [wp_bind, wp_vectorDisable, wp_modifyDescriptor, wp_vectorEnable, wp_pure]
  apply wp_kick (q := q) rfl
  · intro shows
    have clear : getFlag (w.value env .status) Status.TS = true := shows
    have pull : w.store.pull q 0 = (false, 0, w.store) := Store.pull_empty none 0
    simp only [World.withUart_store, World.masked_store, pull, clear, if_true]
    refine ⟨trivial, ⟨separate, member, rfl, rxMember⟩, empty,
      [.read .status (w.value env .status), .write .data ((0 : Byte).setWidth 32)], ?_, rfl, dataWritten_write 0 []⟩
    simp only [World.masked_trace, World.afterWrite_trace, World.withStore_trace, World.afterRead_trace,
      World.withUart_trace, List.append_assoc]
    rfl
  · intro hides
    have clear : getFlag (w.value env .status) Status.TS = false := hides
    rw [clear]
    exact ⟨trivial, ⟨separate, member, rfl, rxMember⟩, empty, _, rfl, rfl, rfl⟩

end Calls

/-- **Attaching before filling** sends exactly what is pushed if, and only if, `TS`
was clear when the queue was attached. -/
theorem attach_empty_iff {env : Env σ} {queues : Set FifoRef} {q : FifoRef}
    (callbacks : Callbacks partially env (Feeding queues q)) {start : World σ} (separate : Store.Separate queues start.store)
    (member : q ∈ queues) (rxMember : ∀ r, start.uart.rxFifo = some r → r ∈ queues)
    (empty : start.store.contents q = []) (handler : TxHandler) :
    ∃ attached, exec env (.writeAsync (some q) handler) start = .ok (.done, attached) ∧
      ∀ calls w, Run env (Fills q) attached calls w → ∃ segment, w.trace = start.trace ++ segment ∧
        (dataWritten segment ++ w.store.contents q = pushedTo q segment ↔
          getFlag (start.value env .status) Status.TS = false) := by
  obtain ⟨_, attached, attach, rfl, carries, still, s₀, trace, unpushed, written⟩ :=
    wp_total (attach_empty env separate member rxMember empty handler)
  refine ⟨attached, attach, fun calls w run => ?_⟩
  have stream : Carried queues q attached w := by
    apply run.invariant (I := fun _ w => Carried queues q attached w) ((Feeding.refl attached).carried carries)
    intro calls w call answer w' carried fills ran
    exact carried.trans (exec_carried callbacks carried.1 fills ran)
  obtain ⟨-, s, sends⟩ := stream
  have conserved : pushedTo q s = dataWritten s ++ w.store.contents q := by
    have law := sends.conserved
    rwa [still, Conserved, List.nil_append] at law
  refine ⟨s₀ ++ s, by rw [sends.trace, trace, List.append_assoc], ?_⟩
  rw [dataWritten_append, pushedTo_append, unpushed, written, List.nil_append, conserved, List.append_assoc]
  -- the zero of `Uart_writeAsync` is one byte too many
  cases getFlag (start.value env .status) Status.TS <;> simp

/-- An empty queue is attached while the shift register is busy, and a byte
pushed and sent. -/
theorem attach_empty_busy :
    let start := Board.world 1 ⟨2, [0, 0, 2], []⟩
    ∃ attached calls w, exec Board.env (.writeAsync (some 0) defaultTxHandler) start = .ok (.done, attached) ∧
      Run Board.env (Fills 0) attached calls w ∧ calls.map Taken.input = [.push 0 7, .handleInterrupt] ∧
      ∃ segment, w.trace = start.trace ++ segment ∧ dataWritten segment ++ w.store.contents 0 = pushedTo 0 segment := by
  obtain ⟨w, performed⟩ : ∃ w, perform (exec Board.env) [.writeAsync (some 0) defaultTxHandler, .push 0 7,
      .handleInterrupt] (Board.world 1 ⟨2, [0, 0, 2], []⟩) = .ok (⟨⟩, w) := ⟨_, rfl⟩
  have callbacks : Callbacks partially Board.env (Feeding {0} 0) := ⟨fun w => .refl w, fun _ _ w => .refl w⟩
  have wf : (Board.emptyFifo 1 0).WF := ⟨by decide, by decide, by decide, by decide, by decide⟩
  have separate : Store.Separate {0} (Board.world 1 ⟨2, [0, 0, 2], []⟩).store := by
    constructor
    · rintro q rfl
      exact wf
    · rintro q rfl r rfl apart
      exact absurd rfl apart
  obtain ⟨attached, attach, stream⟩ := attach_empty_iff callbacks separate rfl
    (fun r attached => by cases attached) rfl defaultTxHandler
  have fills : ∀ call ∈ [.push 0 7, .handleInterrupt], ∀ w : World Board, Fills 0 w call := by
    simp [Fills]
  obtain ⟨calls, run, inputs⟩ := perform_run fills (perform_rest performed attach)
  obtain ⟨segment, trace, same⟩ := stream calls w run
  exact ⟨attached, calls, w, attach, run, inputs, segment, trace, same.2 rfl⟩

/-- With the shift register empty a zero is sent, and nothing was pushed. -/
theorem attach_empty_zero :
    ∃ attached, exec Board.env (.writeAsync (some 0) defaultTxHandler) (Board.world 1 ⟨2, [2], []⟩) = .ok (.done, attached) ∧
      dataWritten attached.trace = [0] ∧ attached.store.contents 0 = [] ∧ pushedTo 0 attached.trace = [] := by
  refine ⟨_, rfl, ?_, ?_, ?_⟩ <;> decide

end Leon3Bsp.Uart
