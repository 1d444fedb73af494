import Leon3Bsp.Uart.Transmit

/-!
# How fast a queue is sent

An interrupt sends one byte at most. It sends one if the queue holds any and
the registers, as its `Uart_handleTx` reads them, show the transmitter on and
free. So a byte waits for as many such interrupts as there are bytes before it.
-/

namespace Leon3Bsp.Uart
set_option autoImplicit false
open Wp Execution Conservation

variable {σ : Type}

/-- An interrupt up to what its `Uart_handleTx` reads: is the transmitter on, and free? -/
def seesTransmitter (env : Env σ) : Driver σ Bool := do
  let _ ← handleError env
  let _ ← handleRx env
  let control ← readRegister env .control
  let status ← readRegister env .status
  pure (getFlag control Control.TE && getFlag status Status.TS)

def findsTransmitter (env : Env σ) (w : World σ) : Bool :=
  match seesTransmitter env w with
  | .ok (found, _) => found
  | .error _ => false

def isInterrupt (made : Made σ) : Bool :=
  made.input = .handleInterrupt

/-- An interrupt whose `Uart_handleTx` finds the transmitter on and free. -/
def unhindered (env : Env σ) (made : Made σ) : Bool :=
  isInterrupt made && findsTransmitter env made.before

/-- What a call sends: one byte at most, none but by an interrupt, and one if
the queue holds any and the interrupt is not hindered. -/
structure Advances (env : Env σ) (queues : Set FifoRef) (q : FifoRef) (made : Made σ) : Prop where
  sending : Sending queues q made.after
  sends : ∃ segment, Sends q made.before made.after segment ∧
    (dataWritten segment).length ≤ (isInterrupt made).toNat ∧
    (unhindered env made = true → made.before.store.contents q ≠ [] → 1 ≤ (dataWritten segment).length)

section Steps

variable {env : Env σ} {queues : Set FifoRef} {q : FifoRef} {w w' : World σ}

/-- What `Uart_handleTx` sends. -/
structure TxAdvance (env : Env σ) (q : FifoRef) (w w' : World σ) (segment : List Event) : Prop where
  sends : Sends q w w' segment
  atMost : (dataWritten segment).length ≤ 1
  atLeast : w.TxReady env → w.store.contents q ≠ [] → 1 ≤ (dataWritten segment).length

theorem TxAdvance.unsent {segment : List Event} (store : w'.store = w.store) (trace : w'.trace = w.trace ++ segment)
    (unpushed : pushedTo q segment = []) (unwritten : dataWritten segment = [])
    (reason : w.TxReady env → w.store.contents q = []) : TxAdvance env q w w' segment := by
  refine ⟨⟨trace, ?_, .of_silent unwritten⟩, ?_, fun ready held => absurd (reason ready) held⟩
  · rw [unpushed, unwritten, store]
    exact .refl _
  · rw [unwritten]
    exact Nat.zero_le 1

theorem afterStatus_trace (env : Env σ) (w : World σ) : (w.afterStatus env).trace =
    w.trace ++ [.read .control (w.value env .control), .read .status (w.handlerStatus env)] := by
  rw [World.afterRead_trace, World.afterRead_trace, List.append_assoc]
  rfl

theorem TxOutcome.advance {tx : Bool} (outcome : TxOutcome env (Sparing queues q) w tx w') (sending : Sending queues q w) :
    Sending queues q w' ∧ ∃ segment, TxAdvance env q w w' segment := by
  -- a byte that is sent is the oldest one
  have sent {r : FifoRef} (ready : w.TxReady env) (attached : w.uart.txFifo = some r) (held : (w.store.fifo r).isEmpty = false) :
      Sending queues q (w.afterSend env r) ∧ ∃ byte : Byte, Sends q w (w.afterSend env r)
        [.read .control (w.value env .control), .read .status (w.handlerStatus env), .write .data (byte.setWidth 32)] := by
    rw [sending.txFifo] at attached
    cases attached
    obtain ⟨rest, front, becomes, -⟩ := w.afterSend_held env sending.separate sending.member held
    refine ⟨sending.path ⟨rfl, rfl, rfl⟩ becomes.separate, (w.store.pull q 0).2.1, ?_⟩
    exact sends_front front ready.2 becomes.here (w.afterSend_trace env q)
  have one (control status : Word) (byte : Byte) :
      dataWritten [.read .control control, .read .status status, .write .data (byte.setWidth 32)] = [byte] :=
    dataWritten_write byte []
  cases outcome with
  | disabled off =>
    refine ⟨sending.path ⟨rfl, rfl, rfl⟩ sending.separate, _, .unsent rfl rfl rfl rfl fun ready => ?_⟩
    have on := ready.1
    rw [off] at on
    cases on
  | busy on clear =>
    refine ⟨sending.path ⟨rfl, rfl, rfl⟩ sending.separate, _, .unsent rfl (afterStatus_trace env w) rfl rfl fun ready => ?_⟩
    have free := ready.2
    rw [clear] at free
    cases free
  | detached ready absent =>
    rw [sending.txFifo] at absent
    cases absent
  | idle ready attached empty =>
    rw [sending.txFifo] at attached
    cases attached
    refine ⟨sending.path ⟨rfl, rfl, rfl⟩ sending.separate, _, .unsent rfl (afterStatus_trace env w) rfl rfl fun _ => ?_⟩
    exact (Store.isEmpty_iff sending.separate sending.member).1 empty
  | sent ready attached held more =>
    obtain ⟨sending', byte, sends⟩ := sent ready attached held
    have written := congrArg List.length (one (w.value env .control) (w.handlerStatus env) byte)
    exact ⟨sending', _, sends, written.le, fun _ _ => written.ge⟩
  | drained ready attached held last callback =>
    rename_i r
    obtain ⟨sending₁, byte, sends⟩ := sent ready attached held
    obtain ⟨segment, spares⟩ := callback
    have entered : Sending queues q ((w.afterSend env r).calling .txEnd w.uart.txHandler.callback w.uart.txHandler.arg) :=
      sending₁.path ⟨rfl, rfl, rfl⟩ sending₁.separate
    have written : dataWritten (([.read .control (w.value env .control), .read .status (w.handlerStatus env),
        .write .data (byte.setWidth 32)] ++ [.called .txEnd w.uart.txHandler.callback w.uart.txHandler.arg (w.afterSend env r).uart
          (w.afterSend env r).store]) ++ segment) = [byte] := by
      rw [dataWritten_append, dataWritten_append, one, spares.dataWritten]
      rfl
    have length := congrArg List.length written
    exact ⟨spares.sending entered, _, (sends.trans (sends_calling _ _ _)).trans (spares.sends entered), length.le,
      fun _ _ => length.ge⟩

/-- What is seen is what `Uart_handleTx` finds. -/
theorem findsTransmitter_iff {w₁ w₂ : World σ} {error rx : Bool} (errors : handleError env w = .ok (error, w₁))
    (received : handleRx env w₁ = .ok (rx, w₂)) : findsTransmitter env w = true ↔ w₂.TxReady env := by
  have sees : seesTransmitter env w = .ok (getFlag (w₂.value env .control) Control.TE &&
      getFlag (w₂.handlerStatus env) Status.TS, w₂.afterStatus env) := by
    rw [seesTransmitter, bind_run, errors]
    simp only [bind_run, received]
    rfl
  rw [findsTransmitter, sees]
  exact Bool.and_eq_true_iff

/-- An interrupt sends what `Uart_handleTx` sends. -/
theorem advances_handleInterrupt (callbacks : Callbacks total env (Sparing queues q)) (sending : Sending queues q w)
    {answer : Answer} (ran : exec env .handleInterrupt w = .ok (answer, w')) :
    Advances env queues q ⟨w, .handleInterrupt, answer, w'⟩ := by
  obtain ⟨error, w₁, errors, errorOutcome⟩ := wp_total (wp_handleError callbacks (w := w))
  obtain ⟨rx, w₂, received, rxOutcome⟩ := wp_total (wp_handleRx callbacks sparing_detaching (w := w₁))
  obtain ⟨tx, w₃, transmitted, txOutcome⟩ := wp_total (wp_handleTx callbacks (w := w₂))
  have served : exec env .handleInterrupt w = .ok (.done, w₃) := by
    rw [exec, handleInterrupt]
    simp only [bind_run, errors, received, transmitted]
    rfl
  cases served.symm.trans ran
  obtain ⟨s₁, spares₁⟩ := errorOutcome.absorbed (absorbs_sparing env).toAbsorbs
  have sending₁ := spares₁.sending sending
  obtain ⟨s₂, spares₂⟩ := rxOutcome.sparing sending₁
  have sending₂ := spares₂.sending sending₁
  obtain ⟨sending₃, s₃, advance⟩ := txOutcome.advance sending₂
  have sends := ((spares₁.sends sending).trans (spares₂.sends sending₁)).trans advance.sends
  have written : dataWritten ((s₁ ++ s₂) ++ s₃) = dataWritten s₃ := by
    rw [dataWritten_append, dataWritten_append, spares₁.dataWritten, spares₂.dataWritten]
    rfl
  refine ⟨sending₃, _, sends, ?_, fun free held => ?_⟩
  · rw [written]
    exact advance.atMost
  · rw [written]
    have ready := (findsTransmitter_iff errors received).1 (Bool.and_eq_true_iff.1 free).2
    refine advance.atLeast ready fun empty => ?_
    -- what enters the queue before does not empty it
    rw [spares₂.contents sending₁, spares₁.contents sending, List.append_assoc] at empty
    exact held (List.append_eq_nil_iff.1 empty).1

/-- Nothing else sends. -/
theorem SendStep.advances {call : Call} {answer : Answer} (step : SendStep queues q ⟨w, call, answer, w'⟩)
    (other : call ≠ .handleInterrupt) (unwritten : dataWritten (events ⟨w, call, answer, w'⟩) = []) :
    Advances env queues q ⟨w, call, answer, w'⟩ := by
  obtain ⟨segment, sends⟩ := step.sends
  rw [events_eq sends.trace] at unwritten
  refine ⟨step.sending, segment, sends, ?_, fun free => ?_⟩
  · rw [unwritten]
    exact Nat.zero_le _
  · have interrupt := of_decide_eq_true (Bool.and_eq_true_iff.1 free).1
    exact absurd interrupt other

theorem advances_exec (callbacks : Callbacks total env (Sparing queues q)) (sending : Sending queues q w)
    {call : Call} (sent : Sent q w call) {answer : Answer} (ran : exec env call w = .ok (answer, w')) :
    Advances env queues q ⟨w, call, answer, w'⟩ := by
  have step := wp_ended (sendStep_exec callbacks sending sent) ran
  cases call with
  | handleInterrupt => exact advances_handleInterrupt callbacks sending ran
  | write data limit errCode => exact step.advances (by simp) (step.refused data limit errCode rfl).2
  | push fifo data =>
    have pushes : w' = w.afterPush fifo data := by
      cases ran
      rfl
    refine step.advances (by simp) ?_
    cases full : (w.store.fifo fifo).isFull with
    | true =>
      rw [events_eq (pushes ▸ (congrArg World.trace (w.afterPush_full full data)).trans (List.append_nil _).symm)]
      rfl
    | false =>
      rw [events_eq (pushes ▸ w.afterPush_room full data)]
      rfl
  | _ => exact sent.elim

end Steps

/-- How far a queue was sent since `start`, in the calls of a run. -/
structure Progresses (env : Env σ) (queues : Set FifoRef) (q : FifoRef) (start : World σ) (calls : List (Made σ))
    (w : World σ) (segment : List Event) : Prop where
  sending : Sending queues q w
  sends : Sends q start w segment
  atMost : (dataWritten segment).length ≤ calls.countP isInterrupt
  atLeast : min (calls.countP (unhindered env)) (start.store.contents q).length ≤ (dataWritten segment).length

section Progresses

variable {env : Env σ} {queues : Set FifoRef} {q : FifoRef} {start w w' : World σ} {calls : List (Made σ)}

theorem Progresses.step {segment : List Event} (progresses : Progresses env queues q start calls w segment) {made : Made σ}
    (before : made.before = w) (advances : Advances env queues q made) :
    ∃ segment', Progresses env queues q start (calls ++ [made]) made.after segment' := by
  subst before
  obtain ⟨sending, segment', sends, atMost, atLeast⟩ := advances
  have all := progresses.sends.trans sends
  have more : (dataWritten (segment ++ segment')).length = (dataWritten segment).length + (dataWritten segment').length := by
    rw [dataWritten_append, List.length_append]
  refine ⟨segment ++ segment', sending, all, ?_, ?_⟩
  · have interrupts : (calls ++ [made]).countP isInterrupt = calls.countP isInterrupt + (isInterrupt made).toNat := by
      rw [List.countP_append, List.countP_singleton]
      cases isInterrupt made <;> rfl
    have earlier := progresses.atMost
    omega
  · have earlier := progresses.atLeast
    rw [List.countP_append, List.countP_singleton]
    cases free : unhindered env made with
    | false =>
      simp only [Bool.false_eq_true, if_false, Nat.add_zero]
      omega
    | true =>
      simp only [if_true]
      by_cases empty : made.before.store.contents q = []
      · -- what was there at the start is sent already
        have conserved := progresses.sends.conserved
        rw [empty] at conserved
        have enough := conserved.length_le
        omega
      · have one := atLeast free empty
        omega

theorem Run.progresses (callbacks : Callbacks total env (Sparing queues q)) (sending : Sending queues q start)
    (run : Run env (Sent q) start calls w) : ∃ segment, Progresses env queues q start calls w segment := by
  have sends : Sends q start start [] := ⟨(List.append_nil _).symm, .refl _, .of_silent rfl⟩
  apply Execution.Run.invariant run (I := fun calls w => ∃ segment, Progresses env queues q start calls w segment)
  · exact ⟨[], sending, sends, Nat.zero_le _, (Nat.min_le_left _ _).trans (Nat.zero_le _)⟩
  · rintro calls w call answer w' ⟨segment, progresses⟩ sent ran
    exact progresses.step rfl (advances_exec callbacks progresses.sending sent ran)

end Progresses

/-- **The progress of a transmission**: at any time after a queue was attached,
what it holds is sent, oldest byte first, by as many interrupts whose
`Uart_handleTx` finds the transmitter on and free as it holds bytes, whatever is
pushed and refused meanwhile; and an interrupt never sends two bytes. The
functions of the caller spare the driver, the device and what is queued. -/
theorem transmit_progress {env : Env σ} {queues : Set FifoRef} {q : FifoRef}
    (callbacks : Callbacks total env (Sparing queues q)) {start : World σ} (attachable : Attachable queues q start)
    (handler : TxHandler) :
    ∃ attached, exec env (.writeAsync (some q) handler) start = .ok (.done, attached) ∧
      ∀ earlier w, Run env (Sent q) attached earlier w → ∀ later w', Run env (Sent q) w later w' →
        ∃ segment, w'.trace = w.trace ++ segment ∧
          (w.store.contents q).take (later.countP (unhindered env)) <+: dataWritten segment ∧
          (dataWritten segment).length ≤ later.countP isInterrupt := by
  obtain ⟨answer, attached, attach, rfl, first⟩ := wp_total (wp_attach attachable handler)
  refine ⟨attached, attach, fun earlier w run later w' run' => ?_⟩
  obtain ⟨_, before⟩ := Run.progresses callbacks first.sending.1 run
  obtain ⟨segment, progresses⟩ := Run.progresses callbacks before.sending run'
  exact ⟨segment, progresses.sends.trace, progresses.sends.conserved.take_prefix progresses.atLeast, progresses.atMost⟩

/-- Two queued bytes, the first of which is sent when the queue is attached. Of
two interrupts the first finds the transmitter busy and the second one free. -/
theorem transmit_progress_two :
    let start := Board.holding 2 [2, 0, 0, 0, 2]
    ∃ attached calls w, exec Board.env (.writeAsync (some 0) defaultTxHandler) start = .ok (.done, attached) ∧
      Run Board.env (Sent 0) attached calls w ∧ calls.map Taken.input = [.handleInterrupt, .handleInterrupt] ∧
      calls.countP (unhindered Board.env) = 1 ∧
      ∃ segment, w.trace = attached.trace ++ segment ∧ (attached.store.contents 0).take 1 <+: dataWritten segment := by
  obtain ⟨attached, calls, w, attach, run, inputs, free⟩ : ∃ attached calls w,
      exec Board.env (.writeAsync (some 0) defaultTxHandler) (Board.holding 2 [2, 0, 0, 0, 2]) = .ok (.done, attached) ∧
      Run Board.env (Sent 0) attached calls w ∧ calls.map Taken.input = [.handleInterrupt, .handleInterrupt] ∧
      calls.countP (unhindered Board.env) = 1 :=
    ⟨_, _, _, rfl, .snoc (i := Call.handleInterrupt) (.snoc (i := Call.handleInterrupt) .nil trivial rfl) trivial rfl, rfl, rfl⟩
  obtain ⟨_, attach', progress⟩ := transmit_progress (Board.callbacks_sparing {0} 0)
    (Board.holding_attachable 2 (Or.inr rfl) [2, 0, 0, 0, 2]) defaultTxHandler
  cases attach'.symm.trans attach
  obtain ⟨segment, trace, sent, -⟩ := progress [] attached .nil calls w run
  rw [free] at sent
  exact ⟨attached, calls, w, attach, run, inputs, free, segment, trace, sent⟩

end Leon3Bsp.Uart
