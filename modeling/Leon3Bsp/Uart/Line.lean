import Leon3Bsp.Uart.Receive
import Leon3Bsp.Uart.Transmit

/-!
# Two boards on a line

A driver on each end of a line: what one writes to its data register travels to
the receiver of the other. On the one side a queue is being sent, on the other a
queue is attached for reception, and the caller there pulls. Between a push on
this side and a pull on that one a byte stands in four queues, one after the
other: that of the sender, the line, the receiver of the device, that of the
reader.
-/

namespace Leon3Bsp.Uart
set_option autoImplicit false
open Wp Execution Conservation

variable {σ τ : Type}

structure Link (σ τ : Type) where
  sender : World σ
  receiver : World τ
  /-- The bytes that were written and have not arrived. -/
  onLine : List Byte

inductive LinkStep
  | sender (call : Call)
  | receiver (call : Call)
  | deliver
  deriving DecidableEq

namespace Link

/-- The oldest byte on the line arrives. -/
def deliver (env : Env τ) (l : Link σ τ) : Link σ τ :=
  match l.onLine with
  | [] => l
  | byte :: rest => { l with receiver := l.receiver.afterArrival env byte, onLine := rest }

/-- What was written to the data register since goes on the line. -/
def afterSender (l : Link σ τ) (w : World σ) : Link σ τ :=
  { l with sender := w, onLine := l.onLine ++ dataWritten (w.trace.drop l.sender.trace.length) }

def exec (sender : Env σ) (receiver : Env τ) : LinkStep → Program Fault (Link σ τ) Answer
  | .sender call => fun l =>
    match Uart.exec sender call l.sender with
    | .ok (answer, w) => .ok (answer, l.afterSender w)
    | .error e => .error e
  | .receiver call => fun l =>
    match Uart.exec receiver call l.receiver with
    | .ok (answer, w) => .ok (answer, { l with receiver := w })
    | .error e => .error e
  | .deliver => act fun l => (.done, l.deliver receiver)

section Rules

variable {may : Fault → Prop} {sender : Env σ} {receiver : Env τ} (l : Link σ τ)

theorem wp_sender (call : Call) (Q : Answer → Link σ τ → Prop) : wp may (exec sender receiver (.sender call)) Q l ↔
    wp may (Uart.exec sender call) (fun answer w => Q answer (l.afterSender w)) l.sender := by
  unfold wp exec
  dsimp only
  cases Uart.exec sender call l.sender <;> rfl

theorem wp_receiver (call : Call) (Q : Answer → Link σ τ → Prop) : wp may (exec sender receiver (.receiver call)) Q l ↔
    wp may (Uart.exec receiver call) (fun answer w => Q answer { l with receiver := w }) l.receiver := by
  unfold wp exec
  dsimp only
  cases Uart.exec receiver call l.receiver <;> rfl

end Rules

end Link

/-- Queue `p` is attached for reception. -/
structure Listening (queues : Set FifoRef) (p : FifoRef) (w : World σ) : Prop where
  receiving : Receiving queues w
  attached : w.uart.rxFifo = some p

/-- The calls of the reader: it is interrupted while its queue has room, and
pulls from it. -/
def Hears (p : FifoRef) (w : World σ) : Call → Prop
  | .handleInterrupt | .handleRx => (w.store.fifo p).isFull = false
  | .pull fifo _ => fifo = p
  | _ => False

/-- What a call of the reader moves: from the receiver to the queue, and out of it. -/
structure HearStep (held : σ → List Byte) (queues : Set FifoRef) (p : FifoRef) (w w' : World σ) (segment : List Event) :
    Prop where
  listening : Listening queues p w'
  trace : w'.trace = w.trace ++ segment
  receiver : Conserved (held w.hw) [] (dataRead segment) (held w'.hw)
  queue : Conserved (w.store.contents p) (dataRead segment) (pulledFrom p segment) (w'.store.contents p)

section Hears

variable {env : Env σ} {held : σ → List Byte} {queues : Set FifoRef} {p : FifoRef} {w w' : World σ} {call : Call}

theorem RxEffect.path (effect : RxEffect env queues w w') : SameQueues w w' := by
  cases effect with
  | idle idle passed =>
    obtain ⟨segment, passes⟩ := passed
    exact passes.path
  | dropped ready attached full path => exact path
  | queued ready attached room path => exact path

theorem TxEffect.path (effect : TxEffect env queues w w') : SameQueues w w' := by
  cases effect with
  | idle idle passed =>
    obtain ⟨segment, passes⟩ := passed
    exact passes.path
  | sent ready attached front path => exact path

/-- The queues stay attached. -/
theorem path_exec (receiver : Receiver env.device held) (callbacks : Callbacks total env (Harmless queues))
    (receiving : Receiving queues w) (hears : Hears p w call) :
    wp total (exec env call) (fun _ w' => SameQueues w w') w := by
  cases call with
  | handleRx =>
    rw [exec, wp_bind]
    apply wp_mono (wp_handleRx callbacks harmless_detaching)
    intro result w' outcome
    exact (outcome.effect receiving.separate fun q attached => (receiving.rxMember q attached).1).path
  | handleInterrupt =>
    rw [exec, wp_bind]
    apply wp_mono (wp_handleInterrupt callbacks harmless_detaching)
    rintro - w₃ ⟨errorOutcome, rxOutcome, txOutcome⟩
    obtain ⟨s₁, passes⟩ := errorOutcome.absorbed (absorbs_passed env).toAbsorbs
    have receiving₁ := receiving.path passes.path (passes.store.separate receiving.separate)
    have effect := rxOutcome.effect receiving₁.separate fun q attached => (receiving₁.rxMember q attached).1
    obtain ⟨s₂, -, receiving₂, -⟩ := effect.fate receiver receiving₁
    exact (passes.path.trans effect.path).trans (txOutcome.effect receiving₂.separate receiving₂.txMember).path
  | pull fifo data => exact .of_uart (w.afterPull_uart fifo data)
  | _ => exact hears.elim

/-- A byte taken while the queue has room is queued. -/
theorem Fate.kept {s : σ} {segment : List Event} (fate : Fate env held s w w' segment) (listening : Listening queues p w)
    (room : (w.store.fifo p).isFull = false) : pushedTo p segment = dataRead segment := by
  have member := (listening.receiving.rxMember p listening.attached).1
  cases fate with
  | idle idle taken pushed => rw [taken, pushed]
  | queued takes attached free taken pushed =>
    rw [listening.attached] at attached
    cases attached
    rw [pushed, taken, if_pos rfl]
  | dropped takes attached full =>
    rw [listening.attached] at attached
    cases attached
    rw [(Store.isFull_iff listening.receiving.separate member).2 full] at room
    cases room

theorem hearStep_exec (receiver : Receiver env.device held) (callbacks : Callbacks total env (Harmless queues))
    (listening : Listening queues p w) (hears : Hears p w call) :
    wp total (exec env call) (fun _ w' => ∃ segment, HearStep held queues p w w' segment) w := by
  obtain ⟨member, other⟩ := listening.receiving.rxMember p listening.attached
  have receives : Receives queues w call := by
    cases call with
    | handleRx | handleInterrupt => trivial
    | pull fifo data =>
      cases hears
      exact listening.attached
    | _ => exact hears.elim
  apply wp_mono (wp_and (path_exec receiver callbacks listening.receiving hears)
    (receiveStep_exec receiver callbacks listening.receiving receives))
  rintro answer w' ⟨path, receiving', ⟨segment, moves⟩, received⟩
  have same : events (⟨w, call, answer, w'⟩ : Made σ) = segment := events_eq moves.trace
  have none : arrived call = [] := by
    cases call with
    | arrive => exact hears.elim
    | _ => rfl
  have kept : pushedTo p segment = dataRead segment := by
    cases received with
    | returned read =>
      cases read
      exact hears.elim
    | handled handled fate =>
      cases handled
      rw [same] at fate
      exact fate.kept listening hears
    | interrupted interrupted fate =>
      cases interrupted
      rw [same] at fate
      exact fate.kept listening hears
    | other _ _ taken pushed =>
      rw [same] at taken
      rw [taken, ← same, pushed]
  have queue := moves.queue p member other
  rw [none] at moves
  rw [kept] at queue
  exact ⟨segment, ⟨receiving', path.rxFifo.trans listening.attached⟩, moves.trace, moves.receiver, queue⟩

/-- `Uart_readAsync` moves nothing. -/
theorem hearStep_readAsync (receiving : Receiving queues w) (member : p ∈ queues) (other : w.uart.txFifo ≠ some p)
    (handler : RxHandler) :
    wp total (exec env (.readAsync (some p) handler)) (fun _ w' => HearStep held queues p w w' []) w := by
  have attached : Receiving queues (((w.masked false).withUart
      { w.uart with rxFifo := some p, rxHandler := handler }).masked true) := by
    refine ⟨receiving.separate, receiving.txMember, ?_⟩
    rintro r attached
    cases attached
    exact ⟨member, other⟩
  exact ⟨⟨attached, rfl⟩, (List.append_nil _).symm, .refl _, .refl _⟩

end Hears

/-- The sender fills its queue and is interrupted, the reader is interrupted
while its queue has room and pulls, and bytes arrive. -/
def Joined (q p : FifoRef) (l : Link σ τ) : LinkStep → Prop
  | .sender call => Sent q l.sender call
  | .receiver call => Hears p l.receiver call
  | .deliver => True

namespace Link

/-- The bytes on their way, the oldest first. -/
def inside (held : τ → List Byte) (q p : FifoRef) (l : Link σ τ) : List Byte :=
  l.receiver.store.contents p ++ (held l.receiver.hw ++ (l.onLine ++ l.sender.store.contents q))

/-- Both drivers are at work. -/
structure Working (queues queues' : Set FifoRef) (q p : FifoRef) (l : Link σ τ) : Prop where
  sending : Sending queues q l.sender
  listening : Listening queues' p l.receiver

/-- What was pushed and pulled between two links, and nothing else, entered and left. -/
structure Carries (held : τ → List Byte) (q p : FifoRef) (l l' : Link σ τ) (sent heard : List Event) : Prop where
  sender : l'.sender.trace = l.sender.trace ++ sent
  receiver : l'.receiver.trace = l.receiver.trace ++ heard
  conserved : Conserved (l.inside held q p) (pushedTo q sent) (pulledFrom p heard) (l'.inside held q p)

section Steps

variable {sender : Env σ} {receiver : Env τ} {held : τ → List Byte} {queues queues' : Set FifoRef} {q p : FifoRef}
variable {l l' l'' : Link σ τ}

theorem Carries.trans {s s' h h' : List Event} (first : Carries held q p l l' s h) (second : Carries held q p l' l'' s' h') :
    Carries held q p l l'' (s ++ s') (h ++ h') := by
  refine ⟨?_, ?_, ?_⟩
  · rw [second.sender, first.sender, List.append_assoc]
  · rw [second.receiver, first.receiver, List.append_assoc]
  · rw [pushedTo_append, pulledFrom_append]
    exact first.conserved.trans second.conserved

/-- What the sender sends is put on the line. -/
theorem Carries.sends {w : World σ} {segment : List Event} (sends : Sends q l.sender w segment) :
    Carries held q p l (l.afterSender w) segment [] := by
  have written : w.trace.drop l.sender.trace.length = segment := by rw [sends.trace, List.drop_left]
  have line : Conserved l.onLine (dataWritten segment) [] (l.afterSender w).onLine := by
    rw [afterSender, written]
    exact .enter _ _
  exact ⟨sends.trace, (List.append_nil _).symm, ((sends.conserved.pipe line).pipe (.refl _)).pipe (.refl _)⟩

theorem Carries.hears {w : World τ} {segment : List Event} (hears : HearStep held queues' p l.receiver w segment) :
    Carries held q p l { l with receiver := w } [] segment :=
  ⟨(List.append_nil _).symm, hears.trace, (Conserved.pipe (.refl _) hears.receiver).pipe hears.queue⟩

theorem Carries.deliver (arrives : Receiver receiver.device held) (l : Link σ τ) :
    Carries held q p l (l.deliver receiver) [] [] := by
  unfold Link.deliver
  split
  · exact ⟨(List.append_nil _).symm, (List.append_nil _).symm, .refl _⟩
  · rename_i byte rest waiting
    have line : Conserved l.onLine [] [byte] rest := waiting ▸ .leave byte rest
    have arrived : Conserved (held l.receiver.hw) [byte] [] (held (l.receiver.afterArrival receiver byte).hw) := by
      have arrives := arrives.arrive byte l.receiver.hw
      rw [World.afterArrival, arrives]
      exact .enter _ _
    exact ⟨(List.append_nil _).symm, (List.append_nil _).symm, ((Conserved.pipe (.refl _) line).pipe arrived).pipe (.refl _)⟩

/-- One step of the two boards. -/
theorem carries_exec (arrives : Receiver receiver.device held) (sparing : Callbacks total sender (Sparing queues q))
    (harmless : Callbacks total receiver (Harmless queues')) (working : Working queues queues' q p l) {step : LinkStep}
    (joined : Joined q p l step) : wp total (exec sender receiver step)
      (fun _ l' => Working queues queues' q p l' ∧ ∃ sent heard, Carries held q p l l' sent heard) l := by
  obtain ⟨sending, listening⟩ := working
  cases step with
  | sender call =>
    rw [wp_sender]
    apply wp_mono (sendStep_exec sparing sending joined)
    intro answer w step
    obtain ⟨segment, sends⟩ := step.sends
    exact ⟨⟨step.sending, listening⟩, segment, [], .sends sends⟩
  | receiver call =>
    rw [wp_receiver]
    apply wp_mono (hearStep_exec arrives harmless listening joined)
    rintro answer w ⟨segment, hears⟩
    exact ⟨⟨sending, hears.listening⟩, [], segment, .hears hears⟩
  | deliver =>
    refine ⟨⟨?_, ?_⟩, [], [], .deliver arrives l⟩
    · unfold Link.deliver
      split <;> exact sending
    · unfold Link.deliver
      split
      · exact listening
      · exact ⟨listening.receiving.path ⟨rfl, rfl⟩ listening.receiving.separate, listening.attached⟩

end Steps

end Link

/-- **From queue to queue**: whatever order the two boards take their steps in
after one attached a queue that holds something and the other one a queue for
reception, the bytes that the reader has pulled and those on their way are the
bytes that were on their way before and those pushed since, in order. The sender's
functions may push to its queue, the reader's leave the queues alone. -/
theorem link_conserved {sender : Env σ} {receiver : Env τ} {held : τ → List Byte} {queues queues' : Set FifoRef} {q p : FifoRef}
    (arrives : Receiver receiver.device held) (sparing : Callbacks total sender (Sparing queues q))
    (harmless : Callbacks total receiver (Harmless queues')) {start : Link σ τ}
    (attachable : Attachable queues q start.sender) (receiving : Receiving queues' start.receiver) (member : p ∈ queues')
    (other : start.receiver.uart.txFifo ≠ some p) (txHandler : TxHandler) (rxHandler : RxHandler) :
    ∃ ready, perform (Link.exec sender receiver) [.sender (.writeAsync (some q) txHandler),
        .receiver (.readAsync (some p) rxHandler)] start = .ok (⟨⟩, ready) ∧
      ∀ steps l, Execution.Run (Link.exec sender receiver) (Joined q p) ready steps l →
        (∃ sent heard, l.sender.trace = start.sender.trace ++ sent ∧ l.receiver.trace = start.receiver.trace ++ heard ∧
          start.inside held q p ++ pushedTo q sent = pulledFrom p heard ++ l.inside held q p) ∧
        ∀ step, Joined q p l step → ∃ answer l', Link.exec sender receiver step l = .ok (answer, l') := by
  have attach : wp total (Link.exec sender receiver (.sender (.writeAsync (some q) txHandler)))
      (fun _ l => Sending queues q l.sender ∧ l.receiver = start.receiver ∧
        ∃ sent, Link.Carries held q p start l sent []) start := by
    rw [Link.wp_sender]
    apply wp_mono (wp_attach attachable txHandler)
    rintro answer w ⟨-, attached⟩
    obtain ⟨sending, segment, sends⟩ := attached.sending
    exact ⟨sending, rfl, segment, .sends sends⟩
  obtain ⟨_, l₁, ran₁, sending, same, s₁, carries₁⟩ := wp_total attach
  have listen : wp total (Link.exec sender receiver (.receiver (.readAsync (some p) rxHandler)))
      (fun _ l => Link.Working queues queues' q p l ∧ Link.Carries held q p l₁ l [] []) l₁ := by
    rw [Link.wp_receiver]
    rw [← same] at receiving other
    apply wp_mono (hearStep_readAsync receiving member other rxHandler)
    intro answer w hears
    exact ⟨⟨sending, hears.listening⟩, .hears hears⟩
  obtain ⟨_, ready, ran₂, working, carries₂⟩ := wp_total listen
  refine ⟨ready, perform_cons.2 ⟨_, l₁, ran₁, perform_cons.2 ⟨_, ready, ran₂, rfl⟩⟩, fun steps l run => ?_⟩
  -- what was carried since is an invariant of the run
  have carried : Link.Working queues queues' q p l ∧ ∃ sent heard, Link.Carries held q p start l sent heard := by
    apply run.invariant (I := fun _ l => Link.Working queues queues' q p l ∧
      ∃ sent heard, Link.Carries held q p start l sent heard) ⟨working, _, _, carries₁.trans carries₂⟩
    rintro steps l step answer l' ⟨working, sent, heard, carries⟩ joined ran
    obtain ⟨working', sent', heard', carries'⟩ := wp_ended (Link.carries_exec arrives sparing harmless working joined) ran
    exact ⟨working', _, _, carries.trans carries'⟩
  obtain ⟨working, sent, heard, carries⟩ := carried
  refine ⟨⟨sent, heard, carries.sender, carries.receiver, carries.conserved⟩, fun step joined => ?_⟩
  obtain ⟨answer, l', ran, -⟩ := wp_total (Link.carries_exec arrives sparing harmless working joined)
  exact ⟨answer, l', ran⟩

/-- Two bytes are to be sent, and the reader starts with an empty queue: one byte
goes all the way, and the other one half of it. -/
theorem link_conserved_two :
    let start : Link Board Board := ⟨Board.holding 2 [2, 0, 2], Board.world 2 ⟨1, [], []⟩, []⟩
    let exec := Link.exec Board.env Board.env
    ∃ ready steps l, perform exec [.sender (.writeAsync (some 0) defaultTxHandler),
        .receiver (.readAsync (some 0) defaultRxHandler)] start = .ok (⟨⟩, ready) ∧
      Execution.Run exec (Joined 0 0) ready steps l ∧
      steps.map Taken.input = [.deliver, .receiver .handleInterrupt, .sender .handleInterrupt, .receiver (.pull 0 0)] ∧
      ∃ sent heard, l.sender.trace = start.sender.trace ++ sent ∧ l.receiver.trace = start.receiver.trace ++ heard ∧
        [0, 1] ++ pushedTo 0 sent = pulledFrom 0 heard ++ l.inside Board.received 0 0 := by
  obtain ⟨ready, steps, l, performed, run, inputs⟩ : ∃ ready steps l, perform (Link.exec Board.env Board.env)
      [.sender (.writeAsync (some 0) defaultTxHandler), .receiver (.readAsync (some 0) defaultRxHandler)]
      ⟨Board.holding 2 [2, 0, 2], Board.world 2 ⟨1, [], []⟩, []⟩ = .ok (⟨⟩, ready) ∧
      Execution.Run (Link.exec Board.env Board.env) (Joined 0 0) ready steps l ∧
      steps.map Taken.input = [.deliver, .receiver .handleInterrupt, .sender .handleInterrupt, .receiver (.pull 0 0)] := by
    exact ⟨_, _, _, rfl, .snoc (i := LinkStep.receiver (.pull 0 0)) (.snoc (i := LinkStep.sender .handleInterrupt)
      (.snoc (i := LinkStep.receiver .handleInterrupt) (.snoc (i := LinkStep.deliver) .nil trivial rfl) rfl rfl)
      trivial rfl) rfl rfl, rfl⟩
  intro start exec
  have attachable : Attachable {0} 0 start.sender := Board.holding_attachable 2 (Or.inr rfl) [2, 0, 2]
  have receiving : Receiving {0} start.receiver := Board.world_receiving _
  have other : start.receiver.uart.txFifo ≠ some 0 := by
    intro attached
    cases attached
  obtain ⟨_, attach, runs⟩ := link_conserved Board.receiver (Board.callbacks_sparing {0} 0)
    (Board.callbacks_harmless {0}) attachable receiving rfl other defaultTxHandler defaultRxHandler
  cases attach.symm.trans performed
  obtain ⟨⟨sent, heard, sends, hears, conserved⟩, -⟩ := runs steps l run
  have waiting : start.inside Board.received 0 0 = [0, 1] := by decide
  rw [waiting] at conserved
  exact ⟨ready, steps, l, attach, run, inputs, sent, heard, sends, hears, conserved⟩

end Leon3Bsp.Uart
