import Leon3Bsp.Uart.Transmit

/-!
# The end of a transmission

`Uart_handleTx` calls the handler when the byte it sent was the last one.
`Uart_writeAsync` sends its first byte without looking whether it was the last,
so a queue of one byte that finds `TS` set is never reported. Which bytes are
queued does not matter here, only how many.
-/

namespace Leon3Bsp.Uart
set_option autoImplicit false
open Wp Execution

variable {σ : Type}

/-- A transmission ends while `q` still holds a byte. -/
def Event.endsEarly (q : FifoRef) : Event → Bool
  | .called .txEnd _ _ _ store => !(store.fifo q).isEmpty
  | _ => false

/-- How often the handler was called. -/
def endCount (handler : TxHandler) (trace : List Event) : Nat :=
  invocations .txEnd handler.callback handler.arg trace

/-- What was observed since `start`. -/
def since (start w : World σ) : List Event :=
  w.trace.drop start.trace.length

/-- As many bytes as `q` held at `start` have been written to the data register. -/
def AllSent (q : FifoRef) (start w : World σ) : Prop :=
  (dataWritten (since start w)).length = (start.store.fifo q).length

/-- The call read the status register with `TS` set. -/
def ShowsTS (made : Made σ) : Prop :=
  ∃ event ∈ events made, event.showsTS = true

/-- The end of the transmission is reported exactly once: not while a byte is
queued, neither so far nor by an earlier call, and once when all bytes were sent
and an interrupt that saw `TS` has returned since. -/
structure EndReported (q : FifoRef) (handler : TxHandler) (start : World σ) (calls : List (Made σ)) (w : World σ) : Prop where
  notEarly : (w.store.fifo q).isEmpty = false → endCount handler (since start w) = 0
  neverEarly : ∀ event ∈ since start w, event.endsEarly q = false
  once : AllSent q start w → (∃ made ∈ calls, ShowsTS made ∧ AllSent q start made.after) →
    endCount handler (since start w) = 1

/-- The run has interrupts only. -/
def Interrupts (_ : World σ) (call : Call) : Prop :=
  call = .handleInterrupt

/-- Queue `q` is not touched, nothing is sent and no transmission ends. The
functions of the caller are to do no more than this. -/
structure Idles (q : FifoRef) (w w' : World σ) : Prop where
  path : SamePath w w'
  fifo : w'.store.fifo q = w.store.fifo q
  trace : ∃ segment, w'.trace = w.trace ++ segment ∧ dataWritten segment = [] ∧ callCount .txEnd segment = 0

@[simp] theorem endCount_append (handler : TxHandler) (trace trace' : List Event) :
    endCount handler (trace ++ trace') = endCount handler trace + endCount handler trace' :=
  invocations_append _ _ _ _ _

theorem endsEarly_eq_false (q : FifoRef) {trace : List Event} (none : callCount .txEnd trace = 0) (event : Event)
    (mem : event ∈ trace) : event.endsEarly q = false := by
  rw [callCount, List.countP_eq_zero] at none
  have other := none event mem
  cases event with
  | called hook => cases hook <;> first | rfl | exact absurd rfl other
  | _ => rfl

section Steps

variable {env : Env σ} {q : FifoRef} {w w' w'' : World σ}

theorem Idles.refl (w : World σ) : Idles q w w :=
  ⟨⟨rfl, rfl, rfl⟩, rfl, [], (List.append_nil _).symm, rfl, rfl⟩

theorem Idles.trans (first : Idles q w w') (second : Idles q w' w'') : Idles q w w'' := by
  obtain ⟨path, fifo, s, trace, sent, ends⟩ := first
  obtain ⟨path', fifo', s', trace', sent', ends'⟩ := second
  refine ⟨path.trans path', fifo'.trans fifo, s ++ s', ?_, ?_, ?_⟩
  · rw [trace', trace, List.append_assoc]
  · rw [dataWritten_append, sent, sent', List.append_nil]
  · rw [callCount_append, ends, ends']

/-- A step beside the queues, seen by silent events or none. -/
theorem Idles.beside {segment : List Event} (path : SamePath w w') (fifo : w'.store.fifo q = w.store.fifo q)
    (trace : w'.trace = w.trace ++ segment) (silent : Silent segment) : Idles q w w' :=
  ⟨path, fifo, segment, trace, silent.dataWritten, silent.txEnd⟩

theorem idles_afterRead (r : Register) (w : World σ) : Idles q w (w.afterRead env r) := by
  refine ⟨⟨rfl, rfl, rfl⟩, rfl, [.read r (w.value env r)], rfl, ?_, rfl⟩
  cases r <;> rfl

theorem idles_calling {hook : Hook} (other : hook ≠ .txEnd) (c : Callback) (arg : Arg) (w : World σ) :
    Idles q w (w.calling hook c arg) :=
  .beside ⟨rfl, rfl, rfl⟩ rfl rfl (.called other c arg w.uart w.store)

theorem idles_masked (enabled : Bool) (w : World σ) : Idles q w (w.masked enabled) :=
  .beside ⟨rfl, rfl, rfl⟩ rfl (List.append_nil _).symm .nil

theorem absorbs_idles (env : Env σ) : AbsorbsCount env (Idles q) (Idles q) where
  refl := .refl
  trans := .trans
  afterRead _ w := idles_afterRead _ w
  withErrorFlags _ _ := .beside ⟨rfl, rfl, rfl⟩ rfl (List.append_nil _).symm .nil
  called reception callback := (idles_calling (by rcases reception with rfl | rfl <;> decide) _ _ _).trans callback
  withSentBytes _ _ := .beside ⟨rfl, rfl, rfl⟩ rfl (List.append_nil _).symm .nil
  lengthCalled callback := (idles_calling (by decide) _ _ _).trans callback

theorem idles_push_other {r : FifoRef} (apart : r ≠ q) (data : Byte) (w : World σ) : Idles q w (w.afterPush r data) := by
  have path : SamePath w (w.afterPush r data) := by constructor <;> rw [World.afterPush_uart]
  have fifo : (w.afterPush r data).store.fifo q = w.store.fifo q := by
    rw [World.afterPush_store]
    exact Function.update_of_ne apart.symm _ _
  cases full : (w.store.fifo r).isFull with
  | true =>
    rw [w.afterPush_full full]
    exact .refl w
  | false => exact ⟨path, fifo, [.pushed r data], w.afterPush_room full data, rfl, rfl⟩

/-- Reception does not touch the queue being sent, being attached to another. -/
theorem RxOutcome.idles {rx : Bool} (outcome : RxOutcome env (Idles q) w rx w') (other : w.uart.rxFifo ≠ some q) :
    Idles q w w' := by
  rcases outcome.absorbed (absorbs_idles env) (idles_afterRead .data) with idles | ⟨w₁, r, byte, idles, attached, rfl⟩
  · exact idles
  · rw [idles.path.rxFifo] at attached
    refine idles.trans (idles_push_other ?_ byte w₁)
    rintro rfl
    exact other attached

/-- What `Uart_handleTx` does to the queue being sent: nothing, or it sends a
byte, and calls the handler after the last one. -/
inductive EndStep (q : FifoRef) (w w' : World σ) : Prop
  | idle (idles : Idles q w w')
  | sent (w₁ : World σ) {control status : Word} {byte : Byte} (held : (w.store.fifo q).isEmpty = false)
      (path : SamePath w w₁) (fifo : w₁.store.fifo q = (w.store.fifo q).pulled) (trace : w₁.trace = w.trace ++
        [.read .control control, .read .status status, .write .data (byte.setWidth 32)])
      (callback : (w₁.store.fifo q).isEmpty = false ∧ w' = w₁ ∨ (w₁.store.fifo q).isEmpty = true ∧
        Idles q (w₁.calling .txEnd w.uart.txHandler.callback w.uart.txHandler.arg) w')

theorem TxOutcome.endStep {tx : Bool} (outcome : TxOutcome env (Idles q) w tx w') (txFifo : w.uart.txFifo = some q) :
    EndStep q w w' := by
  rcases outcome.absorbed (absorbs_idles env).toAbsorbs with idles | ⟨r, ready, attached, held, ended⟩
  · exact .idle idles
  · rw [txFifo] at attached
    cases attached
    exact .sent (w.afterSend env q) held ⟨rfl, rfl, rfl⟩ (Store.pull_fifo held 0) (w.afterSend_trace env q) ended

theorem idles_detaching : Detaching total (Idles (σ := σ) q) := by
  intro w w' idles attached absent
  rw [idles.path.rxFifo] at absent
  exact attached absent

/-- Up to `Uart_handleTx` an interrupt idles. -/
theorem InterruptOutcome.endStep (outcome : InterruptOutcome env (Idles q) w w') (txFifo : w.uart.txFifo = some q)
    (other : w.uart.rxFifo ≠ some q) : ∃ w₁, Idles q w w₁ ∧ EndStep q w₁ w' := by
  obtain ⟨errorOutcome, rxOutcome, txOutcome⟩ := outcome
  have first := errorOutcome.absorbed (absorbs_idles env).toAbsorbs
  have second := rxOutcome.idles (first.path.rxFifo ▸ other)
  have both := first.trans second
  exact ⟨_, both, txOutcome.endStep (both.path.txFifo.trans txFifo)⟩

end Steps

/-- Where the transmission stands after `reports` calls of the handler. -/
structure Stands (q : FifoRef) (handler : TxHandler) (start w : World σ) (reports : Nat) : Prop where
  wf : (w.store.fifo q).WF
  txFifo : w.uart.txFifo = some q
  rxOther : w.uart.rxFifo ≠ some q
  txHandler : w.uart.txHandler = handler
  conserved : (dataWritten (since start w)).length + (w.store.fifo q).length = (start.store.fifo q).length
  count : endCount handler (since start w) = reports
  timely : ∀ event ∈ since start w, event.endsEarly q = false
  trace : w.trace = start.trace ++ since start w

section Stands

variable {env : Env σ} {q : FifoRef} {handler : TxHandler} {start w w' : World σ} {reports : Nat}

theorem isEmpty_iff_length {fifo : ByteFifo} (wf : fifo.WF) : fifo.isEmpty = true ↔ fifo.length = 0 := by
  rw [ByteFifo.length_eq_zero wf, ByteFifo.isEmpty, beq_iff_eq]

theorem Stands.allSent_iff (stands : Stands q handler start w reports) :
    AllSent q start w ↔ (w.store.fifo q).isEmpty = true := by
  have conserved := stands.conserved
  rw [isEmpty_iff_length stands.wf, AllSent]
  omega

/-- The step lemma: bytes leave the queue for the data register. -/
theorem Stands.step (stands : Stands q handler start w reports) {segment : List Event} {more : Nat}
    (path : SamePath w w') (wf : (w'.store.fifo q).WF) (trace : w'.trace = w.trace ++ segment)
    (conserved : (dataWritten segment).length + (w'.store.fifo q).length = (w.store.fifo q).length)
    (count : endCount handler segment = more) (timely : ∀ event ∈ segment, event.endsEarly q = false) :
    Stands q handler start w' (reports + more) := by
  have whole : w'.trace = start.trace ++ (since start w ++ segment) := by
    rw [trace, stands.trace, List.append_assoc]
  have later : since start w' = since start w ++ segment := by
    rw [since, whole, List.drop_left]
  refine ⟨wf, path.txFifo.trans stands.txFifo, path.rxFifo ▸ stands.rxOther, path.txHandler.trans stands.txHandler,
    ?_, ?_, ?_, later ▸ whole⟩
  · have before := stands.conserved
    rw [later, dataWritten_append, List.length_append]
    omega
  · rw [later, endCount_append, stands.count, count]
  · rw [later, List.forall_mem_append]
    exact ⟨stands.timely, timely⟩

theorem Stands.idles (stands : Stands q handler start w reports) (idles : Idles q w w') :
    Stands q handler start w' reports := by
  obtain ⟨path, fifo, segment, trace, sent, ends⟩ := idles
  have kept : (dataWritten segment).length + (w'.store.fifo q).length = (w.store.fifo q).length := by
    rw [sent, fifo, List.length_nil, Nat.zero_add]
  exact stands.step path (fifo ▸ stands.wf) trace kept (invocations_eq_zero _ _ ends) (endsEarly_eq_false q ends)

/-- A step that sends the oldest byte. -/
theorem Stands.sends (stands : Stands q handler start w reports) (held : (w.store.fifo q).isEmpty = false)
    (path : SamePath w w') (fifo : w'.store.fifo q = (w.store.fifo q).pulled) {segment : List Event}
    (trace : w'.trace = w.trace ++ segment) (one : (dataWritten segment).length = 1)
    (none : callCount .txEnd segment = 0) : Stands q handler start w' reports := by
  have present : (w.store.fifo q).first ≠ NULL := by simpa [ByteFifo.isEmpty] using held
  have pos := ByteFifo.length_pos stands.wf present
  have fewer : (dataWritten segment).length + (w'.store.fifo q).length = (w.store.fifo q).length := by
    rw [one, fifo, ByteFifo.pulled_length stands.wf present]
    omega
  exact stands.step path (fifo ▸ ByteFifo.pulled_wf stands.wf present) trace fewer (invocations_eq_zero _ _ none)
    (endsEarly_eq_false q none)

/-- The handler is called when a step drains the queue, and at no other step. -/
theorem Stands.endStep (stands : Stands q handler start w reports) (step : EndStep q w w') :
    ((w'.store.fifo q).isEmpty = (w.store.fifo q).isEmpty ∧ Stands q handler start w' reports) ∨
      (w.store.fifo q).isEmpty = false ∧
        Stands q handler start w' (reports + if (w'.store.fifo q).isEmpty then 1 else 0) := by
  cases step with
  | idle idles => exact Or.inl ⟨congrArg _ idles.fifo, stands.idles idles⟩
  | sent w₁ held path fifo trace callback =>
    have sends := stands.sends held path fifo trace rfl rfl
    refine Or.inr ⟨held, ?_⟩
    rcases callback with ⟨more, rfl⟩ | ⟨last, idles⟩
    · rw [more]
      exact sends
    · have empty : (w'.store.fifo q).isEmpty = true := by
        rw [idles.fifo]
        exact last
      rw [empty]
      have ends : endCount handler
          [.called .txEnd w.uart.txHandler.callback w.uart.txHandler.arg w₁.uart w₁.store] = 1 := by
        rw [stands.txHandler]
        exact invocations_called _ _ _ _ _
      have called : Stands q handler start (w₁.calling .txEnd w.uart.txHandler.callback w.uart.txHandler.arg)
          (reports + 1) :=
        sends.step ⟨rfl, rfl, rfl⟩ sends.wf (World.calling_trace _ _ _ _) (Nat.zero_add _) ends
          (List.forall_mem_singleton.2 (by simp [Event.endsEarly, last]))
      exact called.idles idles

/-- The world in which `Uart_writeAsync` looks at the status register. -/
def World.attaching (w : World σ) (q : FifoRef) (handler : TxHandler) : World σ :=
  (w.masked false).withUart { w.uart with txFifo := some q, txHandler := handler }

theorem stands_attaching (wf : (start.store.fifo q).WF) (other : start.uart.rxFifo ≠ some q) (handler : TxHandler) :
    Stands q handler start (start.attaching q handler) 0 := by
  have none : since start (start.attaching q handler) = [] := List.drop_length
  refine ⟨wf, rfl, other, rfl, ?_, ?_, ?_, ?_⟩ <;> rw [none]
  · exact Nat.zero_add _
  · rfl
  · exact List.forall_mem_nil _
  · exact (List.append_nil _).symm

/-- What `Uart_writeAsync` does with a queue that holds something: the queue is
empty afterwards only if its one byte was sent at once. -/
theorem wp_attachEnd (env : Env σ) (wf : (start.store.fifo q).WF) (held : (start.store.fifo q).isEmpty = false)
    (other : start.uart.rxFifo ≠ some q) (handler : TxHandler) :
    wp total (exec env (.writeAsync (some q) handler)) (fun answer w => answer = .done ∧ Stands q handler start w 0 ∧
      ((w.store.fifo q).isEmpty = true ↔
        (start.store.fifo q).length = 1 ∧ getFlag (start.value env .status) Status.TS = true)) start := by
  have present : (start.store.fifo q).first ≠ NULL := by simpa [ByteFifo.isEmpty] using held
  have pos := ByteFifo.length_pos wf present
  have attaching := stands_attaching wf other handler
  rw [exec]
  unfold writeAsync
  simp only [wp_bind, wp_vectorDisable, wp_modifyDescriptor, wp_vectorEnable, wp_pure]
  apply wp_kick (q := q) rfl
  · intro (shows : getFlag (start.value env .status) Status.TS = true)
    have sent : Stands q handler start ((((start.attaching q handler).afterRead env .status).withStore
        (start.store.pull q 0).2.2).afterWrite env .data ((start.store.pull q 0).2.1.setWidth 32)) 0 :=
      attaching.sends held ⟨rfl, rfl, rfl⟩ (Store.pull_fifo held 0) (List.append_assoc _ _ _) rfl rfl
    refine ⟨trivial, sent.idles (idles_masked true _), ?_⟩
    show ((start.store.pull q 0).2.2.fifo q).isEmpty = true ↔ _
    rw [Store.pull_fifo held, isEmpty_iff_length (ByteFifo.pulled_wf wf present), ByteFifo.pulled_length wf present,
      and_iff_left shows]
    omega
  · intro hides
    have waiting : Stands q handler start (((start.attaching q handler).afterRead env .status).masked true) 0 :=
      (attaching.idles (idles_afterRead .status _)).idles (idles_masked true _)
    refine ⟨trivial, waiting, iff_of_false ?_ ?_⟩
    · exact ne_true_of_eq_false held
    · exact fun sent => ne_true_of_eq_false hides sent.2

/-- How the transmission goes on after `attached`, the world `Uart_writeAsync`
left: the handler is called by the step that drains the queue, and never when
it was drained before. -/
structure Progress (q : FifoRef) (handler : TxHandler) (start attached : World σ) (calls : List (Made σ)) (w : World σ) :
    Prop where
  stands : Stands q handler start w
    (if (attached.store.fifo q).isEmpty then 0 else if (w.store.fifo q).isEmpty then 1 else 0)
  drained : (attached.store.fifo q).isEmpty = true →
    (w.store.fifo q).isEmpty = true ∧ ∀ made ∈ calls, AllSent q start made.after

theorem Progress.attach {attached : World σ} (stands : Stands q handler start attached 0) :
    Progress q handler start attached [] attached := by
  refine ⟨?_, fun empty => ⟨empty, by simp⟩⟩
  cases (attached.store.fifo q).isEmpty <;> exact stands

theorem Progress.step {attached : World σ} {calls : List (Made σ)} (made : Made σ)
    (progress : Progress q handler start attached calls made.before) {w₁ : World σ} (idles : Idles q made.before w₁)
    (step : EndStep q w₁ made.after) : Progress q handler start attached (calls ++ [made]) made.after := by
  have same : (w₁.store.fifo q).isEmpty = (made.before.store.fifo q).isEmpty := congrArg _ idles.fifo
  rcases (progress.stands.idles idles).endStep step with ⟨kept, stands⟩ | ⟨held, stands⟩
  · rw [same] at kept
    refine ⟨kept ▸ stands, fun empty => ?_⟩
    obtain ⟨before, each⟩ := progress.drained empty
    refine ⟨kept ▸ before, ?_⟩
    simp only [List.forall_mem_append, List.forall_mem_singleton]
    exact ⟨each, stands.allSent_iff.2 (kept ▸ before)⟩
  · rw [same] at held
    have some : (attached.store.fifo q).isEmpty = false := by
      by_contra empty
      rw [(progress.drained (eq_true_of_ne_false empty)).1] at held
      cases held
    refine ⟨?_, fun empty => ?_⟩
    · rw [some, held] at stands
      rw [some]
      simpa using stands
    · rw [some] at empty
      cases empty

/-- The run lemma. -/
theorem Progress.run (callbacks : Callbacks total env (Idles q)) {attached : World σ}
    (stands : Stands q handler start attached 0) {calls : List (Made σ)} (run : Run env Interrupts attached calls w) :
    Progress q handler start attached calls w := by
  refine run.invariant (I := Progress q handler start attached) (.attach stands) ?_
  rintro calls w call answer w' progress rfl ran
  have spec : wp total (exec env .handleInterrupt) (fun _ w' => InterruptOutcome env (Idles q) w w') w := by
    rw [exec, wp_bind]
    exact wp_handleInterrupt callbacks idles_detaching
  have outcome := wp_ended spec ran
  obtain ⟨w₁, idles, step⟩ := outcome.endStep progress.stands.txFifo progress.stands.rxOther
  exact Progress.step ⟨w, .handleInterrupt, answer, w'⟩ progress idles step

/-- The end is reported unless the first byte was the last one. -/
theorem Progress.endReported_iff {attached : World σ} {calls : List (Made σ)}
    (progress : Progress q handler start attached calls w) :
    EndReported q handler start calls w ↔
      ¬ ((attached.store.fifo q).isEmpty = true ∧ ∃ made ∈ calls, ShowsTS made) := by
  have count := progress.stands.count
  cases kicked : (attached.store.fifo q).isEmpty with
  | true =>
    obtain ⟨empty, each⟩ := progress.drained kicked
    rw [kicked, if_pos rfl] at count
    constructor
    · rintro ⟨-, -, once⟩ ⟨-, made, mem, shows⟩
      have one := once (progress.stands.allSent_iff.2 empty) ⟨made, mem, shows, each made mem⟩
      rw [count] at one
      cases one
    · intro unseen
      refine ⟨fun held => absurd empty (ne_true_of_eq_false held), progress.stands.timely, fun _ seen => ?_⟩
      obtain ⟨made, mem, shows, -⟩ := seen
      exact absurd ⟨rfl, made, mem, shows⟩ unseen
  | false =>
    rw [kicked, if_neg Bool.false_ne_true] at count
    refine iff_of_true ⟨fun held => ?_, progress.stands.timely, fun sent _ => ?_⟩ fun both => Bool.false_ne_true both.1
    · rw [count, held]
      rfl
    · rw [count, progress.stands.allSent_iff.1 sent]
      rfl

end Stands

/-- **The end of a transmission** is reported exactly once, unless the queue
held one byte, `TS` was set when it was attached, and an interrupt saw `TS`
since. -/
theorem transmit_end_reported_iff {env : Env σ} {q : FifoRef} (callbacks : Callbacks total env (Idles q)) {start : World σ}
    (wf : (start.store.fifo q).WF) (held : 1 ≤ (start.store.fifo q).length) (other : start.uart.rxFifo ≠ some q)
    (handler : TxHandler) :
    ∃ attached, exec env (.writeAsync (some q) handler) start = .ok (.done, attached) ∧
      ∀ calls w, Run env Interrupts attached calls w →
        (EndReported q handler start calls w ↔ ¬ ((start.store.fifo q).length = 1 ∧
          getFlag (start.value env .status) Status.TS = true ∧ ∃ made ∈ calls, ShowsTS made)) ∧
        ∃ w', exec env .handleInterrupt w = .ok (.done, w') := by
  have some : (start.store.fifo q).isEmpty = false := by
    rw [← Bool.not_eq_true, isEmpty_iff_length wf]
    omega
  obtain ⟨answer, attached, attach, rfl, stands, empty⟩ := wp_total (wp_attachEnd env wf some other handler)
  refine ⟨attached, attach, fun calls w run => ⟨?_, ?_⟩⟩
  · rw [(Progress.run callbacks stands run).endReported_iff, empty, and_assoc]
  · have spec : wp total (exec env .handleInterrupt) (fun answer _ => answer = .done) w := by
      rw [exec, wp_bind]
      apply wp_mono (wp_handleInterrupt callbacks idles_detaching)
      intro _ w' _
      rfl
    obtain ⟨_, w', ran, rfl⟩ := wp_total spec
    exact ⟨w', ran⟩

namespace Board

theorem callbacks_idle (q : FifoRef) : Callbacks total env (Idles q) :=
  ⟨fun w => .refl w, fun _ _ w => .refl w⟩

end Board

/-- Two queued bytes, `TS` set when the queue is attached: the second interrupt
sends the last byte. -/
theorem transmit_end_reported_two :
    let start := Board.holding 2 [2, 0, 0, 0, 2]
    ∃ attached calls w, exec Board.env (.writeAsync (some 0) defaultTxHandler) start = .ok (.done, attached) ∧
      Run Board.env Interrupts attached calls w ∧ calls.map Taken.input = [.handleInterrupt, .handleInterrupt] ∧
      EndReported 0 defaultTxHandler start calls w := by
  obtain ⟨w, performed⟩ : ∃ w, perform (exec Board.env) [.writeAsync (some 0) defaultTxHandler, .handleInterrupt,
      .handleInterrupt] (Board.holding 2 [2, 0, 0, 0, 2]) = .ok (⟨⟩, w) := ⟨_, rfl⟩
  have wf : ((Board.holding 2 [2, 0, 0, 0, 2]).store.fifo 0).WF := Board.fullStore_wf 2 (Or.inr rfl)
  obtain ⟨attached, attach, reported⟩ := transmit_end_reported_iff (Board.callbacks_idle 0) wf (by decide) (by decide)
    defaultTxHandler
  have interrupts : ∀ call ∈ [.handleInterrupt, .handleInterrupt], ∀ w : World Board, Interrupts w call := by
    simp [Interrupts]
  obtain ⟨calls, run, inputs⟩ := perform_run interrupts (perform_rest performed attach)
  exact ⟨attached, calls, w, attach, run, inputs, (reported calls w run).1.2 fun short => absurd short.1 (by decide)⟩

/-- One queued byte, `TS` set when the queue is attached: `Uart_writeAsync`
sends it, and the interrupt that follows finds nothing to report. -/
theorem transmit_end_unreported :
    let start := Board.holding 1 [2, 2, 2]
    ∃ attached w, exec Board.env (.writeAsync (some 0) defaultTxHandler) start = .ok (.done, attached) ∧
      Run Board.env Interrupts attached [⟨attached, .handleInterrupt, .done, w⟩] w ∧
      ¬ EndReported 0 defaultTxHandler start [⟨attached, .handleInterrupt, .done, w⟩] w := by
  refine ⟨_, _, rfl, .one rfl rfl, fun reported => ?_⟩
  have once := reported.once rfl ⟨_, List.mem_singleton_self _, ⟨_, List.mem_cons_self, by decide⟩, rfl⟩
  cases once

end Leon3Bsp.Uart
