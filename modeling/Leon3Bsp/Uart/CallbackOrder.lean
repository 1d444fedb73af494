import Leon3Bsp.Uart.Board
import Leon3Bsp.Uart.Trace

/-!
# What a reception callback finds

`Uart_handleRx` calls the callbacks of the caller between its full check and the
push. A callback finds the queue without the byte it is called for, and the byte
goes to whatever queue is attached when the callbacks are done.
-/

namespace Leon3Bsp.Uart
set_option autoImplicit false
open Wp

variable {σ : Type}

/-- The functions of the caller may do anything but detach the reception queue:
pull from it, attach another one, register another handler. -/
structure Attends (w w' : World σ) : Prop where
  trace : w.trace <+: w'.trace
  attached : w.uart.rxFifo ≠ none → w'.uart.rxFifo ≠ none

/-- Each reception callback finds the byte at the tail of `q`, besides what was
pulled since; in the end the byte is there or was pulled, and no other queue got
it. -/
structure SeesByte (q : FifoRef) (byte : Byte) (made : Made σ) : Prop where
  seen : ∀ before hook callback arg uart store after,
    events made = before ++ .called hook callback arg uart store :: after → hook = .rxCharacter ∨ hook = .rxLength →
      pulledFrom q before ++ store.contents q = made.before.store.contents q ++ [byte]
  kept : pulledFrom q (events made) ++ made.after.store.contents q = made.before.store.contents q ++ [byte]
  undiverted : ∀ r, r ≠ q → pushedTo r (events made) = []

/-- `Uart_handleRx` calls a callback for the byte it takes. -/
def Triggers (env : Env σ) (w : World σ) : Prop :=
  w.rxByte env = w.uart.rxHandler.targetCharacter ∨ w.uart.interruptData.sentBytes + 1 = w.uart.rxHandler.targetLength

section Steps

variable {env : Env σ} {q : FifoRef} {w w' w'' : World σ}

theorem Attends.refl (w : World σ) : Attends w w :=
  ⟨List.prefix_refl _, fun attached => attached⟩

theorem attends_detaching : Detaching total (Attends (σ := σ)) :=
  fun _ _ attends attached absent => attends.attached attached absent

/-- The trace only grows. -/
theorem absorbs_growth (env : Env σ) : AbsorbsCount env Attends fun w w' => w.trace <+: w'.trace where
  refl _ := List.prefix_refl _
  trans := List.IsPrefix.trans
  afterRead _ _ := List.prefix_append _ _
  withErrorFlags _ _ := List.prefix_refl _
  called _ callback := (List.prefix_append _ _).trans callback.trace
  withSentBytes _ _ := List.prefix_refl _
  lengthCalled callback := (List.prefix_append _ _).trans callback.trace

theorem growth_afterPush (r : FifoRef) (data : Byte) (w : World σ) : w.trace <+: (w.afterPush r data).trace := by
  unfold World.afterPush
  split
  · exact List.prefix_append _ _
  · exact List.prefix_refl _

/-- What `Uart_handleRx` does with a byte for which the queue has room. -/
inductive ByteOutcome (env : Env σ) (q : FifoRef) (w w' : World σ) : Prop
  | quiet (silent : ¬ Triggers env w) (pushed : w' = ((w.afterData env).withSentBytes
      (w.uart.interruptData.sentBytes + 1)).afterPush q (w.rxByte env))
  | called {hook : Hook} {callback : Callback} {arg : Arg} {uart : Uart} (triggers : Triggers env w)
      (reception : hook = .rxCharacter ∨ hook = .rxLength)
      (trace : (w.afterData env).trace ++ [.called hook callback arg uart w.store] <+: w'.trace)

theorem RxOutcome.byteOutcome {rx : Bool} (outcome : RxOutcome env Attends w rx w') (ready : w.RxReady env)
    (attached : w.uart.rxFifo = some q) (room : (w.store.fifo q).isFull = false) : ByteOutcome env q w w' := by
  cases outcome with
  | disabled off => rw [ready.1] at off; cases off
  | nothing on clear => rw [ready.2] at clear; cases clear
  | detached ready absent => rw [attached] at absent; cases absent
  | dropped ready attached' full =>
    rw [attached] at attached'
    cases attached'
    rw [room] at full
    cases full
  | accepted ready attached' room' matched counted last =>
    cases matched with
    | called target callback =>
      have later := callback.trace.trans (counted.absorbed (absorbs_growth env))
      exact .called (Or.inl target) (Or.inl rfl) (later.trans (growth_afterPush _ _ _))
    | skipped other =>
      cases counted with
      | called reached callback =>
        exact .called (Or.inr reached) (Or.inr rfl) (callback.trace.trans (growth_afterPush _ _ _))
      | skipped short =>
        have same := last.symm.trans attached
        cases same
        exact .quiet (fun triggers => triggers.elim other short) rfl

/-- The byte is seen exactly if nobody looks. -/
theorem ByteOutcome.seesByte_iff (outcome : ByteOutcome env q w w') (wf : (w.store.fifo q).WF)
    (room : (w.store.fifo q).isFull = false) {call : Call} {answer : Answer} :
    SeesByte q (w.rxByte env) ⟨w, call, answer, w'⟩ ↔ ¬ Triggers env w := by
  cases outcome with
  | called triggers reception trace =>
    rename_i hook callback arg uart
    refine iff_of_false (fun sees => ?_) (fun silent => silent triggers)
    -- the callback found the queue as it was
    obtain ⟨after, trace⟩ := trace
    rw [World.afterData_trace, List.append_assoc, List.append_assoc] at trace
    have found : [] ++ w.store.contents q = w.store.contents q ++ [w.rxByte env] :=
      sees.seen _ hook callback arg uart w.store after (events_eq trace.symm) reception
    have longer := congrArg List.length found
    simp at longer
  | quiet silent pushed =>
    refine iff_of_true ?_ silent
    subst pushed
    have trace : (((w.afterData env).withSentBytes (w.uart.interruptData.sentBytes + 1)).afterPush q
        (w.rxByte env)).trace = w.trace ++ (w.rxReads env ++ [.pushed q (w.rxByte env)]) := by
      rw [World.afterPush_room _ (by exact room), World.withSentBytes_trace, World.afterData_trace, List.append_assoc]
    constructor
    · intro before hook callback arg uart store after split
      rw [events_eq trace] at split
      have called : Event.called hook callback arg uart store ∈ before ++ .called hook callback arg uart store :: after := by
        simp
      rw [← split] at called
      simp [World.rxReads] at called
    · rw [events_eq trace, World.afterPush_store]
      exact Store.push_contents wf room _
    · intro r apart
      rw [events_eq trace, pushedTo_append, pushedTo_pushed, if_neg apart]
      rfl

end Steps

/-- **The byte a callback is called for.** It is where the callback looks for it
exactly if no callback is called. -/
theorem callback_sees_byte_iff {env : Env σ} (callbacks : Callbacks total env Attends) {q : FifoRef} {w : World σ}
    (wf : (w.store.fifo q).WF) (attached : w.uart.rxFifo = some q) (room : (w.store.fifo q).isFull = false)
    (ready : w.RxReady env) :
    ∃ w', exec env .handleRx w = .ok (.flag true, w') ∧
      (SeesByte q (w.rxByte env) ⟨w, .handleRx, .flag true, w'⟩ ↔
        w.rxByte env ≠ w.uart.rxHandler.targetCharacter ∧
          w.uart.interruptData.sentBytes + 1 ≠ w.uart.rxHandler.targetLength) := by
  have spec : wp total (exec env .handleRx) (fun answer w' => ∃ rx, answer = .flag rx ∧ RxOutcome env Attends w rx w') w := by
    rw [exec, wp_bind]
    apply wp_mono (wp_handleRx callbacks attends_detaching)
    intro rx w' outcome
    exact ⟨rx, rfl, outcome⟩
  obtain ⟨_, w', ran, rx, rfl, outcome⟩ := wp_total spec
  have taken : rx = true := by
    cases outcome with
    | disabled off => exact absurd ready.1 (ne_true_of_eq_false off)
    | nothing on clear => exact absurd ready.2 (ne_true_of_eq_false clear)
    | detached | dropped | accepted => rfl
  subst taken
  refine ⟨w', ran, ?_⟩
  rw [(outcome.byteOutcome ready attached room).seesByte_iff wf room]
  exact not_or

namespace Board

/-- The callbacks of the caller attach queue 1, which is full. -/
def divertingEnv : Env Board :=
  { env with callback := fun _ _ => readAsync (some 1) defaultRxHandler }

/-- Queue 0 is empty and attached, the receiver holds `received`; a callback is
to be called for a `q`. -/
def waitingForQ (received : List Byte) : World Board :=
  { world 2 ⟨1, [], received⟩ with
    uart := { descriptor with
      rxFifo := some 0
      rxHandler := { defaultRxHandler with targetCharacter := 0x71, characterCallback := .user 0 } }
    store := ⟨fun _ => 0, fun q => if q = 0 then emptyFifo 2 0 else (emptyFifo 2 q).initFromBytes (0x40000000 + 0x10000 * q) 2⟩ }

theorem callbacks_attend : Callbacks total divertingEnv Attends := by
  refine ⟨fun w => .refl w, fun _ _ w => ⟨List.prefix_refl _, fun _ absent => ?_⟩⟩
  cases absent

end Board

/-- A byte other than the target. -/
theorem callback_sees_byte_other :
    ∃ w', exec Board.divertingEnv .handleRx (Board.waitingForQ [0x41]) = .ok (.flag true, w') ∧
      SeesByte 0 0x41 ⟨Board.waitingForQ [0x41], .handleRx, .flag true, w'⟩ := by
  obtain ⟨w', ran, sees⟩ := callback_sees_byte_iff Board.callbacks_attend (q := 0) (w := Board.waitingForQ [0x41])
    ⟨by decide, by decide, by decide, by decide, by decide⟩ rfl rfl ⟨rfl, rfl⟩
  exact ⟨w', ran, sees.2 ⟨by decide, by decide⟩⟩

/-- The target byte is in no queue after its callback attached a full one, and
no error is flagged. -/
theorem callback_diverts_byte :
    let start := Board.waitingForQ [0x71]
    ∃ w', exec Board.divertingEnv .handleRx start = .ok (.flag true, w') ∧
      ¬ SeesByte 0 0x71 ⟨start, .handleRx, .flag true, w'⟩ ∧ w'.hw.received = [] ∧ w'.store.contents 0 = [] ∧
      w'.store.contents 1 = start.store.contents 1 ∧ w'.uart.errorFlags.hasRxFifoFullErrorOccurred = false := by
  refine ⟨_, rfl, fun sees => ?_, rfl, rfl, rfl, rfl⟩
  have kept := sees.kept
  cases kept

end Leon3Bsp.Uart
