import Mathlib.Logic.Relation
import Leon3Bsp.Uart.Trace

/-!
# The data path under harmless callbacks

With functions of the caller that touch neither the driver nor the queues, an
interrupt moves at most one byte in and one byte out. Each handler has one
effect lemma: which queue changed and how, what the trace gained, and that the
device was only accessed beside the data register.
-/

namespace Leon3Bsp.Uart
set_option autoImplicit false
open Wp

variable {σ : Type}

/-- Functions of the caller that touch neither the driver nor `queues`. -/
structure Harmless (queues : Set FifoRef) (w w' : World σ) : Prop where
  uart : w'.uart = w.uart
  hw : w'.hw = w.hw
  trace : w'.trace = w.trace
  store : Store.Same queues w.store w'.store

theorem Harmless.refl (queues : Set FifoRef) (w : World σ) : Harmless queues w w :=
  ⟨rfl, rfl, rfl, .refl queues w.store⟩

/-- The device was accessed, but its data register was not read. -/
abbrev Quiet (device : Device σ) : σ → σ → Prop :=
  Relation.ReflTransGen fun s s' =>
    (∃ r, r ≠ Register.data ∧ s' = (device.read r s).2) ∨ ∃ r v, s' = device.write r v s

theorem Quiet.read (device : Device σ) {r : Register} (other : r ≠ .data) (s : σ) : Quiet device s (device.read r s).2 :=
  .single (Or.inl ⟨r, other, rfl⟩)

theorem Quiet.write (device : Device σ) (r : Register) (v : Word) (s : σ) : Quiet device s (device.write r v s) :=
  .single (Or.inr ⟨r, v, rfl⟩)

/-- The queues attached. -/
structure SameQueues (w w' : World σ) : Prop where
  txFifo : w'.uart.txFifo = w.uart.txFifo
  rxFifo : w'.uart.rxFifo = w.uart.rxFifo

theorem SameQueues.refl (w : World σ) : SameQueues w w :=
  ⟨rfl, rfl⟩

theorem SameQueues.trans {w w' w'' : World σ} (first : SameQueues w w') (second : SameQueues w' w'') : SameQueues w w'' :=
  ⟨second.txFifo.trans first.txFifo, second.rxFifo.trans first.rxFifo⟩

theorem SameQueues.of_uart {w w' : World σ} (same : w'.uart = w.uart) : SameQueues w w' := by
  constructor <;> rw [same]

/-- Nothing moved on the data path. -/
structure Passes (device : Device σ) (queues : Set FifoRef) (w w' : World σ) (segment : List Event) : Prop where
  path : SameQueues w w'
  store : Store.Same queues w.store w'.store
  hw : Quiet device w.hw w'.hw
  trace : w'.trace = w.trace ++ segment
  silent : Silent segment

/-- Two worlds of one call, between which nothing moved. -/
def Passed (device : Device σ) (queues : Set FifoRef) (w w' : World σ) : Prop :=
  ∃ segment, Passes device queues w w' segment

section

variable {device : Device σ} {queues : Set FifoRef} {w w' w'' : World σ}

theorem Passed.refl (w : World σ) : Passed device queues w w :=
  ⟨[], .refl w, .refl queues w.store, .refl, (List.append_nil _).symm, .nil⟩

theorem Passed.trans (first : Passed device queues w w') (second : Passed device queues w' w'') :
    Passed device queues w w'' := by
  obtain ⟨segment, path, store, hw, trace, silent⟩ := first
  obtain ⟨segment', path', store', hw', trace', silent'⟩ := second
  refine ⟨segment ++ segment', path.trans path', store.trans store', hw.trans hw', ?_, silent.append silent'⟩
  rw [trace', trace, List.append_assoc]

end

section

variable {env : Env σ} {queues : Set FifoRef} {w w' w'' : World σ}

theorem passed_afterRead {r : Register} (other : r ≠ .data) (w : World σ) :
    Passed env.device queues w (w.afterRead env r) :=
  ⟨_, ⟨rfl, rfl⟩, .refl queues w.store, .read env.device other w.hw, rfl, .read other _⟩

/-- A harmless callback other than the end of a transmission. -/
theorem Harmless.passed {hook : Hook} {callback : Callback} {arg : Arg} (other : hook ≠ .txEnd)
    (harmless : Harmless queues (w.calling hook callback arg) w') : Passed env.device queues w w' :=
  ⟨_, .of_uart harmless.uart, harmless.store, harmless.hw ▸ .refl, harmless.trace, .called other _ _ _ _⟩

theorem absorbs_passed (env : Env σ) : AbsorbsCount env (Harmless queues) (Passed env.device queues) where
  refl := .refl
  trans := .trans
  afterRead other w := passed_afterRead other w
  withErrorFlags _ w := ⟨[], ⟨rfl, rfl⟩, .refl queues w.store, .refl, (List.append_nil _).symm, .nil⟩
  called reception harmless := harmless.passed (by rcases reception with rfl | rfl <;> decide)
  withSentBytes _ w := ⟨[], ⟨rfl, rfl⟩, .refl queues w.store, .refl, (List.append_nil _).symm, .nil⟩
  lengthCalled harmless := harmless.passed (by decide)

end

/-- What `Uart_handleRx` does to the data path. -/
inductive RxEffect (env : Env σ) (queues : Set FifoRef) (w w' : World σ) : Prop
  | idle (idle : ¬ w.RxReady env ∨ w.uart.rxFifo = none) (passed : Passed env.device queues w w')
  | dropped {q : FifoRef} {segment : List Event} (ready : w.RxReady env) (attached : w.uart.rxFifo = some q)
      (full : (w.store.fifo q).isFull = true) (path : SameQueues w w') (store : Store.Same queues w.store w'.store)
      (hw : Quiet env.device (w.afterData env).hw w'.hw) (trace : w'.trace = (w.afterData env).trace ++ segment)
      (silent : Silent segment)
  | queued {q : FifoRef} {segment : List Event} (ready : w.RxReady env) (attached : w.uart.rxFifo = some q)
      (room : (w.store.fifo q).isFull = false) (path : SameQueues w w')
      (store : Store.Becomes queues w.store w'.store q (w.store.contents q ++ [w.rxByte env]))
      (hw : Quiet env.device (w.afterData env).hw w'.hw)
      (trace : w'.trace = (w.afterData env).trace ++ (segment ++ [.pushed q (w.rxByte env)])) (silent : Silent segment)

/-- What `Uart_handleTx` does to the data path. -/
inductive TxEffect (env : Env σ) (queues : Set FifoRef) (w w' : World σ) : Prop
  | idle (idle : ¬ w.TxReady env ∨ ∀ q, w.uart.txFifo = some q → w.store.contents q = [])
      (passed : Passed env.device queues w w')
  | sent {q : FifoRef} {byte : Byte} {rest : List Byte} {ended : List Event} (ready : w.TxReady env)
      (attached : w.uart.txFifo = some q) (front : w.store.contents q = byte :: rest) (path : SameQueues w w')
      (store : Store.Becomes queues w.store w'.store q rest) (hw : Quiet env.device w.hw w'.hw)
      (trace : w'.trace = w.trace ++ ([.read .control (w.value env .control), .read .status (w.handlerStatus env),
        .write .data (byte.setWidth 32)] ++ ended))
      (callback : rest ≠ [] ∧ ended = [] ∨ rest = [] ∧ ∃ uart store, ended =
        [.called .txEnd w.uart.txHandler.callback w.uart.txHandler.arg uart store])

section

variable {env : Env σ} {queues : Set FifoRef} {w w' : World σ}

theorem RxOutcome.effect {rx : Bool} (separate : Store.Separate queues w.store)
    (member : ∀ q, w.uart.rxFifo = some q → q ∈ queues) (outcome : RxOutcome env (Harmless queues) w rx w') :
    RxEffect env queues w w' := by
  cases outcome with
  | disabled off =>
    refine .idle (Or.inl fun ready => ?_) (passed_afterRead (by decide) w)
    simp [ready.1] at off
  | nothing on clear =>
    refine .idle (Or.inl fun ready => ?_) ((absorbs_passed env).afterStatus w)
    simp [ready.2] at clear
  | detached ready absent => exact .idle (Or.inr absent) ((absorbs_passed env).afterStatus w)
  | dropped ready attached full =>
    exact .dropped ready attached full ⟨rfl, rfl⟩ (.refl queues w.store) .refl (List.append_nil _).symm .nil
  | accepted ready attached room matched counted attached' =>
    rename_i q r w₁ w₂
    have callbacks : Passed env.device queues (w.afterData env) w₂ :=
      (matched.absorbed (absorbs_passed env).toAbsorbs).trans (counted.absorbed (absorbs_passed env))
    obtain ⟨segment, path, store, hw, trace, silent⟩ := callbacks
    have mem := member q attached
    have same : r = q := by
      rw [path.rxFifo, World.afterData_uart, attached] at attached'
      cases attached'
      rfl
    subst same
    have separate₂ := store.separate separate
    have free : (w₂.store.fifo r).isFull = false := by rwa [store.fifo r mem]
    have becomes := Store.push_room separate₂ mem free (w.rxByte env)
    have contents : w₂.store.contents r = w.store.contents r := store.contents separate mem
    rw [contents] at becomes
    refine .queued ready attached room ?_ ?_ ?_ ?_ silent
    · exact (SameQueues.of_uart (w.afterData_uart env)).trans (path.trans (.of_uart (w₂.afterPush_uart _ _)))
    · rw [World.afterPush_store]
      exact (store.becomes separate mem).trans becomes
    · rw [World.afterPush_hw]
      exact hw
    · rw [w₂.afterPush_room free, trace, List.append_assoc]

theorem TxOutcome.effect {tx : Bool} (separate : Store.Separate queues w.store)
    (member : ∀ q, w.uart.txFifo = some q → q ∈ queues) (outcome : TxOutcome env (Harmless queues) w tx w') :
    TxEffect env queues w w' := by
  have hw (q : FifoRef) : Quiet env.device w.hw (w.afterSend env q).hw :=
    ((Quiet.read env.device (by decide) w.hw).trans (Quiet.read env.device (by decide) _)).trans
      (Quiet.write env.device _ _ _)
  cases outcome with
  | disabled off =>
    refine .idle (Or.inl fun ready => ?_) (passed_afterRead (by decide) w)
    simp [ready.1] at off
  | busy on clear =>
    refine .idle (Or.inl fun ready => ?_) ((absorbs_passed env).afterStatus w)
    simp [ready.2] at clear
  | detached ready absent =>
    refine .idle (Or.inr fun q attached => ?_) ((absorbs_passed env).afterStatus w)
    simp [absent] at attached
  | idle ready attached empty =>
    refine .idle (Or.inr fun q same => ?_) ((absorbs_passed env).afterStatus w)
    rw [attached] at same
    cases same
    exact (Store.isEmpty_iff separate (member _ attached)).1 empty
  | sent ready attached held more =>
    rename_i q
    obtain ⟨rest, front, becomes, empties⟩ := w.afterSend_held env separate (member q attached) held
    refine .sent ready attached front ⟨rfl, rfl⟩ becomes (hw q) (w.afterSend_trace env q) (Or.inl ⟨fun none => ?_, rfl⟩)
    exact ne_true_of_eq_false more (empties.2 none)
  | drained ready attached held last callback =>
    rename_i q
    obtain ⟨rest, front, becomes, empties⟩ := w.afterSend_held env separate (member q attached) held
    have ended : w'.trace = w.trace ++ ([.read .control (w.value env .control), .read .status (w.handlerStatus env),
        .write .data ((w.store.pull q 0).2.1.setWidth 32)] ++
          [.called .txEnd w.uart.txHandler.callback w.uart.txHandler.arg w.uart (w.afterSend env q).store]) := by
      rw [callback.trace, World.calling_trace, w.afterSend_trace env q, List.append_assoc]
      rfl
    refine .sent ready attached front ?_ ?_ ?_ ended (Or.inr ⟨empties.1 last, _, _, rfl⟩)
    · exact .of_uart callback.uart
    · have kept := becomes.trans (callback.store.becomes becomes.separate (member q attached))
      rwa [World.calling_store, becomes.here] at kept
    · rw [callback.hw]
      exact hw q

end

end Leon3Bsp.Uart
