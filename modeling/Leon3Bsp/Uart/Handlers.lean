import Leon3Bsp.Uart.Driver

/-!
# What an interrupt does

One outcome for each way through a handler, with the conditions that lead there
and the world it leaves. A callback is known by the relation `E` between the
worlds around it, so the outcomes hold for any functions of the caller. Results
about interrupts argue from the outcomes and never unfold a handler.
-/

namespace Leon3Bsp.Uart
set_option autoImplicit false
open Wp

variable {σ : Type}

namespace World

variable (w : World σ) (env : Env σ)

/-- The worlds in which `Uart_handleRx` and `Uart_handleTx` have read the
control register, and the status register too. -/
abbrev afterControl : World σ :=
  w.afterRead env .control

abbrev afterStatus : World σ :=
  (w.afterControl env).afterRead env .status

/-- The status word `Uart_handleRx` and `Uart_handleTx` test. -/
abbrev handlerStatus : Word :=
  (w.afterControl env).value env .status

/-- `Uart_handleRx` finds a byte. -/
def RxReady : Prop :=
  getFlag (w.value env .control) Control.RE = true ∧ getFlag (w.handlerStatus env) Status.DR = true

/-- `Uart_handleTx` finds room for a byte. -/
def TxReady : Prop :=
  getFlag (w.value env .control) Control.TE = true ∧ getFlag (w.handlerStatus env) Status.TS = true

/-- The byte `Uart_handleRx` takes. -/
def rxByte : Byte :=
  ((w.afterStatus env).value env .data).setWidth 8

/-- The world in which `Uart_handleRx` has taken its byte. -/
def afterData : World σ :=
  (w.afterStatus env).afterRead env .data

/-- What is observed while `Uart_handleRx` takes its byte. -/
def rxReads : List Event :=
  [.read .control (w.value env .control), .read .status (w.handlerStatus env),
    .read .data ((w.afterStatus env).value env .data)]

/-- The error flags are assigned. -/
def withErrorFlags (errorFlags : ErrorFlags) : World σ :=
  w.withUart { w.uart with errorFlags }

def withSentBytes (n : Word) : World σ :=
  w.withUart { w.uart with interruptData := { w.uart.interruptData with sentBytes := n } }

/-- The error flags as `Uart_handleError` reads them. -/
def linkErrors : ErrorFlags :=
  (getLinkErrors (w.value env .status)).2

@[simp] theorem afterData_uart : (w.afterData env).uart = w.uart := rfl
@[simp] theorem afterData_store : (w.afterData env).store = w.store := rfl
@[simp] theorem afterData_hw : (w.afterData env).hw = (env.device.read .data (w.afterStatus env).hw).2 := rfl
@[simp] theorem afterData_trace : (w.afterData env).trace = w.trace ++ w.rxReads env := by
  simp [afterData, afterStatus, afterControl, handlerStatus, rxReads]

@[simp] theorem withErrorFlags_store (flags : ErrorFlags) : (w.withErrorFlags flags).store = w.store := rfl
@[simp] theorem withErrorFlags_trace (flags : ErrorFlags) : (w.withErrorFlags flags).trace = w.trace := rfl
@[simp] theorem withErrorFlags_hw (flags : ErrorFlags) : (w.withErrorFlags flags).hw = w.hw := rfl
@[simp] theorem withErrorFlags_uart (flags : ErrorFlags) :
    (w.withErrorFlags flags).uart = { w.uart with errorFlags := flags } := rfl
@[simp] theorem withSentBytes_store (n : Word) : (w.withSentBytes n).store = w.store := rfl
@[simp] theorem withSentBytes_trace (n : Word) : (w.withSentBytes n).trace = w.trace := rfl
@[simp] theorem withSentBytes_hw (n : Word) : (w.withSentBytes n).hw = w.hw := rfl
@[simp] theorem withSentBytes_uart (n : Word) : (w.withSentBytes n).uart =
    { w.uart with interruptData := { w.uart.interruptData with sentBytes := n } } := rfl

end World

section Outcomes

variable (env : Env σ) (E : World σ → World σ → Prop)

inductive ErrorOutcome (w : World σ) : Bool → World σ → Prop
  | quiet (clear : (getLinkErrors (w.value env .status)).1 = false) :
      ErrorOutcome w false ((w.afterRead env .status).withErrorFlags (w.linkErrors env))
  | reported {w' : World σ} (found : (getLinkErrors (w.value env .status)).1 = true)
      (callback : E (((w.afterRead env .status).withErrorFlags (w.linkErrors env)).calling .error
        w.uart.errorHandler.callback w.uart.errorHandler.arg) w') : ErrorOutcome w true w'

/-- The character callback of `Uart_handleRx`. -/
inductive Matched (buf : Byte) (w : World σ) : World σ → Prop
  | skipped (other : buf ≠ w.uart.rxHandler.targetCharacter) : Matched buf w w
  | called {w' : World σ} (target : buf = w.uart.rxHandler.targetCharacter)
      (callback : E (w.calling .rxCharacter w.uart.rxHandler.characterCallback w.uart.rxHandler.characterArg) w') :
      Matched buf w w'

/-- The count and the length callback of `Uart_handleRx`. -/
inductive Counted (w : World σ) : World σ → Prop
  | skipped (short : w.uart.interruptData.sentBytes + 1 ≠ w.uart.rxHandler.targetLength) :
      Counted w (w.withSentBytes (w.uart.interruptData.sentBytes + 1))
  | called {w' : World σ} (reached : w.uart.interruptData.sentBytes + 1 = w.uart.rxHandler.targetLength)
      (callback : E ((w.withSentBytes 0).calling .rxLength w.uart.rxHandler.lengthCallback w.uart.rxHandler.lengthArg)
        w') : Counted w w'

inductive RxOutcome (w : World σ) : Bool → World σ → Prop
  | disabled (off : getFlag (w.value env .control) Control.RE = false) : RxOutcome w false (w.afterControl env)
  | nothing (on : getFlag (w.value env .control) Control.RE = true)
      (clear : getFlag (w.handlerStatus env) Status.DR = false) : RxOutcome w false (w.afterStatus env)
  | detached (ready : w.RxReady env) (absent : w.uart.rxFifo = none) : RxOutcome w true (w.afterStatus env)
  | dropped {q : FifoRef} (ready : w.RxReady env) (attached : w.uart.rxFifo = some q)
      (full : (w.store.fifo q).isFull = true) :
      RxOutcome w true ((w.afterData env).withErrorFlags { w.uart.errorFlags with hasRxFifoFullErrorOccurred := true })
  | accepted {q r : FifoRef} {w₁ w₂ : World σ} (ready : w.RxReady env) (attached : w.uart.rxFifo = some q)
      (room : (w.store.fifo q).isFull = false) (matched : Matched E (w.rxByte env) (w.afterData env) w₁)
      (counted : Counted E w₁ w₂) (attached' : w₂.uart.rxFifo = some r) :
      RxOutcome w true (w₂.afterPush r (w.rxByte env))

/-- The world in which `Uart_handleTx` has sent the oldest byte of `q`. -/
def World.afterSend (w : World σ) (q : FifoRef) : World σ :=
  ((w.afterStatus env).withStore (w.store.pull q 0).2.2).afterWrite env .data ((w.store.pull q 0).2.1.setWidth 32)

inductive TxOutcome (w : World σ) : Bool → World σ → Prop
  | disabled (off : getFlag (w.value env .control) Control.TE = false) : TxOutcome w false (w.afterControl env)
  | busy (on : getFlag (w.value env .control) Control.TE = true)
      (clear : getFlag (w.handlerStatus env) Status.TS = false) : TxOutcome w false (w.afterStatus env)
  | detached (ready : w.TxReady env) (absent : w.uart.txFifo = none) : TxOutcome w true (w.afterStatus env)
  | idle {q : FifoRef} (ready : w.TxReady env) (attached : w.uart.txFifo = some q)
      (empty : (w.store.fifo q).isEmpty = true) : TxOutcome w true (w.afterStatus env)
  | sent {q : FifoRef} (ready : w.TxReady env) (attached : w.uart.txFifo = some q)
      (held : (w.store.fifo q).isEmpty = false) (more : ((w.afterSend env q).store.fifo q).isEmpty = false) :
      TxOutcome w true (w.afterSend env q)
  | drained {q : FifoRef} {w' : World σ} (ready : w.TxReady env) (attached : w.uart.txFifo = some q)
      (held : (w.store.fifo q).isEmpty = false) (last : ((w.afterSend env q).store.fifo q).isEmpty = true)
      (callback : E ((w.afterSend env q).calling .txEnd w.uart.txHandler.callback w.uart.txHandler.arg) w') :
      TxOutcome w true w'

inductive InterruptOutcome (w : World σ) : World σ → Prop
  | served {w₁ w₂ w₃ : World σ} {error rx tx : Bool} (errorOutcome : ErrorOutcome env E w error w₁)
      (rxOutcome : RxOutcome env E w₁ rx w₂) (txOutcome : TxOutcome env E w₂ tx w₃) : InterruptOutcome w w₃

end Outcomes

theorem World.afterSend_trace (env : Env σ) (w : World σ) (q : FifoRef) : (w.afterSend env q).trace = w.trace ++
    [.read .control (w.value env .control), .read .status (w.handlerStatus env),
      .write .data ((w.store.pull q 0).2.1.setWidth 32)] := by
  simp [afterSend]

/-- The oldest byte of a queue is sent; the queue is empty if it was the last. -/
theorem World.afterSend_held (env : Env σ) (w : World σ) {queues : Set FifoRef} {q : FifoRef}
    (separate : Store.Separate queues w.store) (member : q ∈ queues) (held : (w.store.fifo q).isEmpty = false) :
    ∃ rest, w.store.contents q = (w.store.pull q 0).2.1 :: rest ∧
      Store.Becomes queues w.store (w.afterSend env q).store q rest ∧
      (((w.afterSend env q).store.fifo q).isEmpty = true ↔ rest = []) := by
  obtain ⟨rest, front, becomes⟩ := Store.pull_held separate member held 0
  refine ⟨rest, front, becomes, ?_⟩
  have last := Store.isEmpty_iff becomes.separate member
  rwa [becomes.here] at last

/-- `R` relates worlds between which a handler does nothing but look at the
device, set flags and call a function of the caller that keeps to `E`. -/
structure Absorbs (env : Env σ) (E R : World σ → World σ → Prop) : Prop where
  refl : ∀ w, R w w
  trans : ∀ {w w' w''}, R w w' → R w' w'' → R w w''
  afterRead : ∀ {r}, r ≠ .data → ∀ w, R w (w.afterRead env r)
  withErrorFlags : ∀ flags w, R w (w.withErrorFlags flags)
  called : ∀ {hook callback arg w w'}, hook = .error ∨ hook = .rxCharacter → E (w.calling hook callback arg) w' → R w w'

section Absorbs

variable {env : Env σ} {E R : World σ → World σ → Prop} {w w' : World σ}

theorem Absorbs.afterControl (absorbs : Absorbs env E R) (w : World σ) : R w (w.afterControl env) :=
  absorbs.afterRead (by decide) w

theorem Absorbs.afterStatus (absorbs : Absorbs env E R) (w : World σ) : R w (w.afterStatus env) :=
  absorbs.trans (absorbs.afterControl w) (absorbs.afterRead (by decide) _)

theorem ErrorOutcome.absorbed {error : Bool} (outcome : ErrorOutcome env E w error w') (absorbs : Absorbs env E R) :
    R w w' := by
  have flags : R w ((w.afterRead env .status).withErrorFlags (w.linkErrors env)) :=
    absorbs.trans (absorbs.afterRead (by decide) w) (absorbs.withErrorFlags _ _)
  cases outcome with
  | quiet clear => exact flags
  | reported found callback => exact absorbs.trans flags (absorbs.called (Or.inl rfl) callback)

theorem Matched.absorbed {buf : Byte} (matched : Matched E buf w w') (absorbs : Absorbs env E R) : R w w' := by
  cases matched with
  | skipped other => exact absorbs.refl w
  | called target callback => exact absorbs.called (Or.inr rfl) callback

/-- Where the count of the bytes does not matter either. -/
structure AbsorbsCount (env : Env σ) (E R : World σ → World σ → Prop) : Prop extends Absorbs env E R where
  withSentBytes : ∀ n w, R w (w.withSentBytes n)
  lengthCalled : ∀ {callback arg w w'}, E (w.calling .rxLength callback arg) w' → R w w'

theorem Counted.absorbed (counted : Counted E w w') (absorbs : AbsorbsCount env E R) : R w w' := by
  cases counted with
  | skipped short => exact absorbs.withSentBytes _ w
  | called reached callback => exact absorbs.trans (absorbs.withSentBytes 0 w) (absorbs.lengthCalled callback)

/-- All that `Uart_handleRx` does but the push, where its byte does not matter. -/
theorem RxOutcome.absorbed {rx : Bool} (outcome : RxOutcome env E w rx w') (absorbs : AbsorbsCount env E R)
    (afterData : ∀ w, R w (w.afterRead env .data)) :
    R w w' ∨ ∃ w₁ r byte, R w w₁ ∧ w₁.uart.rxFifo = some r ∧ w' = w₁.afterPush r byte := by
  have data : R w (w.afterData env) := absorbs.trans (absorbs.afterStatus w) (afterData _)
  cases outcome with
  | disabled off => exact Or.inl (absorbs.afterControl w)
  | nothing on clear => exact Or.inl (absorbs.afterStatus w)
  | detached ready absent => exact Or.inl (absorbs.afterStatus w)
  | dropped ready attached full => exact Or.inl (absorbs.trans data (absorbs.withErrorFlags _ _))
  | accepted ready attached room matched counted attached' =>
    have before := absorbs.trans (absorbs.trans data (matched.absorbed absorbs.toAbsorbs)) (counted.absorbed absorbs)
    exact Or.inr ⟨_, _, _, before, attached', rfl⟩

/-- `Uart_handleTx` sends the oldest byte of `q`, and calls the handler if `q`
is empty then. -/
structure SendsByte (env : Env σ) (E : World σ → World σ → Prop) (q : FifoRef) (w w' : World σ) : Prop where
  ready : w.TxReady env
  attached : w.uart.txFifo = some q
  held : (w.store.fifo q).isEmpty = false
  ended : ((w.afterSend env q).store.fifo q).isEmpty = false ∧ w' = w.afterSend env q ∨
    ((w.afterSend env q).store.fifo q).isEmpty = true ∧
      E ((w.afterSend env q).calling .txEnd w.uart.txHandler.callback w.uart.txHandler.arg) w'

theorem TxOutcome.absorbed {tx : Bool} (outcome : TxOutcome env E w tx w') (absorbs : Absorbs env E R) :
    R w w' ∨ ∃ q, SendsByte env E q w w' := by
  cases outcome with
  | disabled off => exact Or.inl (absorbs.afterControl w)
  | busy on clear => exact Or.inl (absorbs.afterStatus w)
  | detached ready absent => exact Or.inl (absorbs.afterStatus w)
  | idle ready attached empty => exact Or.inl (absorbs.afterStatus w)
  | sent ready attached held more => exact Or.inr ⟨_, ready, attached, held, Or.inl ⟨more, rfl⟩⟩
  | drained ready attached held last callback => exact Or.inr ⟨_, ready, attached, held, Or.inr ⟨last, callback⟩⟩

end Absorbs

section Rules

variable {env : Env σ} {E : World σ → World σ → Prop} {may : Fault → Prop} {w : World σ}

@[simp] theorem wp_setErrorFlags (flags : ErrorFlags) (Q : Unit → World σ → Prop) :
    wp may (setErrorFlags flags) Q w ↔ Q () (w.withErrorFlags flags) := Iff.rfl

@[simp] theorem wp_setSentBytes (n : Word) (Q : Unit → World σ → Prop) :
    wp may (setSentBytes n) Q w ↔ Q () (w.withSentBytes n) := Iff.rfl

theorem wp_handleError (callbacks : Callbacks may env E) : wp may (handleError env) (ErrorOutcome env E w) w := by
  unfold handleError
  simp only [wp_bind, wp_readRegister, wp_setErrorFlags, wp_ite, wp_descriptor, wp_pure]
  split
  case isTrue found =>
    apply wp_invoke callbacks
    intro w' callback
    exact .reported found callback
  case isFalse clear => exact .quiet (by simpa using clear)

theorem wp_matchCharacter (callbacks : Callbacks may env E) (buf : Byte) :
    wp may (matchCharacter env buf) (fun _ => Matched E buf w) w := by
  unfold matchCharacter
  simp only [wp_bind, wp_descriptor, wp_ite, wp_pure]
  split
  case isTrue target =>
    apply wp_invoke callbacks
    intro w' callback
    exact .called target callback
  case isFalse other => exact .skipped other

theorem wp_countByte (callbacks : Callbacks may env E) : wp may (countByte env) (fun _ => Counted E w) w := by
  unfold countByte
  simp only [wp_bind, wp_descriptor, wp_setSentBytes, wp_ite, wp_pure]
  split
  case isTrue reached =>
    apply wp_invoke callbacks
    intro w' callback
    exact .called reached callback
  case isFalse short => exact .skipped short

/-- A callback that detaches the reception queue leads to a fault. -/
def Detaching (may : Fault → Prop) (E : World σ → World σ → Prop) : Prop :=
  ∀ w w', E w w' → w.uart.rxFifo ≠ none → w'.uart.rxFifo = none → may .nullDereference

theorem Matched.detaching {buf : Byte} {w' : World σ} (matched : Matched E buf w w') (detaching : Detaching may E)
    (attached : w.uart.rxFifo ≠ none) (absent : w'.uart.rxFifo = none) : may .nullDereference := by
  cases matched with
  | skipped other => exact absurd absent attached
  | called target callback => exact detaching _ _ callback attached absent

theorem Counted.detaching {w' : World σ} (counted : Counted E w w') (detaching : Detaching may E)
    (attached : w.uart.rxFifo ≠ none) (absent : w'.uart.rxFifo = none) : may .nullDereference := by
  cases counted with
  | skipped short => exact absurd absent attached
  | called reached callback => exact detaching _ _ callback attached absent

theorem wp_handleRx (callbacks : Callbacks may env E) (detaching : Detaching may E) :
    wp may (handleRx env) (RxOutcome env E w) w := by
  unfold handleRx
  simp only [wp_bind, wp_readRegister, wp_ite, wp_pure]
  split
  case isFalse off => exact .disabled (by simpa using off)
  case isTrue on =>
    split
    case isFalse clear => exact .nothing on (by simpa using clear)
    case isTrue data =>
      have ready : w.RxReady env := ⟨on, data⟩
      unfold receiveByte
      rw [wp_bind, wp_descriptor]
      simp only [World.afterRead_uart]
      split
      case h_1 absent => exact .detached ready absent
      case h_2 q attached =>
        simp only [wp_bind, wp_readData, wp_fifoIsFull, wp_ite]
        split
        case isTrue full => exact .dropped ready attached full
        case isFalse room =>
          have free : (w.store.fifo q).isFull = false := by simpa using room
          have some : (w.afterData env).uart.rxFifo ≠ none := by simp [attached]
          unfold acceptByte
          simp only [wp_bind, wp_descriptor, wp_pure]
          apply wp_mono (wp_matchCharacter callbacks _)
          intro _ w₁ matched
          apply wp_mono (wp_countByte callbacks)
          intro _ w₂ counted
          cases attached' : w₂.uart.rxFifo with
          | none =>
            rw [wp_fifoPush_null]
            by_cases absent : w₁.uart.rxFifo = none
            · exact matched.detaching detaching some absent
            · exact counted.detaching detaching absent attached'
          | some r => exact .accepted ready attached free matched counted attached'

theorem wp_handleTx (callbacks : Callbacks may env E) : wp may (handleTx env) (TxOutcome env E w) w := by
  unfold handleTx
  simp only [wp_bind, wp_readRegister, wp_ite, wp_pure]
  split
  case isFalse off => exact .disabled (by simpa using off)
  case isTrue on =>
    split
    case isFalse clear => exact .busy on (by simpa using clear)
    case isTrue shift =>
      have ready : w.TxReady env := ⟨on, shift⟩
      unfold transmitByte
      rw [wp_bind, wp_descriptor]
      simp only [World.afterRead_uart]
      split
      case h_1 absent => exact .detached ready absent
      case h_2 q attached =>
        simp only [wp_bind, wp_fifoIsEmpty, wp_ite, wp_pure, wp_fifoPull, wp_writeData]
        split
        case isTrue empty => exact .idle ready attached empty
        case isFalse some =>
          have held : (w.store.fifo q).isEmpty = false := by simpa using some
          split
          case isTrue last =>
            apply wp_invoke callbacks
            intro w' callback
            exact .drained ready attached held last callback
          case isFalse more => exact .sent ready attached held (eq_false_of_ne_true more)

theorem wp_handleInterrupt (callbacks : Callbacks may env E) (detaching : Detaching may E) :
    wp may (handleInterrupt env) (fun _ => InterruptOutcome env E w) w := by
  unfold handleInterrupt
  simp only [wp_bind, wp_pure]
  apply wp_mono (wp_handleError callbacks)
  intro error w₁ errorOutcome
  apply wp_mono (wp_handleRx callbacks detaching)
  intro rx w₂ rxOutcome
  apply wp_mono (wp_handleTx callbacks)
  intro tx w₃ txOutcome
  exact .served errorOutcome rxOutcome txOutcome

end Rules

end Leon3Bsp.Uart
