import Mathlib.Logic.Relation
import Leon3Bsp.Uart.Trace

/-!
# A call as a path of primitives

Whatever is called, the driver does it in primitives: it looks at a register,
puts a value into one, sends a byte or takes one, assigns the descriptor, has
RTEMS serve a vector, moves a byte of a queue, or calls a function of the caller.
Each primitive says what it depends on, so a property of runs is one case for
each primitive, and no function of the driver is looked at again.
-/

namespace Leon3Bsp.Uart
set_option autoImplicit false
open Wp

variable {σ : Type}

/-- The function and the argument registered for a hook. -/
def handlerOf (uart : Uart) : Hook → Callback × Arg
  | .txEnd => (uart.txHandler.callback, uart.txHandler.arg)
  | .rxCharacter => (uart.rxHandler.characterCallback, uart.rxHandler.characterArg)
  | .rxLength => (uart.rxHandler.lengthCallback, uart.rxHandler.lengthArg)
  | .error => (uart.errorHandler.callback, uart.errorHandler.arg)

/-- What calls may name, put into and register for. -/
structure Scope where
  fifos : Set FifoRef
  ids : Set Id
  registers : Set Register
  hooks : Set Hook

/-- The call names nothing else. -/
def Call.Within (scope : Scope) : Call → Prop
  | .init id => id ∈ scope.ids ∧ (.control ∈ scope.registers ∧ .status ∈ scope.registers) ∧ ∀ hook, hook ∈ scope.hooks
  | .shutdown => .control ∈ scope.registers ∧ .status ∈ scope.registers
  | .setConfig _ => .control ∈ scope.registers ∧ .clkscl ∈ scope.registers
  | .writeAsync fifo _ => (∀ q, fifo = some q → q ∈ scope.fifos) ∧ .txEnd ∈ scope.hooks
  | .readAsync fifo _ => (∀ q, fifo = some q → q ∈ scope.fifos) ∧ .rxCharacter ∈ scope.hooks ∧ .rxLength ∈ scope.hooks
  | .registerErrorHandler _ => .error ∈ scope.hooks
  | .push fifo _ | .pull fifo _ => fifo ∈ scope.fifos
  | _ => True

/-- The calls from the interrupt, which alone call back. -/
def Call.Handles : Call → Prop
  | .handleError | .handleRx | .handleTx | .handleInterrupt => True
  | _ => False

/-- A descriptor may be assigned what calls may name. -/
structure Assigns (scope : Scope) (uart uart' : Uart) : Prop where
  id : uart'.id = uart.id ∨ uart'.id ∈ scope.ids
  txFifo : ∀ q, uart'.txFifo = some q → uart.txFifo = some q ∨ q ∈ scope.fifos
  rxFifo : ∀ q, uart'.rxFifo = some q → uart.rxFifo = some q ∨ q ∈ scope.fifos

/-- Another vector is left alone. -/
def OnlyVector (vector : Nat) (rtems rtems' : Rtems) : Prop :=
  ∀ other, other ≠ vector → rtems'.vector other = rtems.vector other

/-- The handlers of the hooks that calls may register for may change. -/
def Registers (scope : Scope) (uart uart' : Uart) : Prop :=
  ∀ hook, handlerOf uart' hook = handlerOf uart hook ∨ hook ∈ scope.hooks

/-- A primitive of the driver; a function of the caller is one too. -/
inductive Primitive (env : Env σ) (E : World σ → World σ → Prop) (scope : Scope) : World σ → World σ → Prop
  | look {r : Register} (other : r ≠ .data) (w : World σ) : Primitive env E scope w (w.afterRead env r)
  | put {r : Register} (other : r ≠ .data) (own : r ∈ scope.registers) (value : Word) (w : World σ) :
      Primitive env E scope w (w.afterWrite env r value)
  /-- Between the look and the write a byte may be pulled. -/
  | send {w : World σ} {store : Store} (ready : getFlag (w.value env .status) Status.TS = true)
      (fetched : store = w.store ∨ ∃ q data, w.uart.txFifo = some q ∧ store = (w.store.pull q data).2.2) (byte : Byte) :
      Primitive env E scope w (((w.afterRead env .status).withStore store).afterWrite env .data (byte.setWidth 32))
  | take {w : World σ} (ready : getFlag (w.value env .status) Status.DR = true) :
      Primitive env E scope w ((w.afterRead env .status).afterRead env .data)
  | assign {uart : Uart} {w : World σ} (assigns : Assigns scope w.uart uart) (registers : Registers scope w.uart uart) :
      Primitive env E scope w (w.withUart uart)
  | service {rtems : Rtems} {w : World σ} (own : OnlyVector (interruptNumber w.uart.id) w.rtems rtems) :
      Primitive env E scope w { w with rtems }
  | push {fifo : FifoRef} {w : World σ} (member : w.uart.rxFifo = some fifo ∨ fifo ∈ scope.fifos) (data : Byte) :
      Primitive env E scope w (w.afterPush fifo data)
  | pull {fifo : FifoRef} (member : fifo ∈ scope.fifos) (data : Byte) (w : World σ) :
      Primitive env E scope w (w.afterPull fifo data)
  /-- The function that is registered is called. -/
  | call {hook : Hook} {callback : Callback} {arg : Arg} {w w' : World σ} (registered : handlerOf w.uart hook = (callback, arg))
      (returned : E (w.calling hook callback arg) w') : Primitive env E scope w w'

/-- Primitives, one after the other. -/
abbrev Driven (env : Env σ) (E : World σ → World σ → Prop) (scope : Scope) : World σ → World σ → Prop :=
  Relation.ReflTransGen (Primitive env E scope)

section Driven

variable {env : Env σ} {E : World σ → World σ → Prop} {scope : Scope} {w w' : World σ}

theorem Primitive.driven (primitive : Primitive env E scope w w') : Driven env E scope w w' :=
  .single primitive

/-- Programs in sequence. -/
theorem driven_bind {α β : Type} {m : Driver σ α} {n : α → Driver σ β} (first : Relates partially (Driven env E scope) m)
    (second : ∀ a, Relates partially (Driven env E scope) (n a)) : Relates partially (Driven env E scope) (m >>= n) :=
  Relates.bind first .trans second

theorem driven_pure {α : Type} (a : α) : Relates partially (Driven env E scope) (pure a : Driver σ α) :=
  fun _ => .refl

theorem driven_descriptor : Relates partially (Driven env E scope) (descriptor : Driver σ Uart) :=
  fun _ => .refl

theorem driven_readRegister {r : Register} (other : r ≠ .data) : Relates partially (Driven env E scope) (readRegister env r) :=
  fun w => (Primitive.look other w).driven

theorem driven_writeRegister {r : Register} (other : r ≠ .data) (own : r ∈ scope.registers) (value : Word) :
    Relates partially (Driven env E scope) (writeRegister env r value) :=
  fun w => (Primitive.put other own value w).driven

theorem driven_modifyDescriptor {f : Uart → Uart} (assigns : ∀ uart, Assigns scope uart (f uart))
    (registers : ∀ uart, Registers scope uart (f uart)) :
    Relates partially (Driven env E scope) (modifyDescriptor f : Driver σ Unit) :=
  fun w => (Primitive.assign (assigns w.uart) (registers w.uart)).driven

/-- Fields that name nothing. -/
theorem Assigns.of_same {uart uart' : Uart} (id : uart'.id = uart.id) (txFifo : uart'.txFifo = uart.txFifo)
    (rxFifo : uart'.rxFifo = uart.rxFifo) : Assigns scope uart uart' :=
  ⟨Or.inl id, fun _ attached => Or.inl (txFifo ▸ attached), fun _ attached => Or.inl (rxFifo ▸ attached)⟩

theorem driven_setSentBytes (n : Word) : Relates partially (Driven env E scope) (setSentBytes n : Driver σ Unit) := by
  refine driven_modifyDescriptor (fun _ => .of_same rfl rfl rfl) fun _ hook => Or.inl ?_
  cases hook <;> rfl

theorem driven_setErrorFlags (flags : ErrorFlags) : Relates partially (Driven env E scope) (setErrorFlags flags : Driver σ Unit) := by
  refine driven_modifyDescriptor (fun _ => .of_same rfl rfl rfl) fun _ hook => Or.inl ?_
  cases hook <;> rfl

/-- A service for the vector of the descriptor. -/
theorem driven_serves {act : Rtems.Vector → Rtems.Vector} (service : Rtems → Rtems) {w : World σ}
    (serves : Rtems.Serves (interruptNumber w.uart.id) act service) :
    Driven env E scope w { w with rtems := service w.rtems } :=
  (Primitive.service fun other apart => (serves w.rtems other).trans (if_neg apart)).driven

theorem driven_entryInstall : Relates partially (Driven env E scope) (entryInstall : Driver σ Unit) :=
  fun _ => driven_serves (Rtems.entryInstall · _ _) (Rtems.serves_entryInstall _ _)

theorem driven_entryRemove : Relates partially (Driven env E scope) (entryRemove : Driver σ Unit) :=
  fun _ => driven_serves (Rtems.entryRemove · _ _) (Rtems.serves_entryRemove _ _)

theorem driven_interruptClear : Relates partially (Driven env E scope) (interruptClear : Driver σ Unit) :=
  fun _ => driven_serves (Rtems.interruptClear · _) (Rtems.serves_interruptClear _)

theorem driven_masked (enabled : Bool) (w : World σ) : Driven env E scope w (w.masked enabled) := by
  cases enabled with
  | true => exact driven_serves (Rtems.vectorEnable · _) (Rtems.serves_vectorEnable _)
  | false => exact driven_serves (Rtems.vectorDisable · _) (Rtems.serves_vectorDisable _)

theorem driven_setFlag (control : .control ∈ scope.registers) (isSet : Bool) (flag : Nat) :
    Relates partially (Driven env E scope) (setFlag env isSet flag) :=
  driven_bind (driven_readRegister (by decide)) fun _ => driven_writeRegister (by decide) control _

theorem driven_setBaudRate (clkscl : .clkscl ∈ scope.registers) (baud : BaudRate) :
    Relates partially (Driven env E scope) (setBaudRate env baud) := by
  rw [setBaudRate_eq]
  apply Relates.ite
  · exact driven_pure false
  · exact driven_bind (driven_writeRegister (by decide) clkscl _) fun _ => driven_pure true

theorem driven_setConfig (control : .control ∈ scope.registers) (clkscl : .clkscl ∈ scope.registers) (config : Config) :
    Relates partially (Driven env E scope) (setConfig env config) := by
  have setFlag (isSet : Bool) (flag : Nat) : Relates partially (Driven env E scope) (setFlag env isSet flag) :=
    driven_setFlag control isSet flag
  unfold setConfig setParity
  refine driven_bind (setFlag _ _) fun _ => driven_bind (setFlag _ _) fun _ => driven_bind (setFlag _ _) fun _ =>
    driven_bind (setFlag _ _) fun _ => driven_bind (setFlag _ _) fun _ => driven_bind (setFlag _ _) fun _ =>
    driven_bind (setFlag _ _) fun _ => driven_bind (driven_setBaudRate clkscl _) fun _ => ?_
  apply Relates.ite
  · exact driven_bind (setFlag _ _) fun _ => setFlag _ _
  · exact driven_pure ()

theorem driven_getConfig : Relates partially (Driven env E scope) (getConfig env) := by
  have control : Relates partially (Driven env E scope) (readRegister env .control) := driven_readRegister (by decide)
  have clkscl : Relates partially (Driven env E scope) (readRegister env .clkscl) := driven_readRegister (by decide)
  unfold getConfig getParity
  rw [getBaudRate_eq]
  refine driven_bind control fun _ => driven_bind control fun _ => driven_bind control fun _ => driven_bind ?parity fun _ =>
    driven_bind ?baudRate fun _ => driven_pure _
  case parity => exact driven_bind control fun _ => .ite (driven_bind control fun _ => driven_pure _) (driven_pure _)
  case baudRate => exact driven_bind clkscl fun _ => driven_pure _

theorem driven_startup : Relates partially (Driven env E scope) (startup : Driver σ Unit) :=
  driven_bind (driven_setSentBytes 0) fun _ => driven_bind (driven_setErrorFlags .zero) fun _ =>
    driven_bind driven_entryInstall fun _ => driven_masked true

theorem driven_shutdown (control : .control ∈ scope.registers) (status : .status ∈ scope.registers) :
    Relates partially (Driven env E scope) (shutdown env) :=
  driven_bind (driven_masked false) fun _ => driven_bind driven_entryRemove fun _ =>
    driven_bind (driven_writeRegister (by decide) control _) fun _ =>
    driven_bind (driven_writeRegister (by decide) status _) fun _ => driven_bind (driven_setSentBytes 0) fun _ => driven_setErrorFlags .zero

/-- Each turn of the loop of `Uart_write` looks before it sends. -/
theorem driven_writePoll (data : Byte) (limit : Word) (budget : Nat) (timeout : Word) :
    Relates partially (Driven env E scope) (writePoll env data limit budget timeout) := by
  induction budget generalizing timeout with
  | zero => exact relates_fault trivial
  | succ budget ih =>
    intro w
    unfold writePoll
    simp only [wp_ite, wp_bind, wp_readRegister, wp_writeData, wp_vectorEnable, wp_pure]
    split
    · split
      case isTrue ready => exact (Primitive.send ready (Or.inl rfl) data).driven.trans (driven_masked true _)
      case isFalse clear =>
        apply wp_mono (ih _ _)
        intro _ w' later
        exact (Primitive.look (by decide) w).driven.trans later
    · exact .refl

theorem driven_readPoll (data : Byte) (limit : Word) (errCode : ErrorCode) (budget : Nat) (timeout : Word) :
    Relates partially (Driven env E scope) (readPoll env (pure ()) data limit errCode budget timeout) := by
  induction budget generalizing timeout with
  | zero => exact relates_fault trivial
  | succ budget ih =>
    intro w
    unfold readPoll
    simp only [wp_ite, wp_bind, wp_descriptor, wp_readRegister, wp_readData, wp_pure]
    split
    · exact .refl
    · split
      case isTrue ready => exact (Primitive.take ready).driven
      case isFalse clear =>
        have looks : Driven env E scope w (w.afterRead env .status) := (Primitive.look (by decide) w).driven
        split
        · apply wp_mono (ih _ _)
          intro _ w' later
          exact looks.trans later
        · exact looks

theorem driven_write (data : Byte) (limit : Word) (errCode : ErrorCode) :
    Relates partially (Driven env E scope) (write env data limit errCode) := by
  refine driven_bind (driven_masked false) fun _ => driven_bind driven_descriptor fun uart => ?_
  cases uart.txFifo with
  | none => exact driven_bind (driven_writePoll _ _ _ _) fun _ => driven_pure _
  | some q => exact driven_bind (driven_masked true) fun _ => driven_pure _

theorem driven_read (data : Byte) (limit : Word) (errCode : ErrorCode) :
    Relates partially (Driven env E scope) (read env data limit errCode) := by
  refine driven_bind (driven_masked false) fun _ => driven_bind driven_descriptor fun uart => ?_
  cases uart.rxFifo with
  | some q => exact driven_bind (driven_masked true) fun _ => driven_pure _
  | none =>
    refine driven_bind (driven_masked true) fun _ => driven_bind (driven_readPoll _ _ _ _ _) fun polled => ?_
    cases polled with
    | some returned => exact driven_pure returned
    | none => exact driven_bind (driven_masked true) fun _ => driven_pure _

/-- `Uart_writeAsync` pulls between the look and the write. -/
theorem driven_kick : Relates partially (Driven env E scope) (kick env) := by
  intro w
  unfold kick
  simp only [wp_bind, wp_readRegister, wp_ite, wp_descriptor, wp_pure]
  split
  case isTrue ready =>
    rw [World.afterRead_uart]
    cases attached : w.uart.txFifo with
    | none => trivial
    | some q =>
      rw [wp_fifoPull, wp_writeData]
      exact (Primitive.send ready (Or.inr ⟨q, 0, attached, rfl⟩) _).driven
  case isFalse clear => exact (Primitive.look (by decide) w).driven

theorem driven_query {α : Type} {result : Uart → Driver σ α} (queries : ∀ uart, Relates partially (Driven env E scope) (result uart)) :
    Relates partially (Driven env E scope) (query result) :=
  driven_bind (driven_masked false) fun _ => driven_bind driven_descriptor fun uart => driven_bind (queries uart) fun _ =>
    driven_bind (driven_masked true) fun _ => driven_pure _

theorem driven_fifoIsEmpty (pointer : Option FifoRef) : Relates partially (Driven env E scope) (fifoIsEmpty pointer : Driver σ Bool) := by
  cases pointer with
  | none => exact relates_fault trivial
  | some q => exact fun _ => .refl

theorem driven_fifoGetCount (pointer : Option FifoRef) :
    Relates partially (Driven env E scope) (fifoGetCount pointer : Driver σ Word) := by
  cases pointer with
  | none => exact relates_fault trivial
  | some q => exact fun _ => .refl

theorem driven_withErrorFlags (flags : ErrorFlags) (w : World σ) : Driven env E scope w (w.withErrorFlags flags) :=
  driven_setErrorFlags flags w

theorem driven_withSentBytes (n : Word) (w : World σ) : Driven env E scope w (w.withSentBytes n) :=
  driven_setSentBytes n w

theorem driven_afterControl (w : World σ) : Driven env E scope w (w.afterControl env) :=
  (Primitive.look (by decide) w).driven

theorem driven_afterStatus (w : World σ) : Driven env E scope w (w.afterStatus env) :=
  (driven_afterControl w).trans (Primitive.look (by decide) _).driven

theorem driven_afterData (ready : w.RxReady env) : Driven env E scope w (w.afterData env) :=
  (driven_afterControl w).trans (Primitive.take ready.2).driven

theorem driven_afterSend {q : FifoRef} (ready : w.TxReady env) (attached : w.uart.txFifo = some q) :
    Driven env E scope w (w.afterSend env q) :=
  (driven_afterControl w).trans (Primitive.send ready.2 (Or.inr ⟨q, 0, attached, rfl⟩) _).driven

theorem ErrorOutcome.driven {error : Bool} (outcome : ErrorOutcome env E w error w') : Driven env E scope w w' := by
  have flags : Driven env E scope w ((w.afterRead env .status).withErrorFlags (w.linkErrors env)) :=
    (Primitive.look (by decide) w).driven.trans (driven_withErrorFlags _ _)
  cases outcome with
  | quiet clear => exact flags
  | reported found returned => exact flags.trans (Primitive.call rfl returned).driven

theorem Matched.driven {buf : Byte} (matched : Matched E buf w w') : Driven env E scope w w' := by
  cases matched with
  | skipped other => exact .refl
  | called target returned => exact (Primitive.call rfl returned).driven

theorem Counted.driven (counted : Counted E w w') : Driven env E scope w w' := by
  cases counted with
  | skipped short => exact driven_withSentBytes _ w
  | called reached returned => exact (driven_withSentBytes 0 w).trans (Primitive.call rfl returned).driven

theorem RxOutcome.driven {rx : Bool} (outcome : RxOutcome env E w rx w') : Driven env E scope w w' := by
  cases outcome with
  | disabled off => exact driven_afterControl w
  | nothing on clear => exact driven_afterStatus w
  | detached ready absent => exact driven_afterStatus w
  | dropped ready attached full => exact (driven_afterData ready).trans (driven_withErrorFlags _ _)
  | accepted ready attached room matched counted attached' =>
    have callbacks : Driven env E scope w _ := ((driven_afterData ready).trans matched.driven).trans counted.driven
    exact callbacks.trans (Primitive.push (Or.inl attached') _).driven

theorem TxOutcome.driven {tx : Bool} (outcome : TxOutcome env E w tx w') : Driven env E scope w w' := by
  cases outcome with
  | disabled off => exact driven_afterControl w
  | busy on clear => exact driven_afterStatus w
  | detached ready absent => exact driven_afterStatus w
  | idle ready attached empty => exact driven_afterStatus w
  | sent ready attached held more => exact driven_afterSend ready attached
  | drained ready attached held last returned =>
    exact (driven_afterSend ready attached).trans (Primitive.call rfl returned).driven

theorem driven_handleRx (callbacks : Callbacks partially env E) : Relates partially (Driven env E scope) (handleRx env) :=
  fun _ => wp_mono (wp_handleRx callbacks fun _ _ _ _ _ => trivial) fun _ _ outcome => outcome.driven

theorem driven_handleTx (callbacks : Callbacks partially env E) : Relates partially (Driven env E scope) (handleTx env) :=
  fun _ => wp_mono (wp_handleTx callbacks) fun _ _ outcome => outcome.driven

theorem driven_handleError (callbacks : Callbacks partially env E) : Relates partially (Driven env E scope) (handleError env) :=
  fun _ => wp_mono (wp_handleError callbacks) fun _ _ outcome => outcome.driven

theorem driven_writeAsync {fifo : Option FifoRef} (member : ∀ q, fifo = some q → q ∈ scope.fifos) (own : .txEnd ∈ scope.hooks)
    (handler : TxHandler) : Relates partially (Driven env E scope) (writeAsync env fifo handler) := by
  refine driven_bind (driven_masked false) fun _ => driven_bind (driven_modifyDescriptor (fun _ => ?_) fun _ hook => ?_) fun _ =>
    driven_bind driven_kick fun _ => driven_masked true
  · exact ⟨Or.inl rfl, fun q attached => Or.inr (member q attached), fun _ => Or.inl⟩
  · cases hook with
    | txEnd => exact Or.inr own
    | _ => exact Or.inl rfl

theorem driven_readAsync {fifo : Option FifoRef} (member : ∀ q, fifo = some q → q ∈ scope.fifos)
    (character : .rxCharacter ∈ scope.hooks) (length : .rxLength ∈ scope.hooks) (handler : RxHandler) :
    Relates partially (Driven env E scope) (readAsync fifo handler : Driver σ Unit) := by
  refine driven_bind (driven_masked false) fun _ => driven_bind (driven_modifyDescriptor (fun _ => ?_) fun _ hook => ?_) fun _ =>
    driven_masked true
  · exact ⟨Or.inl rfl, fun _ => Or.inl, fun q attached => Or.inr (member q attached)⟩
  · cases hook with
    | rxCharacter => exact Or.inr character
    | rxLength => exact Or.inr length
    | _ => exact Or.inl rfl

theorem driven_registerErrorHandler (own : .error ∈ scope.hooks) (handler : ErrorHandler) :
    Relates partially (Driven env E scope) (registerErrorHandler handler : Driver σ Unit) := by
  refine driven_bind (driven_masked false) fun _ => driven_bind (driven_modifyDescriptor (fun _ => ?_) fun _ hook => ?_) fun _ =>
    driven_masked true
  · exact .of_same rfl rfl rfl
  · cases hook with
    | error => exact Or.inr own
    | _ => exact Or.inl rfl

theorem driven_init {id : Id} (own : id ∈ scope.ids) (control : .control ∈ scope.registers) (status : .status ∈ scope.registers)
    (hooks : ∀ hook, hook ∈ scope.hooks) : Relates partially (Driven env E scope) (init env id) := by
  refine driven_bind (driven_modifyDescriptor (fun _ => ⟨Or.inr own, fun _ attached => ?_, fun _ attached => ?_⟩)
    fun _ hook => Or.inr (hooks hook)) fun _ => driven_bind (driven_shutdown control status) fun _ => driven_interruptClear
  · cases attached
  · cases attached

/-- The answer of a call is what its function returned. -/
theorem driven_answers {α : Type} {m : Driver σ α} {answer : α → Answer} (driven : Relates partially (Driven env E scope) m) :
    Relates partially (Driven env E scope) (do let a ← m; pure (answer a)) :=
  driven_bind driven fun _ => driven_pure _

/-- A call of a task, in which nothing is called back. -/
theorem driven_task {call : Call} (within : call.Within scope) (task : ¬ call.Handles) (silent : ∀ byte, call ≠ .arrive byte) :
    Relates partially (Driven env E scope) (exec env call) := by
  cases call with
  | init id => exact driven_answers (driven_init within.1 within.2.1.1 within.2.1.2 within.2.2)
  | startup => exact driven_answers driven_startup
  | shutdown => exact driven_answers (driven_shutdown within.1 within.2)
  | setConfig config => exact driven_answers (driven_setConfig within.1 within.2 config)
  | getConfig => exact driven_answers driven_getConfig
  | write data limit errCode => exact driven_answers (driven_write data limit errCode)
  | read data limit errCode => exact driven_answers (driven_read data limit errCode)
  | writeAsync fifo handler => exact driven_answers (driven_writeAsync within.1 within.2 handler)
  | readAsync fifo handler => exact driven_answers (driven_readAsync within.1 within.2.1 within.2.2 handler)
  | isTxEmpty | isRxEmpty => exact driven_answers (driven_query fun _ => driven_fifoIsEmpty _)
  | getTxFifoCount | getRxFifoCount => exact driven_answers (driven_query fun _ => driven_fifoGetCount _)
  | registerErrorHandler handler => exact driven_answers (driven_registerErrorHandler within handler)
  | handleError | handleRx | handleTx | handleInterrupt => exact absurd trivial task
  | push fifo data => exact driven_answers fun w => (Primitive.push (Or.inr within) data).driven
  | pull fifo data => exact driven_answers fun w => (Primitive.pull within data w).driven
  | arrive byte => exact absurd rfl (silent byte)

/-- A call from the interrupt. -/
theorem driven_handler (callbacks : Callbacks partially env E) {call : Call} (handles : call.Handles) :
    Relates partially (Driven env E scope) (exec env call) := by
  cases call with
  | handleError => exact driven_answers (driven_handleError callbacks)
  | handleRx => exact driven_answers (driven_handleRx callbacks)
  | handleTx => exact driven_answers (driven_handleTx callbacks)
  | handleInterrupt =>
    exact driven_answers (driven_bind (driven_handleError callbacks) fun _ => driven_bind (driven_handleRx callbacks) fun _ =>
      driven_bind (driven_handleTx callbacks) fun _ => driven_pure ())
  | _ => exact handles.elim

/-- Every call is a path of primitives. -/
theorem driven_exec (callbacks : Callbacks partially env E) {call : Call} (within : call.Within scope)
    (silent : ∀ byte, call ≠ .arrive byte) : Relates partially (Driven env E scope) (exec env call) := by
  by_cases handles : call.Handles
  · exact driven_handler callbacks handles
  · exact driven_task within handles silent

end Driven

/-- Everything may be named. -/
def Scope.all : Scope :=
  ⟨Set.univ, Set.univ, Set.univ, Set.univ⟩

theorem Call.within_all (call : Call) : call.Within .all := by
  cases call with
  | push | pull | registerErrorHandler => exact Set.mem_univ _
  | setConfig | shutdown => exact ⟨Set.mem_univ _, Set.mem_univ _⟩
  | init => exact ⟨Set.mem_univ _, ⟨Set.mem_univ _, Set.mem_univ _⟩, Set.mem_univ⟩
  | writeAsync => exact ⟨fun _ _ => Set.mem_univ _, Set.mem_univ _⟩
  | readAsync => exact ⟨fun _ _ => Set.mem_univ _, Set.mem_univ _, Set.mem_univ _⟩
  | _ => trivial

end Leon3Bsp.Uart
