import Leon3Bsp.Lib.Interruption
import Leon3Bsp.Uart.Board
import Leon3Bsp.Uart.Frames

/-!
# Calls with interrupts between their steps

A call of a task is its accesses to the device, the descriptor and RTEMS, and
the interrupt may come before each of them while its vector is enabled. The nine
functions that mask the vector are given access by access here, and so are the
two that configure, which do not mask it. A queue operation inside one of the
nine is a step.

`Uart_init`, `Uart_startup`, `Uart_read` and the operations of a byte queue do
not mask the vector either; they are single steps here, and so is an interrupt.
-/

namespace Leon3Bsp.Uart
set_option autoImplicit false
open Wp Execution Interruption

variable {σ : Type}

section Steps

variable (env : Env σ)

/-- `Uart_setFlag`: the register is read, and then written. -/
def setFlagSteps (isSet : Bool) (flag : Nat) : Steps Fault (World σ) Unit := do
  let value ← .once (readRegister env .control)
  .once (writeRegister env .control (withFlag value isSet flag))

/-- `Uart_setConfig`. -/
def setConfigSteps (config : Config) : Steps Fault (World σ) Unit := do
  setFlagSteps env config.isRxEnabled Control.RE
  setFlagSteps env config.isRxEnabled Control.RI
  setFlagSteps env (!config.isRxEnabled) Control.RF
  setFlagSteps env config.isTxEnabled Control.TE
  setFlagSteps env config.isTxEnabled Control.TI
  setFlagSteps env (!config.isTxEnabled) Control.TF
  setFlagSteps env config.isLoopbackModeEnabled Control.LB
  let _ ← .once (setBaudRate env config.baudRate)
  if config.parity ≠ .none ∧ config.parity ≠ .invalid then do
    setFlagSteps env true Control.PE
    setFlagSteps env (config.parity = .odd) Control.PS
  else pure ()

/-- The parity as `Uart_getConfig` reads it. -/
def getParitySteps : Steps Fault (World σ) Parity := do
  let control ← .once (readRegister env .control)
  if getFlag control Control.PE then do
    let control ← .once (readRegister env .control)
    pure (if getFlag control Control.PS then .odd else .even)
  else pure .none

/-- `Uart_getConfig`. -/
def getConfigSteps : Steps Fault (World σ) Config := do
  let re ← .once (readRegister env .control)
  let te ← .once (readRegister env .control)
  let lb ← .once (readRegister env .control)
  let parity ← getParitySteps env
  let baudRate ← .once (getBaudRate env)
  pure
    { isRxEnabled := getFlag re Control.RE
      isTxEnabled := getFlag te Control.TE
      isLoopbackModeEnabled := getFlag lb Control.LB
      parity
      baudRate
      baudRateClkFreq := env.ticksPerSecond }

/-- The loop of `Uart_write`. -/
def writePollSteps (data : Byte) (timeoutLimit : Word) : Nat → Word → Steps Fault (World σ) Bool
  | 0, _ => .once (fault .outOfPatience)
  | patience + 1, timeout =>
    if timeoutLimit = 0 ∨ 0 < timeout then do
      let status ← .once (readRegister env .status)
      if getFlag status Status.TS then do
        .once (writeData env data)
        .once vectorEnable
        pure true
      else writePollSteps data timeoutLimit patience (decrement timeoutLimit timeout)
    else pure false

/-- `Uart_write`. -/
def writeSteps (data : Byte) (timeoutLimit : Word) (errCode : ErrorCode) : Steps Fault (World σ) (Bool × ErrorCode) := do
  .once vectorDisable
  let uart ← .once descriptor
  match uart.txFifo with
  | none => do
    let result ← writePollSteps env data timeoutLimit (pollBudget env timeoutLimit) timeoutLimit
    pure (result, errCode)
  | some _ => do
    .once vectorEnable
    pure (false, .txFifoNotNull)

/-- The first byte of `Uart_writeAsync`. -/
def kickSteps : Steps Fault (World σ) Unit := do
  let status ← .once (readRegister env .status)
  if getFlag status Status.TS then do
    let uart ← .once descriptor
    let pulled ← .once (fifoPull uart.txFifo 0)
    .once (writeData env pulled.2)
  else pure ()

/-- `Uart_writeAsync`. -/
def writeAsyncSteps (fifo : Option FifoRef) (handler : TxHandler) : Steps Fault (World σ) Unit := do
  .once vectorDisable
  .once (modifyDescriptor fun uart => { uart with txFifo := fifo })
  .once (modifyDescriptor fun uart => { uart with txHandler := handler })
  kickSteps env
  .once vectorEnable

/-- `Uart_readAsync`. -/
def readAsyncSteps (fifo : Option FifoRef) (handler : RxHandler) : Steps Fault (World σ) Unit := do
  .once vectorDisable
  .once (modifyDescriptor fun uart => { uart with rxFifo := fifo })
  .once (modifyDescriptor fun uart => { uart with rxHandler := handler })
  .once vectorEnable

/-- `Uart_isTxEmpty` and the other queries. -/
def querySteps {α : Type} (result : Uart → Driver σ α) : Steps Fault (World σ) α := do
  .once vectorDisable
  let uart ← .once descriptor
  let answer ← .once (result uart)
  .once vectorEnable
  pure answer

/-- `Uart_registerErrorHandler`. -/
def registerErrorHandlerSteps (handler : ErrorHandler) : Steps Fault (World σ) Unit := do
  .once vectorDisable
  .once (modifyDescriptor fun uart => { uart with errorHandler := handler })
  .once vectorEnable

/-- `Uart_shutdown`. -/
def shutdownSteps : Steps Fault (World σ) Unit := do
  .once vectorDisable
  .once entryRemove
  .once (writeRegister env .control 0)
  .once (writeRegister env .status 0)
  .once (setSentBytes 0)
  .once (setErrorFlags .zero)

/-- A call as its steps. -/
def steps : Call → Steps Fault (World σ) Answer
  | .shutdown => do shutdownSteps env; pure .done
  | .setConfig config => do setConfigSteps env config; pure .done
  | .getConfig => do let config ← getConfigSteps env; pure (.config config)
  | .write data timeoutLimit errCode => do let r ← writeSteps env data timeoutLimit errCode; pure (.written r.1 r.2)
  | .writeAsync fifo handler => do writeAsyncSteps env fifo handler; pure .done
  | .readAsync fifo handler => do readAsyncSteps fifo handler; pure .done
  | .isTxEmpty => do let result ← querySteps fun uart => fifoIsEmpty uart.txFifo; pure (.flag result)
  | .isRxEmpty => do let result ← querySteps fun uart => fifoIsEmpty uart.rxFifo; pure (.flag result)
  | .getTxFifoCount => do let result ← querySteps fun uart => fifoGetCount uart.txFifo; pure (.count result)
  | .getRxFifoCount => do let result ← querySteps fun uart => fifoGetCount uart.rxFifo; pure (.count result)
  | .registerErrorHandler handler => do registerErrorHandlerSteps handler; pure .done
  | call => .once (exec env call)

end Steps

section Atomic

variable (env : Env σ)

theorem setFlagSteps_atomic (isSet : Bool) (flag : Nat) : (setFlagSteps env isSet flag).atomic = setFlag env isSet flag := by
  simp [setFlagSteps, setFlag]

theorem setConfigSteps_atomic (config : Config) : (setConfigSteps env config).atomic = setConfig env config := by
  simp [setConfigSteps, setConfig, setParity, setFlagSteps_atomic]

theorem getConfigSteps_atomic : (getConfigSteps env).atomic = getConfig env := by
  simp [getConfigSteps, getParitySteps, getConfig, getParity]

theorem writePollSteps_atomic (data : Byte) (limit : Word) (budget : Nat) (timeout : Word) :
    (writePollSteps env data limit budget timeout).atomic = writePoll env data limit budget timeout := by
  induction budget generalizing timeout with
  | zero => rfl
  | succ budget ih => simp [writePollSteps, writePoll, ih]

theorem writeSteps_atomic (data : Byte) (limit : Word) (errCode : ErrorCode) :
    (writeSteps env data limit errCode).atomic = write env data limit errCode := by
  simp only [writeSteps, write, Steps.atomic_bind, Steps.atomic_once]
  congr 1
  funext _
  congr 1
  funext uart
  cases uart.txFifo with
  | none => simp [writePollSteps_atomic]
  | some q => simp

theorem writeAsyncSteps_atomic (fifo : Option FifoRef) (handler : TxHandler) :
    (writeAsyncSteps env fifo handler).atomic = writeAsync env fifo handler := by
  have once : (modifyDescriptor (fun uart => { uart with txFifo := fifo }) >>= fun _ =>
      modifyDescriptor fun uart => { uart with txHandler := handler }) =
      (modifyDescriptor fun uart => { uart with txFifo := fifo, txHandler := handler } : Driver σ Unit) := rfl
  rw [writeAsync, ← once]
  simp [writeAsyncSteps, kickSteps, kick]

theorem readAsyncSteps_atomic (fifo : Option FifoRef) (handler : RxHandler) :
    (readAsyncSteps fifo handler).atomic = (readAsync fifo handler : Driver σ Unit) := by
  have once : (modifyDescriptor (fun uart => { uart with rxFifo := fifo }) >>= fun _ =>
      modifyDescriptor fun uart => { uart with rxHandler := handler }) =
      (modifyDescriptor fun uart => { uart with rxFifo := fifo, rxHandler := handler } : Driver σ Unit) := rfl
  rw [readAsync, ← once]
  simp [readAsyncSteps]

theorem querySteps_atomic {α : Type} (result : Uart → Driver σ α) : (querySteps result).atomic = query result := by
  simp [querySteps, query]

/-- The steps of a call, taken at once, are the call. -/
theorem steps_atomic (call : Call) : (steps env call).atomic = exec env call := by
  cases call with
  | shutdown => simp [steps, exec, shutdownSteps, shutdown]
  | setConfig config => simp [steps, exec, setConfigSteps_atomic]
  | getConfig => simp [steps, exec, getConfigSteps_atomic]
  | write data limit errCode => simp [steps, exec, writeSteps_atomic]
  | writeAsync fifo handler => simp [steps, exec, writeAsyncSteps_atomic]
  | readAsync fifo handler => simp [steps, exec, readAsyncSteps_atomic]
  | isTxEmpty | isRxEmpty => simp [steps, exec, querySteps_atomic, isTxEmpty, isRxEmpty]
  | getTxFifoCount | getRxFifoCount => simp [steps, exec, querySteps_atomic, getTxFifoCount, getRxFifoCount]
  | registerErrorHandler handler => simp [steps, exec, registerErrorHandlerSteps, registerErrorHandler]
  | _ => exact Steps.atomic_once _

end Atomic

/-- The interrupt can come: its vector is enabled, and the driver's entry is on it. -/
structure World.Interruptible (w : World σ) : Prop where
  enabled : w.rtems.enabled (interruptNumber w.uart.id) = true
  installed : w.rtems.installed (interruptNumber w.uart.id) = some w.uart.interruptData.rtemsInterruptEntry

/-- The interrupt is served where it can come; a task calls when it likes. -/
def Fits (w : World σ) (call : Call) : Prop :=
  call = .handleInterrupt → w.Interruptible

/-- The interrupt comes and is served. -/
abbrev Interrupted (env : Env σ) : World σ → World σ → Prop :=
  Served (exec env) Fits .handleInterrupt

/-- The vector is masked. -/
def World.Closed (w : World σ) : Prop :=
  w.rtems.enabled (interruptNumber w.uart.id) = false

/-- What a task calls. -/
def Call.Asked (call : Call) : Prop :=
  call ≠ .handleInterrupt

/-- The nine calls that mask the vector around what they do. -/
def Call.Masked : Call → Prop
  | .write _ _ _ | .writeAsync _ _ | .readAsync _ _ | .isTxEmpty | .isRxEmpty | .getTxFifoCount | .getRxFifoCount
  | .registerErrorHandler _ | .shutdown => True
  | _ => False

/-- A call that masks the vector, or a byte of the line, which the device takes at once. -/
def Call.Guarded (call : Call) : Prop :=
  call.Masked ∨ ∃ byte, call = .arrive byte

/-- The two calls that are given access by access and do not mask the vector. -/
def Call.Configures : Call → Prop
  | .setConfig _ | .getConfig => True
  | _ => False

theorem Call.Guarded.asked {call : Call} (guarded : call.Guarded) : call.Asked ∧ ¬ call.Configures := by
  rcases guarded with masked | ⟨byte, rfl⟩
  · cases call <;> first | exact masked.elim | exact ⟨fun same => (nomatch same), not_false⟩
  · exact ⟨fun same => (nomatch same), not_false⟩

/-- The masks and the identifier are left alone. -/
structure Stays (w w' : World σ) : Prop where
  enabled : w'.rtems.enabled = w.rtems.enabled
  id : w'.uart.id = w.uart.id

section Critical

variable {env : Env σ}

theorem inside_stays {α : Type} {act : Driver σ α} (stays : Relates partially Stays act) : Inside World.Closed (.once act) := by
  refine inside_once fun w shut => wp_mono (stays w) fun _ w' same => ?_
  rw [World.Closed, same.enabled, same.id]
  exact shut

theorem inside_readRegister (r : Register) : Inside World.Closed (.once (readRegister env r)) :=
  inside_stays fun _ => ⟨rfl, rfl⟩

theorem inside_writeRegister (r : Register) (value : Word) : Inside World.Closed (.once (writeRegister env r value)) :=
  inside_stays fun _ => ⟨rfl, rfl⟩

theorem inside_writeData (data : Byte) : Inside World.Closed (.once (writeData env data)) :=
  inside_stays fun _ => ⟨rfl, rfl⟩

theorem inside_descriptor : Inside World.Closed (.once descriptor : Steps Fault (World σ) Uart) :=
  inside_stays fun _ => ⟨rfl, rfl⟩

theorem inside_modifyDescriptor {f : Uart → Uart} (id : ∀ uart, (f uart).id = uart.id) :
    Inside World.Closed (.once (modifyDescriptor f) : Steps Fault (World σ) Unit) :=
  inside_stays fun w => ⟨rfl, id w.uart⟩

/-- What asks a queue asks nothing else, and faults without one. -/
theorem inside_queue {α : Type} (act : Option FifoRef → Driver σ α) (null : act none = fault .nullDereference)
    (stays : ∀ q, Relates partially Stays (act (some q))) (pointer : Option FifoRef) : Inside World.Closed (.once (act pointer)) := by
  cases pointer with
  | none =>
    rw [null]
    exact inside_stays (relates_fault trivial)
  | some q => exact inside_stays (stays q)

theorem locks (w : World σ) : wp partially vectorDisable (fun _ w' => w'.Closed) w :=
  w.masked_enabled false

theorem held_writePollSteps (data : Byte) (limit : Word) (budget : Nat) (timeout : Word) :
    Held World.Closed (writePollSteps env data limit budget timeout) := by
  induction budget generalizing timeout with
  | zero => exact held_once _
  | succ budget ih =>
    unfold writePollSteps
    split
    · refine (inside_readRegister .status).held fun status => ?_
      split
      · exact (inside_writeData data).held fun _ => held_last _ _
      · exact ih _
    · trivial

theorem critical_writeSteps (data : Byte) (limit : Word) (errCode : ErrorCode) :
    Critical World.Closed (writeSteps env data limit errCode) := by
  refine critical_section locks fun _ => inside_descriptor.held fun uart => ?_
  cases uart.txFifo with
  | none => exact (held_writePollSteps data limit _ _).map _
  | some q => exact held_last _ _

theorem inside_kickSteps : Inside World.Closed (kickSteps env) := by
  refine (inside_readRegister .status).bind fun status => ?_
  split
  · refine inside_descriptor.bind fun uart => ?_
    refine (inside_queue (fun q => fifoPull q 0) rfl (fun _ _ => ⟨rfl, rfl⟩) _).bind fun pulled => ?_
    exact inside_writeData _
  · trivial

theorem critical_writeAsyncSteps (fifo : Option FifoRef) (handler : TxHandler) :
    Critical World.Closed (writeAsyncSteps env fifo handler) :=
  critical_section locks fun _ => (inside_modifyDescriptor fun _ => rfl).held fun _ =>
    (inside_modifyDescriptor fun _ => rfl).held fun _ => inside_kickSteps.held fun _ => held_once _

theorem critical_readAsyncSteps (fifo : Option FifoRef) (handler : RxHandler) :
    Critical World.Closed (readAsyncSteps fifo handler : Steps Fault (World σ) Unit) :=
  critical_section locks fun _ => (inside_modifyDescriptor fun _ => rfl).held fun _ =>
    (inside_modifyDescriptor fun _ => rfl).held fun _ => held_once _

theorem critical_registerErrorHandlerSteps (handler : ErrorHandler) :
    Critical World.Closed (registerErrorHandlerSteps handler : Steps Fault (World σ) Unit) :=
  critical_section locks fun _ => (inside_modifyDescriptor fun _ => rfl).held fun _ => held_once _

theorem critical_querySteps {α : Type} {result : Uart → Driver σ α} (inside : ∀ uart, Inside World.Closed (.once (result uart))) :
    Critical World.Closed (querySteps result) :=
  critical_section locks fun _ => inside_descriptor.held fun uart => (inside uart).held fun answer => held_last _ answer

theorem critical_shutdownSteps : Critical World.Closed (shutdownSteps env) := by
  have removes : Inside World.Closed (.once entryRemove : Steps Fault (World σ) Unit) :=
    inside_stays fun w => ⟨Rtems.entryRemove_enabled _ _ _, rfl⟩
  exact critical_section locks fun _ => removes.held fun _ => (inside_writeRegister _ _).held fun _ =>
    (inside_writeRegister _ _).held fun _ => (inside_modifyDescriptor fun _ => rfl).held fun _ => held_once _

theorem critical_steps {call : Call} (other : ¬ call.Configures) : Critical World.Closed (steps env call) := by
  have asks {α : Type} (act : Option FifoRef → Driver σ α) (null : act none = fault .nullDereference)
      (stays : ∀ q, Relates partially Stays (act (some q))) (pointer : Uart → Option FifoRef) :
      Critical World.Closed (querySteps fun uart => act (pointer uart)) :=
    critical_querySteps fun uart => inside_queue act null stays (pointer uart)
  cases call with
  | setConfig | getConfig => exact absurd trivial other
  | shutdown => exact critical_shutdownSteps.map _
  | write data limit errCode => exact (critical_writeSteps data limit errCode).map _
  | writeAsync fifo handler => exact (critical_writeAsyncSteps fifo handler).map _
  | readAsync fifo handler => exact (critical_readAsyncSteps fifo handler).map _
  | isTxEmpty | isRxEmpty => exact (asks fifoIsEmpty rfl (fun _ _ => ⟨rfl, rfl⟩) _).map _
  | getTxFifoCount | getRxFifoCount => exact (asks fifoGetCount rfl (fun _ _ => ⟨rfl, rfl⟩) _).map _
  | registerErrorHandler handler => exact (critical_registerErrorHandlerSteps handler).map _
  | _ => exact critical_once _

theorem undivided {among : Call → Prop} (env : Env σ) (asked : ∀ call, among call → call.Asked ∧ ¬ call.Configures) :
    Undivided (exec env) (steps env) Fits .handleInterrupt among := by
  refine ⟨fun call member => (asked call member).1, fun w call member interrupt => ?_, fun call w r member runs => ?_⟩
  · exact absurd interrupt (asked call member).1
  · have masks : ∀ w w' : World σ, Interrupted env w w' → ¬ w.Closed := by
      rintro w w' ⟨served, -⟩ shut
      have enabled := (served rfl).enabled
      rw [shut] at enabled
      cases enabled
    rw [← steps_atomic]
    exact runs.critical masks (critical_steps (asked call member).2)

end Critical

/-- **No interrupt divides a call that masks its vector**: what tasks are
answered by these calls with interrupts between their accesses they are answered
in a run of whole calls with the interrupts between the calls, which ends in the
same world; and a call that faults there faults after such a run. Bytes arrive
between the calls. -/
theorem masked_calls_undivided {env : Env σ} {start w : World σ} {tasks : List (Call × Answer)}
    (tasked : Tasks (steps env) Call.Guarded (Interrupted env) start tasks w) :
    (∃ calls, Run env Fits start calls w ∧ besides .handleInterrupt calls = tasks) ∧
      ∀ call fault, call.Masked → Runs (Interrupted env) (steps env call) w (.error fault) →
        ∃ calls w', Run env Fits start calls w' ∧ besides .handleInterrupt calls = tasks ∧ exec env call w' = .error fault := by
  have whole := undivided env fun _ guarded => Call.Guarded.asked guarded
  exact ⟨whole.run tasked, fun _ _ masked runs => whole.fault tasked (.inl masked) runs⟩

namespace Board

/-- A board whose driver was started: its vector is enabled, and has its entry. -/
def started : World Board :=
  let w := world 1 ⟨3, [2, 2], [65]⟩
  { w with rtems := ⟨fun _ => true, fun _ => some w.uart.interruptData.rtemsInterruptEntry, fun _ => false⟩ }

end Board

/-- An interrupt comes before a task registers an error handler. -/
theorem masked_calls_undivided_started : ∃ calls w, Run Board.env Fits Board.started calls w ∧
    besides .handleInterrupt calls = [(.registerErrorHandler ⟨.user 0, 0⟩, .done)] := by
  have registers : ∃ w, Runs (Interrupted Board.env) (steps Board.env (.registerErrorHandler ⟨.user 0, 0⟩)) Board.started
      (.ok (.done, w)) :=
    ⟨_, .interrupted ⟨fun _ => ⟨rfl, rfl⟩, .done, rfl⟩ (.stepped rfl (.stepped rfl (.stepped rfl (.done _ _))))⟩
  obtain ⟨w, runs⟩ := registers
  have guarded : Call.Guarded (.registerErrorHandler ⟨.user 0, 0⟩) := .inl trivial
  obtain ⟨calls, run, same⟩ := (masked_calls_undivided (Tasks.nil.snoc guarded runs)).1
  exact ⟨calls, w, run, same⟩

end Leon3Bsp.Uart
