import Leon3Bsp.Lib.Execution
import Leon3Bsp.Uart.Handlers

/-!
# Runs of the driver

A call is a function of `Uart.h`, an operation of the caller on one of its
queues, or a byte arriving at the device. Calls are atomic; a run is a sequence
of calls with the worlds between them.
-/

namespace Leon3Bsp.Uart
set_option autoImplicit false
open Wp Execution

/-- `write` and `read` carry the value of `*errCode` and `*data` on entry. -/
inductive Call
  | init (id : Id)
  | startup
  | shutdown
  | setConfig (config : Config)
  | getConfig
  | write (data : Byte) (timeoutLimit : Word) (errCode : ErrorCode)
  | read (data : Byte) (timeoutLimit : Word) (errCode : ErrorCode)
  | writeAsync (fifo : Option FifoRef) (handler : TxHandler)
  | readAsync (fifo : Option FifoRef) (handler : RxHandler)
  | isTxEmpty
  | isRxEmpty
  | getTxFifoCount
  | getRxFifoCount
  | registerErrorHandler (handler : ErrorHandler)
  | handleError
  | handleRx
  | handleTx
  | handleInterrupt
  | push (fifo : FifoRef) (data : Byte)
  | pull (fifo : FifoRef) (data : Byte)
  | arrive (data : Byte)
  deriving DecidableEq

inductive Answer
  | done
  | flag (result : Bool)
  | count (result : Word)
  | config (config : Config)
  | written (result : Bool) (errCode : ErrorCode)
  | received (result : Bool) (data : Byte) (errCode : ErrorCode)
  | pulled (result : Bool) (data : Byte)
  deriving DecidableEq

variable {σ : Type}

/-- `ByteFifo_push` by the caller. -/
def pushByte (fifo : FifoRef) (data : Byte) : Driver σ Bool :=
  act fun w => ((w.store.push fifo data).1, w.afterPush fifo data)

/-- A byte arrives at the device. -/
def World.afterArrival (w : World σ) (env : Env σ) (data : Byte) : World σ :=
  { w with hw := env.device.arrive data w.hw }

/-- `ByteFifo_pull` by the caller: the result and `*data`. -/
def pullByte (fifo : FifoRef) (data : Byte) : Driver σ (Bool × Byte) :=
  act fun w => (((w.store.pull fifo data).1, (w.store.pull fifo data).2.1), w.afterPull fifo data)

def exec (env : Env σ) : Call → Driver σ Answer
  | .init id => do init env id; pure .done
  | .startup => do startup; pure .done
  | .shutdown => do shutdown env; pure .done
  | .setConfig config => do setConfig env config; pure .done
  | .getConfig => do let config ← getConfig env; pure (.config config)
  | .write data timeoutLimit errCode => do let r ← write env data timeoutLimit errCode; pure (.written r.1 r.2)
  | .read data timeoutLimit errCode => do
    let r ← read env data timeoutLimit errCode
    pure (.received r.1 r.2.1 r.2.2)
  | .writeAsync fifo handler => do writeAsync env fifo handler; pure .done
  | .readAsync fifo handler => do readAsync fifo handler; pure .done
  | .isTxEmpty => do let result ← isTxEmpty; pure (.flag result)
  | .isRxEmpty => do let result ← isRxEmpty; pure (.flag result)
  | .getTxFifoCount => do let result ← getTxFifoCount; pure (.count result)
  | .getRxFifoCount => do let result ← getRxFifoCount; pure (.count result)
  | .registerErrorHandler handler => do registerErrorHandler handler; pure .done
  | .handleError => do let result ← handleError env; pure (.flag result)
  | .handleRx => do let result ← handleRx env; pure (.flag result)
  | .handleTx => do let result ← handleTx env; pure (.flag result)
  | .handleInterrupt => do handleInterrupt env; pure .done
  | .push fifo data => do let result ← pushByte fifo data; pure (.flag result)
  | .pull fifo data => do let r ← pullByte fifo data; pure (.pulled r.1 r.2)
  | .arrive data => act fun w => (.done, w.afterArrival env data)

/-- A call that was made in a run. -/
abbrev Made (σ : Type) := Taken (World σ) Call Answer

/-- What could be observed during a call. -/
def events (made : Made σ) : List Event :=
  made.after.trace.drop made.before.trace.length

abbrev Run (env : Env σ) (allowed : World σ → Call → Prop) (start : World σ) (calls : List (Made σ)) (w : World σ) : Prop :=
  Execution.Run (exec env) allowed start calls w

end Leon3Bsp.Uart
