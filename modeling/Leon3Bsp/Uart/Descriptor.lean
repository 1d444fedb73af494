import Leon3Bsp.Rtems
import Leon3Bsp.Utils.Store
import Leon3Bsp.Uart.Registers

/-!
# `Uart.h`: the device descriptor

The types of the driver's interface. A function pointer is the name of a
function; the registers a descriptor points to are the device itself.
-/

namespace Leon3Bsp
set_option autoImplicit false

namespace Uart

/-- `Uart_Id`. -/
inductive Id
  | id0 | id1 | id2 | id3 | id4 | id5
  | invalid
  deriving DecidableEq, Repr

/-- `Uart_Parity`. -/
inductive Parity
  | none | even | odd
  | invalid
  deriving DecidableEq, Repr

/-- `Uart_BaudRate`, with the values a C enumeration may hold besides. -/
inductive BaudRate
  | b300 | b600 | b1200 | b1800 | b2400 | b4800 | b9600 | b19200 | b28800 | b38400 | b57600 | b76800 | b115200
  | invalid
  | undeclared (value : Word)
  deriving DecidableEq, Repr

/-- `Uart_ErrorCode`. -/
inductive ErrorCode
  | ok
  | timeout
  | rxFifoFull
  | txFifoFull
  | txFifoNotNull
  | rxFifoNotNull
  deriving DecidableEq, Repr

/-- `Uart_Config`. -/
structure Config where
  isTxEnabled : Bool
  isRxEnabled : Bool
  isLoopbackModeEnabled : Bool
  parity : Parity
  baudRate : BaudRate
  baudRateClkFreq : Word
  deriving DecidableEq, Repr

/-- A callback: the driver's own empty one or a function of the caller. -/
inductive Callback
  | emptyCallback
  | user (function : Nat)
  deriving DecidableEq, Repr

/-- `volatile void* arg`. -/
abbrev Arg := Nat

/-- `Uart_TxHandler`. -/
structure TxHandler where
  callback : Callback
  arg : Arg
  deriving DecidableEq, Repr

/-- `Uart_RxHandler`. -/
structure RxHandler where
  lengthCallback : Callback
  characterCallback : Callback
  lengthArg : Arg
  characterArg : Arg
  targetCharacter : Byte
  targetLength : Word
  deriving DecidableEq, Repr

/-- `Uart_ErrorHandler`. -/
structure ErrorHandler where
  callback : Callback
  arg : Arg
  deriving DecidableEq, Repr

/-- `Uart_ErrorFlags`. -/
structure ErrorFlags where
  hasOverrunOccurred : Bool
  hasFramingErrorOccurred : Bool
  hasParityErrorOccurred : Bool
  hasRxFifoFullErrorOccurred : Bool
  deriving DecidableEq, Repr

/-- `(Uart_ErrorFlags){0}`. -/
def ErrorFlags.zero : ErrorFlags :=
  ⟨false, false, false, false⟩

/-- `Uart_InterruptData`; the entry is known to RTEMS by its address. -/
structure InterruptData where
  rtemsInterruptEntry : EntryRef
  sentBytes : Word
  deriving DecidableEq, Repr

end Uart

/-- `Uart`. -/
structure Uart where
  id : Uart.Id
  txHandler : Uart.TxHandler
  rxHandler : Uart.RxHandler
  errorHandler : Uart.ErrorHandler
  errorFlags : Uart.ErrorFlags
  interruptData : Uart.InterruptData
  txFifo : Option FifoRef
  rxFifo : Option FifoRef
  deriving DecidableEq, Repr

namespace Uart

/-- `interruptNumber`. -/
def interruptNumber : Id → Nat
  | .id0 => 2
  | .id1 => 17
  | .id2 => 18
  | .id3 => 19
  | .id4 => 20
  | .id5 => 21
  | .invalid => 0xFF

/-- `baudRateToValue`. -/
def baudRateToValue : BaudRate → Word
  | .b300 => 300
  | .b600 => 600
  | .b1200 => 1200
  | .b1800 => 1800
  | .b2400 => 2400
  | .b4800 => 4800
  | .b9600 => 9600
  | .b19200 => 19200
  | .b28800 => 28800
  | .b38400 => 38400
  | .b57600 => 57600
  | .b76800 => 76800
  | .b115200 => 115200
  | _ => 0

/-- `valueToBaudRate`. -/
def valueToBaudRate (value : Word) : BaudRate :=
  if value = 300 then .b300
  else if value = 600 then .b600
  else if value = 1200 then .b1200
  else if value = 1800 then .b1800
  else if value = 2400 then .b2400
  else if value = 4800 then .b4800
  else if value = 9600 then .b9600
  else if value = 19200 then .b19200
  else if value = 28800 then .b28800
  else if value = 38400 then .b38400
  else if value = 57600 then .b57600
  else if value = 76800 then .b76800
  else if value = 115200 then .b115200
  else .invalid

/-- `defaultTxHandler`. -/
def defaultTxHandler : TxHandler :=
  ⟨.emptyCallback, 0⟩

/-- `defaultRxHandler`. -/
def defaultRxHandler : RxHandler :=
  ⟨.emptyCallback, .emptyCallback, 0, 0, 0, 0⟩

/-- `defaultErrorHandler`. -/
def defaultErrorHandler : ErrorHandler :=
  ⟨.emptyCallback, 0⟩

/-- `Uart_getLinkErrors`: its result and the flags it assigns. -/
def getLinkErrors (statusRegister : Word) : Bool × ErrorFlags :=
  let errFlags : ErrorFlags :=
    { hasOverrunOccurred := getFlag statusRegister Status.OV
      hasParityErrorOccurred := getFlag statusRegister Status.PE
      hasFramingErrorOccurred := getFlag statusRegister Status.FE
      hasRxFifoFullErrorOccurred := getFlag statusRegister Status.RF }
  (errFlags.hasOverrunOccurred || errFlags.hasParityErrorOccurred || errFlags.hasFramingErrorOccurred ||
    errFlags.hasRxFifoFullErrorOccurred, errFlags)

end Uart

end Leon3Bsp
