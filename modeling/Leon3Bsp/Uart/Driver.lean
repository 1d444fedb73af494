import Leon3Bsp.Uart.World

/-!
# `Uart.c`: the driver

Each function of the driver as a program, in the order of the source. A boolean
or enumeration that C returns through a pointer is part of the result; `*data`
and `*errCode` are passed in and handed back, since not every exit assigns them.
-/

namespace Leon3Bsp.Uart
set_option autoImplicit false
open Wp

variable {σ : Type} (env : Env σ)

/-- `Uart_setFlag(&uart->reg->control, isSet, flag)`. -/
def setFlag (isSet : Bool) (flag : Nat) : Driver σ Unit := do
  let value ← readRegister env .control
  writeRegister env .control (withFlag value isSet flag)

/-- `freq / (a * b)`. Where C divides by zero, or by a product that has wrapped,
it is a fault. -/
def divide (freq a b : Word) : Driver σ Word :=
  if 2 ^ 32 ≤ a.toNat * b.toNat then fault .overflow
  else if a * b = 0 then fault .divisionByZero
  else pure (freq / (a * b))

/-- The field that `setBaudRate` stores for a quotient. -/
def scalerField (quotient : Word) : Word :=
  let scaler : BitVec 16 := (quotient - 1).setWidth 16
  (scaler.setWidth 32 <<< 0) &&& 0x00000FFF

/-- `setBaudRate`. -/
def setBaudRate (baud : BaudRate) : Driver σ Bool :=
  let baudValue := baudRateToValue baud
  if baudValue = 0 then pure false
  else do
    let freq := env.ticksPerSecond
    let quotient ← divide freq baudValue 8
    writeRegister env .clkscl (scalerField quotient)
    pure true

/-- The `clkscl` of `getBaudRate`. -/
def decodeScaler (value : Word) : BitVec 16 :=
  ((value <<< 4) + 1).setWidth 16

/-- `getBaudRate`. -/
def getBaudRate : Driver σ BaudRate := do
  let freq := env.ticksPerSecond
  let value ← readRegister env .clkscl
  let clkscl := decodeScaler value
  let baud ← divide freq 8 (clkscl.setWidth 32)
  pure (valueToBaudRate baud)

/-- What `setBaudRate` writes to the scaler. -/
def encodeScaler (freq baudValue : Word) : Word :=
  scalerField (freq / (baudValue * 8))

section Rates

variable {freq a b value : Word} {baud : BaudRate}

/-- A division by a product that fits and is not zero. -/
theorem divide_eq (fits : a.toNat * b.toNat < 2 ^ 32) (positive : 0 < a.toNat * b.toNat) :
    (divide freq a b : Driver σ Word) = pure (freq / (a * b)) := by
  have product : (a * b).toNat = a.toNat * b.toNat := by
    rw [BitVec.toNat_mul, Nat.mod_eq_of_lt fits]
  have nonzero : a * b ≠ 0 := by
    intro zero
    rw [zero] at product
    exact positive.ne product
  rw [divide, if_neg (Nat.not_le.2 fits), if_neg nonzero]

/-- A rate in bit clocks, eight to a bit, fits its word. -/
theorem baudRateToValue_lt (baud : BaudRate) : (baudRateToValue baud).toNat * 8 < 2 ^ 32 := by
  cases baud <;> simp [baudRateToValue]

theorem decodeScaler_odd (value : Word) : (decodeScaler value).toNat % 16 = 1 := by
  rw [decodeScaler, BitVec.toNat_setWidth, BitVec.toNat_add, BitVec.toNat_shiftLeft, Nat.shiftLeft_eq]
  have one : (1 : Word).toNat = 1 := rfl
  omega

/-- Neither function ends in the fault of its division. -/
theorem setBaudRate_eq (baud : BaudRate) : setBaudRate env baud =
    if baudRateToValue baud = 0 then pure false
    else writeRegister env .clkscl (encodeScaler env.ticksPerSecond (baudRateToValue baud)) >>= fun _ => pure true := by
  simp only [setBaudRate]
  by_cases unsupported : baudRateToValue baud = 0
  · rw [if_pos unsupported, if_pos unsupported]
  · have eight : (8 : Word).toNat = 8 := rfl
    have positive : 0 < (baudRateToValue baud).toNat := Nat.pos_of_ne_zero fun zero => unsupported (BitVec.eq_of_toNat_eq zero)
    rw [if_neg unsupported, if_neg unsupported, divide_eq (baudRateToValue_lt baud) (by rw [eight]; omega)]
    rfl

theorem getBaudRate_eq : getBaudRate env = readRegister env .clkscl >>= fun value =>
    pure (valueToBaudRate (env.ticksPerSecond / (8 * (decodeScaler value).setWidth 32))) := by
  have divides (value : Word) : (divide env.ticksPerSecond 8 ((decodeScaler value).setWidth 32) : Driver σ Word) =
      pure (env.ticksPerSecond / (8 * (decodeScaler value).setWidth 32)) := by
    have eight : (8 : Word).toNat = 8 := rfl
    have narrow := (decodeScaler value).isLt
    have odd := decodeScaler_odd value
    apply divide_eq <;> rw [eight, BitVec.toNat_setWidth] <;> omega
  unfold getBaudRate
  simp only [divides]
  rfl

end Rates

/-- The last statement of `Uart_setConfig`: nothing for `Uart_Parity_None`. -/
def setParity (parity : Parity) : Driver σ Unit :=
  if parity ≠ .none ∧ parity ≠ .invalid then do
    setFlag env true Control.PE
    setFlag env (parity = .odd) Control.PS
  else pure ()

/-- `Uart_setConfig`. -/
def setConfig (config : Config) : Driver σ Unit := do
  setFlag env config.isRxEnabled Control.RE
  setFlag env config.isRxEnabled Control.RI
  setFlag env (!config.isRxEnabled) Control.RF
  setFlag env config.isTxEnabled Control.TE
  setFlag env config.isTxEnabled Control.TI
  setFlag env (!config.isTxEnabled) Control.TF
  setFlag env config.isLoopbackModeEnabled Control.LB
  let _ ← setBaudRate env config.baudRate
  setParity env config.parity

/-- The parity as `Uart_getConfig` reads it. -/
def getParity : Driver σ Parity := do
  let control ← readRegister env .control
  if getFlag control Control.PE then do
    let control ← readRegister env .control
    pure (if getFlag control Control.PS then .odd else .even)
  else pure .none

/-- `Uart_getConfig`. -/
def getConfig : Driver σ Config := do
  let re ← readRegister env .control
  let te ← readRegister env .control
  let lb ← readRegister env .control
  let parity ← getParity env
  let baudRate ← getBaudRate env
  pure
    { isRxEnabled := getFlag re Control.RE
      isTxEnabled := getFlag te Control.TE
      isLoopbackModeEnabled := getFlag lb Control.LB
      parity
      baudRate
      baudRateClkFreq := env.ticksPerSecond }

/-- `interruptData.sentBytes = n`. -/
def setSentBytes (n : Word) : Driver σ Unit :=
  modifyDescriptor fun uart => { uart with interruptData := { uart.interruptData with sentBytes := n } }

/-- `errorFlags = flags`. -/
def setErrorFlags (errorFlags : ErrorFlags) : Driver σ Unit :=
  modifyDescriptor fun uart => { uart with errorFlags }

/-- The entry of the descriptor is installed on its vector or removed from it. -/
def entryInstall : Driver σ Unit :=
  act fun w => ((), { w with
    rtems := w.rtems.entryInstall (interruptNumber w.uart.id) w.uart.interruptData.rtemsInterruptEntry })

def entryRemove : Driver σ Unit :=
  act fun w => ((), { w with
    rtems := w.rtems.entryRemove (interruptNumber w.uart.id) w.uart.interruptData.rtemsInterruptEntry })

/-- `rtems_interrupt_clear` on the vector of the descriptor. -/
def interruptClear : Driver σ Unit :=
  act fun w => ((), { w with rtems := w.rtems.interruptClear (interruptNumber w.uart.id) })

/-- `Uart_startup`. -/
def startup : Driver σ Unit := do
  setSentBytes 0
  setErrorFlags .zero
  entryInstall
  vectorEnable

/-- `Uart_shutdown`. -/
def shutdown : Driver σ Unit := do
  vectorDisable
  entryRemove
  writeRegister env .control 0
  writeRegister env .status 0
  setSentBytes 0
  setErrorFlags .zero

/-- `Uart_init`. -/
def init (id : Id) : Driver σ Unit := do
  modifyDescriptor fun uart =>
    { id
      interruptData := ⟨uart.interruptData.rtemsInterruptEntry, 0⟩
      errorFlags := .zero
      txHandler := defaultTxHandler
      rxHandler := defaultRxHandler
      errorHandler := defaultErrorHandler
      txFifo := none
      rxFifo := none }
  shutdown env
  interruptClear

/-- How many turns a poll is followed: enough for every limit but zero. -/
def pollBudget (timeoutLimit : Word) : Nat :=
  if timeoutLimit = 0 then env.patience else timeoutLimit.toNat + 1

/-- `timeout` after `(timeoutLimit == 0) || timeout-- > 0`. -/
def decrement (timeoutLimit timeout : Word) : Word :=
  if timeoutLimit = 0 then timeout else timeout - 1

/-- A limit other than zero is followed to its end. -/
theorem lt_pollBudget {timeoutLimit : Word} (limited : timeoutLimit ≠ 0) :
    timeoutLimit.toNat < pollBudget env timeoutLimit := by
  rw [pollBudget, if_neg limited]
  exact Nat.lt_succ_self _

/-- And counted down. -/
theorem toNat_decrement {timeoutLimit timeout : Word} (limited : timeoutLimit ≠ 0) (left : 0 < timeout) :
    (decrement timeoutLimit timeout).toNat + 1 = timeout.toNat := by
  rw [decrement, if_neg limited]
  bv_omega

/-- The loop of `Uart_write`. -/
def writePoll (data : Byte) (timeoutLimit : Word) : Nat → Word → Driver σ Bool
  | 0, _ => fault .outOfPatience
  | patience + 1, timeout =>
    if timeoutLimit = 0 ∨ 0 < timeout then do
      let status ← readRegister env .status
      if getFlag status Status.TS then do
        writeData env data
        vectorEnable
        pure true
      else writePoll data timeoutLimit patience (decrement timeoutLimit timeout)
    else pure false

/-- `Uart_write`: the result and `*errCode`. -/
def write (data : Byte) (timeoutLimit : Word) (errCode : ErrorCode) : Driver σ (Bool × ErrorCode) := do
  vectorDisable
  let uart ← descriptor
  match uart.txFifo with
  | none => do
    let result ← writePoll env data timeoutLimit (pollBudget env timeoutLimit) timeoutLimit
    pure (result, errCode)
  | some _ => do
    vectorEnable
    pure (false, .txFifoNotNull)

/-- The loop of `Uart_read`: what the call returns from inside it, `none` when
it times out. The vector is enabled, so `between` may run before each turn. -/
def readPoll (between : Driver σ Unit) (data : Byte) (timeoutLimit : Word) (errCode : ErrorCode) :
    Nat → Word → Driver σ (Option (Bool × Byte × ErrorCode))
  | 0, _ => fault .outOfPatience
  | patience + 1, timeout => do
    between
    let uart ← descriptor
    if uart.errorFlags.hasRxFifoFullErrorOccurred then pure (some (false, data, .rxFifoFull))
    else do
      let status ← readRegister env .status
      if getFlag status Status.DR then do
        let data ← readData env
        pure (some (true, data, errCode))
      else if timeoutLimit = 0 ∨ 0 < timeout then
        readPoll between data timeoutLimit errCode patience (decrement timeoutLimit timeout)
      else pure none

/-- `Uart_read` with `between` run in its enabled section: the result, `*data` and `*errCode`. -/
def readInterrupted (between : Driver σ Unit) (data : Byte) (timeoutLimit : Word) (errCode : ErrorCode) :
    Driver σ (Bool × Byte × ErrorCode) := do
  vectorDisable
  let uart ← descriptor
  match uart.rxFifo with
  | none => do
    vectorEnable
    let polled ← readPoll env between data timeoutLimit errCode (pollBudget env timeoutLimit) timeoutLimit
    match polled with
    | some returned => pure returned
    | none => do
      vectorEnable
      pure (false, data, .timeout)
  | some _ => do
    vectorEnable
    pure (false, data, .rxFifoNotNull)

/-- `Uart_read`, uninterrupted. -/
def read (data : Byte) (timeoutLimit : Word) (errCode : ErrorCode) : Driver σ (Bool × Byte × ErrorCode) :=
  readInterrupted env (pure ()) data timeoutLimit errCode

/-- The first byte of `Uart_writeAsync`. -/
def kick : Driver σ Unit := do
  let status ← readRegister env .status
  if getFlag status Status.TS then do
    let uart ← descriptor
    let pulled ← fifoPull uart.txFifo 0
    writeData env pulled.2
  else pure ()

/-- `Uart_writeAsync`. -/
def writeAsync (fifo : Option FifoRef) (handler : TxHandler) : Driver σ Unit := do
  vectorDisable
  modifyDescriptor fun uart => { uart with txFifo := fifo, txHandler := handler }
  kick env
  vectorEnable

/-- `Uart_readAsync`. -/
def readAsync (fifo : Option FifoRef) (handler : RxHandler) : Driver σ Unit := do
  vectorDisable
  modifyDescriptor fun uart => { uart with rxFifo := fifo, rxHandler := handler }
  vectorEnable

/-- A query of a queue with the vector disabled. -/
def query {α : Type} (result : Uart → Driver σ α) : Driver σ α := do
  vectorDisable
  let uart ← descriptor
  let answer ← result uart
  vectorEnable
  pure answer

/-- `Uart_isTxEmpty`. -/
def isTxEmpty : Driver σ Bool :=
  query fun uart => fifoIsEmpty uart.txFifo

/-- `Uart_isRxEmpty`. -/
def isRxEmpty : Driver σ Bool :=
  query fun uart => fifoIsEmpty uart.rxFifo

/-- `Uart_getTxFifoCount`. -/
def getTxFifoCount : Driver σ Word :=
  query fun uart => fifoGetCount uart.txFifo

/-- `Uart_getRxFifoCount`. -/
def getRxFifoCount : Driver σ Word :=
  query fun uart => fifoGetCount uart.rxFifo

/-- `Uart_handleError`. -/
def handleError : Driver σ Bool := do
  let status ← readRegister env .status
  setErrorFlags (getLinkErrors status).2
  if (getLinkErrors status).1 then do
    let uart ← descriptor
    invoke env .error uart.errorHandler.callback uart.errorHandler.arg
    pure true
  else pure false

/-- `if(buf == rxHandler.targetCharacter) rxHandler.characterCallback(...)`. -/
def matchCharacter (buf : Byte) : Driver σ Unit := do
  let uart ← descriptor
  if buf = uart.rxHandler.targetCharacter then
    invoke env .rxCharacter uart.rxHandler.characterCallback uart.rxHandler.characterArg
  else pure ()

/-- `sentBytes++`, and `rxHandler.lengthCallback(...)` when it reaches `rxHandler.targetLength`. -/
def countByte : Driver σ Unit := do
  let uart ← descriptor
  setSentBytes (uart.interruptData.sentBytes + 1)
  let uart ← descriptor
  if uart.interruptData.sentBytes = uart.rxHandler.targetLength then do
    setSentBytes 0
    invoke env .rxLength uart.rxHandler.lengthCallback uart.rxHandler.lengthArg
  else pure ()

/-- A received byte for which there is room. -/
def acceptByte (buf : Byte) : Driver σ Unit := do
  matchCharacter env buf
  countByte env
  let uart ← descriptor
  let _ ← fifoPush uart.rxFifo buf

/-- The body of `Uart_handleRx`, with data ready. -/
def receiveByte : Driver σ Unit := do
  let uart ← descriptor
  match uart.rxFifo with
  | none => pure ()
  | some fifo => do
    let buf ← readData env
    let full ← fifoIsFull (some fifo)
    if full then setErrorFlags { uart.errorFlags with hasRxFifoFullErrorOccurred := true }
    else acceptByte env buf

/-- `Uart_handleRx`. -/
def handleRx : Driver σ Bool := do
  let control ← readRegister env .control
  if getFlag control Control.RE then do
    let status ← readRegister env .status
    if getFlag status Status.DR then do
      receiveByte env
      pure true
    else pure false
  else pure false

/-- The body of `Uart_handleTx`, with the shift register empty. -/
def transmitByte : Driver σ Unit := do
  let uart ← descriptor
  match uart.txFifo with
  | none => pure ()
  | some fifo => do
    let empty ← fifoIsEmpty (some fifo)
    if empty then pure ()
    else do
      let pulled ← fifoPull (some fifo) 0
      writeData env pulled.2
      let drained ← fifoIsEmpty (some fifo)
      if drained then invoke env .txEnd uart.txHandler.callback uart.txHandler.arg
      else pure ()

/-- `Uart_handleTx`. -/
def handleTx : Driver σ Bool := do
  let control ← readRegister env .control
  if getFlag control Control.TE then do
    let status ← readRegister env .status
    if getFlag status Status.TS then do
      transmitByte env
      pure true
    else pure false
  else pure false

/-- `Uart_handleInterrupt`. -/
def handleInterrupt : Driver σ Unit := do
  let _ ← handleError env
  let _ ← handleRx env
  let _ ← handleTx env

/-- `Uart_registerErrorHandler`. -/
def registerErrorHandler (handler : ErrorHandler) : Driver σ Unit := do
  vectorDisable
  modifyDescriptor fun uart => { uart with errorHandler := handler }
  vectorEnable

end Leon3Bsp.Uart
