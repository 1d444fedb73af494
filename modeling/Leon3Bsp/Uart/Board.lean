import Leon3Bsp.Uart.Driver

/-!
# A board to run the driver on

One executable device: a control register that is plain memory, a receiver with
the bytes that wait in it, and the status words the next reads show besides the
receiver's own data-ready bit. Statements about every device are exercised on it.
-/

namespace Leon3Bsp.Uart
set_option autoImplicit false

structure Board where
  control : Word
  /-- What the status reads show, in order; then zero. -/
  status : List Word
  received : List Byte

namespace Board

def read : Register → Board → Word × Board
  | .data, b => ((b.received.headD 0).setWidth 32, { b with received := b.received.tail })
  | .status, b => (withFlag (b.status.headD 0) (!b.received.isEmpty) Status.DR, { b with status := b.status.tail })
  | .control, b => (b.control, b)
  | .clkscl, b => (0, b)

def write : Register → Word → Board → Board
  | .control, value, b => { b with control := value }
  | _, _, b => b

def device : Device Board where
  read := read
  write := write
  arrive byte b := { b with received := b.received ++ [byte] }

/-- The callbacks of the caller return at once. -/
def env : Env Board :=
  ⟨device, fun _ _ => pure (), 80000000, 0⟩

/-- A descriptor as `Uart_init` leaves it. -/
def descriptor : Uart where
  id := .id0
  txHandler := defaultTxHandler
  rxHandler := defaultRxHandler
  errorHandler := defaultErrorHandler
  errorFlags := .zero
  interruptData := ⟨0x40100000, 0⟩
  txFifo := none
  rxFifo := none

/-- Queue `q` lies on `2 ^ 16` bytes of its own, of which it uses `size`, and is empty. -/
def emptyFifo (size : Nat) (q : FifoRef) : ByteFifo :=
  ⟨0x40000000 + 0x10000 * q, 0x40000000 + 0x10000 * q + size, NULL, 0x40000000 + 0x10000 * q⟩

/-- The world with empty queues of `size` bytes and the given board. -/
def world (size : Nat) (board : Board) : World Board where
  uart := descriptor
  store := ⟨fun _ => 0, emptyFifo size⟩
  rtems := .idle
  hw := board
  trace := []

/-- What `Uart_init` leaves of it. -/
def initialised (size : Nat) (board : Board) : World Board :=
  { world size board with
    rtems := ((Rtems.idle.vectorDisable 2).entryRemove 2 0x40100000).interruptClear 2
    hw := { board with control := 0 }
    trace := [.write .control 0, .write .status 0] }

end Board

end Leon3Bsp.Uart
