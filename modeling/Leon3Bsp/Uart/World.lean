import Leon3Bsp.Lib.Wp
import Leon3Bsp.Uart.Descriptor

/-!
# What the driver runs in

A world is the descriptor, the caller's queues, the state of RTEMS and of the
device, and the trace of what was observable so far. The driver is a program on
worlds; it faults where the C code would dereference `NULL`, and where an
unbounded poll outlasts the patience of the environment. Each primitive has one
rule for its weakest precondition, in terms of the world it leaves.
-/

namespace Leon3Bsp.Uart
set_option autoImplicit false
open Wp

inductive Fault
  | nullDereference
  | outOfPatience
  | divisionByZero
  /-- A divisor that does not fit its word. -/
  | overflow
  deriving DecidableEq, Repr

/-- The callbacks of the driver. -/
inductive Hook
  | txEnd
  | rxCharacter
  | rxLength
  | error
  deriving DecidableEq, Repr

/-- What can be observed: accesses of the registers, callbacks with the
descriptor and the queues they find, bytes accepted by a queue, bytes pulled by
the caller. -/
inductive Event
  | read (register : Register) (value : Word)
  | write (register : Register) (value : Word)
  | called (hook : Hook) (callback : Callback) (arg : Arg) (uart : Uart) (store : Store)
  | pushed (fifo : FifoRef) (data : Byte)
  | pulled (fifo : FifoRef) (data : Byte)

structure World (σ : Type) where
  uart : Uart
  store : Store
  rtems : Rtems
  hw : σ
  trace : List Event

variable {σ : Type}

abbrev Driver (σ α : Type) := Program Fault (World σ) α

/-- What surrounds the driver: the device, the functions of the caller,
`rtems_clock_get_ticks_per_second`, and how long a poll without a limit goes on. -/
structure Env (σ : Type) where
  device : Device σ
  callback : Nat → Arg → Driver σ Unit
  ticksPerSecond : Word
  patience : Nat

namespace World

variable (w : World σ) (env : Env σ)

/-- The value a register reads as. -/
def value (r : Register) : Word :=
  (env.device.read r w.hw).1

def afterRead (r : Register) : World σ :=
  { w with hw := (env.device.read r w.hw).2, trace := w.trace ++ [.read r (w.value env r)] }

def afterWrite (r : Register) (value : Word) : World σ :=
  { w with hw := env.device.write r value w.hw, trace := w.trace ++ [.write r value] }

def withUart (uart : Uart) : World σ :=
  { w with uart }

def withStore (store : Store) : World σ :=
  { w with store }

/-- The world a callback is entered in. -/
def calling (hook : Hook) (callback : Callback) (arg : Arg) : World σ :=
  { w with trace := w.trace ++ [.called hook callback arg w.uart w.store] }

/-- The world in which a byte was pushed to a queue. -/
def afterPush (fifo : FifoRef) (data : Byte) : World σ :=
  if (w.store.push fifo data).1 then
    { w with store := (w.store.push fifo data).2, trace := w.trace ++ [.pushed fifo data] }
  else w.withStore (w.store.push fifo data).2

/-- The world in which the caller pulled from a queue. -/
def afterPull (fifo : FifoRef) (data : Byte) : World σ :=
  if (w.store.pull fifo data).1 then
    { w with
      store := (w.store.pull fifo data).2.2
      trace := w.trace ++ [.pulled fifo (w.store.pull fifo data).2.1] }
  else w.withStore (w.store.pull fifo data).2.2

/-- The vector of the device is enabled or disabled. -/
def masked (enabled : Bool) : World σ :=
  { w with rtems := if enabled then w.rtems.vectorEnable (interruptNumber w.uart.id)
    else w.rtems.vectorDisable (interruptNumber w.uart.id) }

@[simp] theorem afterRead_uart (r : Register) : (w.afterRead env r).uart = w.uart := rfl
@[simp] theorem afterRead_store (r : Register) : (w.afterRead env r).store = w.store := rfl
@[simp] theorem afterRead_trace (r : Register) :
    (w.afterRead env r).trace = w.trace ++ [.read r (w.value env r)] := rfl
@[simp] theorem afterRead_hw (r : Register) : (w.afterRead env r).hw = (env.device.read r w.hw).2 := rfl
@[simp] theorem afterWrite_uart (r : Register) (v : Word) : (w.afterWrite env r v).uart = w.uart := rfl
@[simp] theorem afterWrite_store (r : Register) (v : Word) : (w.afterWrite env r v).store = w.store := rfl
@[simp] theorem afterWrite_trace (r : Register) (v : Word) : (w.afterWrite env r v).trace = w.trace ++ [.write r v] := rfl
@[simp] theorem afterWrite_hw (r : Register) (v : Word) : (w.afterWrite env r v).hw = env.device.write r v w.hw := rfl
@[simp] theorem withUart_uart (uart : Uart) : (w.withUart uart).uart = uart := rfl
@[simp] theorem withUart_store (uart : Uart) : (w.withUart uart).store = w.store := rfl
@[simp] theorem withUart_trace (uart : Uart) : (w.withUart uart).trace = w.trace := rfl
@[simp] theorem withUart_hw (uart : Uart) : (w.withUart uart).hw = w.hw := rfl
@[simp] theorem withUart_value (uart : Uart) (r : Register) : (w.withUart uart).value env r = w.value env r := rfl
@[simp] theorem withStore_uart (store : Store) : (w.withStore store).uart = w.uart := rfl
@[simp] theorem withStore_store (store : Store) : (w.withStore store).store = store := rfl
@[simp] theorem withStore_trace (store : Store) : (w.withStore store).trace = w.trace := rfl
@[simp] theorem withStore_hw (store : Store) : (w.withStore store).hw = w.hw := rfl
@[simp] theorem withStore_value (store : Store) (r : Register) : (w.withStore store).value env r = w.value env r := rfl
@[simp] theorem calling_uart (hook : Hook) (c : Callback) (arg : Arg) : (w.calling hook c arg).uart = w.uart := rfl
@[simp] theorem calling_store (hook : Hook) (c : Callback) (arg : Arg) : (w.calling hook c arg).store = w.store := rfl
@[simp] theorem calling_trace (hook : Hook) (c : Callback) (arg : Arg) :
    (w.calling hook c arg).trace = w.trace ++ [.called hook c arg w.uart w.store] := rfl
@[simp] theorem calling_hw (hook : Hook) (c : Callback) (arg : Arg) : (w.calling hook c arg).hw = w.hw := rfl

@[simp] theorem afterPush_uart (fifo : FifoRef) (data : Byte) : (w.afterPush fifo data).uart = w.uart := by
  unfold afterPush
  split <;> rfl

@[simp] theorem afterPush_store (fifo : FifoRef) (data : Byte) :
    (w.afterPush fifo data).store = (w.store.push fifo data).2 := by
  unfold afterPush
  split <;> rfl

@[simp] theorem afterPush_hw (fifo : FifoRef) (data : Byte) : (w.afterPush fifo data).hw = w.hw := by
  unfold afterPush
  split <;> rfl

@[simp] theorem afterPull_uart (fifo : FifoRef) (data : Byte) : (w.afterPull fifo data).uart = w.uart := by
  unfold afterPull
  split <;> rfl

@[simp] theorem afterPull_store (fifo : FifoRef) (data : Byte) :
    (w.afterPull fifo data).store = (w.store.pull fifo data).2.2 := by
  unfold afterPull
  split <;> rfl

@[simp] theorem afterPull_hw (fifo : FifoRef) (data : Byte) : (w.afterPull fifo data).hw = w.hw := by
  unfold afterPull
  split <;> rfl

theorem afterPush_room {q : FifoRef} (room : (w.store.fifo q).isFull = false) (data : Byte) :
    (w.afterPush q data).trace = w.trace ++ [.pushed q data] := by
  simp [afterPush, Store.push_accepted room]

theorem afterPush_full {q : FifoRef} (full : (w.store.fifo q).isFull = true) (data : Byte) : w.afterPush q data = w := by
  rw [afterPush, Store.push_full full]
  rfl

theorem afterPull_held {q : FifoRef} (held : (w.store.fifo q).isEmpty = false) (data : Byte) :
    (w.afterPull q data).trace = w.trace ++ [.pulled q (w.store.pull q data).2.1] := by
  simp [afterPull, Store.pull_delivered held]

theorem afterPull_empty {q : FifoRef} (empty : (w.store.fifo q).isEmpty = true) (data : Byte) :
    w.afterPull q data = w := by
  rw [afterPull, Store.pull_empty empty]
  rfl

@[simp] theorem masked_uart (enabled : Bool) : (w.masked enabled).uart = w.uart := rfl
@[simp] theorem masked_store (enabled : Bool) : (w.masked enabled).store = w.store := rfl
@[simp] theorem masked_trace (enabled : Bool) : (w.masked enabled).trace = w.trace := rfl
@[simp] theorem masked_hw (enabled : Bool) : (w.masked enabled).hw = w.hw := rfl
@[simp] theorem masked_value (enabled : Bool) (r : Register) : (w.masked enabled).value env r = w.value env r := rfl

end World

/-- `uart->reg->...` read. -/
def readRegister (env : Env σ) (r : Register) : Driver σ Word :=
  act fun w => (w.value env r, w.afterRead env r)

/-- `uart->reg->... = value`. -/
def writeRegister (env : Env σ) (r : Register) (value : Word) : Driver σ Unit :=
  act fun w => ((), w.afterWrite env r value)

/-- `uint8_t data = uart->reg->data`. -/
def readData (env : Env σ) : Driver σ Byte := do
  let value ← readRegister env .data
  pure (value.setWidth 8)

/-- `uart->reg->data = data`, widened from `uint8_t`. -/
def writeData (env : Env σ) (data : Byte) : Driver σ Unit :=
  writeRegister env .data (data.setWidth 32)

/-- The descriptor as it stands. -/
def descriptor : Driver σ Uart :=
  act fun w => (w.uart, w)

def modifyDescriptor (f : Uart → Uart) : Driver σ Unit :=
  act fun w => ((), w.withUart (f w.uart))

/-- `rtems_interrupt_vector_enable(interruptNumber(uart->id))`. -/
def vectorEnable : Driver σ Unit :=
  act fun w => ((), w.masked true)

/-- `rtems_interrupt_vector_disable(interruptNumber(uart->id))`. -/
def vectorDisable : Driver σ Unit :=
  act fun w => ((), w.masked false)

/-- The queue behind a pointer. -/
def dereference : Option FifoRef → Driver σ FifoRef
  | some fifo => pure fifo
  | none => fault .nullDereference

def fifoIsEmpty (fifo : Option FifoRef) : Driver σ Bool := do
  let q ← dereference fifo
  act fun w => ((w.store.fifo q).isEmpty, w)

def fifoIsFull (fifo : Option FifoRef) : Driver σ Bool := do
  let q ← dereference fifo
  act fun w => ((w.store.fifo q).isFull, w)

def fifoGetCount (fifo : Option FifoRef) : Driver σ Word := do
  let q ← dereference fifo
  act fun w => ((w.store.fifo q).getCount, w)

def fifoPush (fifo : Option FifoRef) (data : Byte) : Driver σ Bool := do
  let q ← dereference fifo
  act fun w => ((w.store.push q data).1, w.afterPush q data)

/-- `ByteFifo_pull(fifo, &data)`: the result and `data`. -/
def fifoPull (fifo : Option FifoRef) (data : Byte) : Driver σ (Bool × Byte) := do
  let q ← dereference fifo
  act fun w => (((w.store.pull q data).1, (w.store.pull q data).2.1), w.withStore (w.store.pull q data).2.2)

/-- A callback of the driver is called. -/
def invoke (env : Env σ) (hook : Hook) (callback : Callback) (arg : Arg) : Driver σ Unit := do
  act fun w => ((), w.calling hook callback arg)
  match callback with
  | .emptyCallback => pure ()
  | .user function => env.callback function arg

section Rules

variable {may : Fault → Prop} (env : Env σ) (w : World σ)

@[simp] theorem wp_readRegister (r : Register) (Q : Word → World σ → Prop) :
    wp may (readRegister env r) Q w ↔ Q (w.value env r) (w.afterRead env r) := Iff.rfl

@[simp] theorem wp_writeRegister (r : Register) (value : Word) (Q : Unit → World σ → Prop) :
    wp may (writeRegister env r value) Q w ↔ Q () (w.afterWrite env r value) := Iff.rfl

@[simp] theorem wp_readData (Q : Byte → World σ → Prop) :
    wp may (readData env) Q w ↔ Q ((w.value env .data).setWidth 8) (w.afterRead env .data) := Iff.rfl

@[simp] theorem wp_writeData (data : Byte) (Q : Unit → World σ → Prop) :
    wp may (writeData env data) Q w ↔ Q () (w.afterWrite env .data (data.setWidth 32)) := Iff.rfl

@[simp] theorem wp_descriptor (Q : Uart → World σ → Prop) : wp may descriptor Q w ↔ Q w.uart w := Iff.rfl

@[simp] theorem wp_modifyDescriptor (f : Uart → Uart) (Q : Unit → World σ → Prop) :
    wp may (modifyDescriptor f) Q w ↔ Q () (w.withUart (f w.uart)) := Iff.rfl

@[simp] theorem wp_vectorEnable (Q : Unit → World σ → Prop) : wp may vectorEnable Q w ↔ Q () (w.masked true) := Iff.rfl

@[simp] theorem wp_vectorDisable (Q : Unit → World σ → Prop) :
    wp may vectorDisable Q w ↔ Q () (w.masked false) := Iff.rfl

@[simp] theorem wp_fifoIsEmpty (q : FifoRef) (Q : Bool → World σ → Prop) :
    wp may (fifoIsEmpty (some q)) Q w ↔ Q (w.store.fifo q).isEmpty w := Iff.rfl

@[simp] theorem wp_fifoIsFull (q : FifoRef) (Q : Bool → World σ → Prop) :
    wp may (fifoIsFull (some q)) Q w ↔ Q (w.store.fifo q).isFull w := Iff.rfl

@[simp] theorem wp_fifoGetCount (q : FifoRef) (Q : Word → World σ → Prop) :
    wp may (fifoGetCount (some q)) Q w ↔ Q (w.store.fifo q).getCount w := Iff.rfl

@[simp] theorem wp_fifoPush (q : FifoRef) (data : Byte) (Q : Bool → World σ → Prop) :
    wp may (fifoPush (some q) data) Q w ↔ Q (w.store.push q data).1 (w.afterPush q data) := Iff.rfl

@[simp] theorem wp_fifoPull (q : FifoRef) (data : Byte) (Q : Bool × Byte → World σ → Prop) :
    wp may (fifoPull (some q) data) Q w ↔
      Q ((w.store.pull q data).1, (w.store.pull q data).2.1) (w.withStore (w.store.pull q data).2.2) := Iff.rfl

@[simp] theorem wp_fifoPush_null (data : Byte) (Q : Bool → World σ → Prop) :
    wp may (fifoPush none data) Q w ↔ may .nullDereference := Iff.rfl

@[simp] theorem wp_fifoPull_null (data : Byte) (Q : Bool × Byte → World σ → Prop) :
    wp may (fifoPull none data) Q w ↔ may .nullDereference := Iff.rfl

/-- The functions of the caller relate the worlds around them by `E`, and so
does the empty callback. -/
structure Callbacks (may : Fault → Prop) (env : Env σ) (E : World σ → World σ → Prop) : Prop where
  refl : ∀ w, E w w
  user : ∀ function arg w, wp may (env.callback function arg) (fun _ w' => E w w') w

variable {env w}

theorem wp_invoke {E : World σ → World σ → Prop} (callbacks : Callbacks may env E) {hook : Hook} {callback : Callback}
    {arg : Arg} {Q : Unit → World σ → Prop} (post : ∀ w', E (w.calling hook callback arg) w' → Q () w') :
    wp may (invoke env hook callback arg) Q w := by
  cases callback with
  | emptyCallback => exact post _ (callbacks.refl _)
  | user function =>
    have after := callbacks.user function arg (w.calling hook (.user function) arg)
    exact wp_mono after fun _ w' related => post w' related

end Rules

end Leon3Bsp.Uart
