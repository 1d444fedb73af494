import Leon3Bsp.Lib.Bits
import Leon3Bsp.Utils.ByteFifo

/-!
# `UartRegisters`: the device registers

A register access may change the device, so a read returns the value and the
device after it. A device is any such machine; what a result assumes of it is
stated with the result.
-/

namespace Leon3Bsp.Uart
set_option autoImplicit false

/-- The registers the driver accesses, at their offsets in `UartRegisters_t`. -/
inductive Register
  | data
  | status
  | control
  | clkscl
  deriving DecidableEq, Repr

structure Device (σ : Type) where
  read : Register → σ → Word × σ
  write : Register → Word → σ → σ
  /-- A byte arrives on the line. -/
  arrive : Byte → σ → σ

namespace Status

def DR : Nat := 0
def TS : Nat := 1
def OV : Nat := 4
def PE : Nat := 5
def FE : Nat := 6
def RF : Nat := 10

end Status

namespace Control

def RE : Nat := 0
def TE : Nat := 1
def RI : Nat := 2
def TI : Nat := 3
def PS : Nat := 4
def PE : Nat := 5
def LB : Nat := 7
def TF : Nat := 9
def RF : Nat := 10

end Control

/-- `UART_FLAG_MASK`. -/
def FLAG_MASK : Word := 1

/-- `Uart_getFlag`. -/
def getFlag (uartRegister : Word) (flag : Nat) : Bool :=
  (uartRegister >>> flag) &&& FLAG_MASK != 0

/-- The value `Uart_setFlag` writes back. -/
def withFlag (uartRegister : Word) (isSet : Bool) (flag : Nat) : Word :=
  if isSet then uartRegister ||| (FLAG_MASK <<< flag) else uartRegister &&& ~~~(FLAG_MASK <<< flag)

/-- A flag is a bit of its register. -/
theorem getFlag_eq (uartRegister : Word) (flag : Nat) : getFlag uartRegister flag = uartRegister.getLsbD flag :=
  Bits.test_eq uartRegister flag

theorem getFlag_withFlag (uartRegister : Word) (isSet : Bool) {flag : Nat} (inside : flag < 32) (other : Nat) :
    getFlag (withFlag uartRegister isSet flag) other = if other = flag then isSet else getFlag uartRegister other := by
  rw [getFlag_eq, getFlag_eq]
  exact Bits.getLsbD_assign uartRegister isSet inside other

end Leon3Bsp.Uart
