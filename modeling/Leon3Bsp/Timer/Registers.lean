import Mathlib.Logic.Function.Basic
import Leon3Bsp.Lib.Bits
import Leon3Bsp.Utils.ByteFifo

/-!
# `TimerTypedefs.h`: registers and descriptors of the timers

A register is a field of the block that a descriptor points to. An access may
change the device, and so does a tick of the scaler; what a result assumes of
the device is stated with the result.
-/

namespace Leon3Bsp
set_option autoImplicit false

namespace Timer

/-- The fields the driver accesses, of the base registers of a group and of the
registers of a timer. -/
inductive Field
  | scaler | scalerReload | configuration
  | counter | reload | control
  deriving DecidableEq, Repr

/-- `pointer->field`. -/
structure Register where
  pointer : Nat
  field : Field
  deriving DecidableEq, Repr

structure Device (σ : Type) where
  read : Register → σ → Word × σ
  write : Register → Word → σ → σ
  /-- The scaler ticks. -/
  tick : σ → σ

/-- A device that is all plain memory: its timers stand still. -/
def registerFile : Device (Register → Word) where
  read r s := (s r, s)
  write r value s := Function.update s r value
  tick s := s

namespace Control

def EN : Nat := 0
def RS : Nat := 1
def LD : Nat := 2
def IE : Nat := 3
def CH : Nat := 5

end Control

namespace Configuration

def SI : Nat := 8
def DF : Nat := 9

end Configuration

/-- `TIMER_FLAG_MASK`. -/
def FLAG_MASK : Word := 1

/-- `TIMER_UNDERFLOWED`. -/
def UNDERFLOWED : Word := 0xFFFFFFFF

/-- `Timer_getFlag`. -/
def getFlag (timerRegister : Word) (flag : Nat) : Bool :=
  (timerRegister >>> flag) &&& FLAG_MASK != 0

/-- The value `Timer_setFlag` writes back. -/
def withFlag (timerRegister : Word) (isSet : Bool) (flag : Nat) : Word :=
  if isSet then timerRegister ||| (FLAG_MASK <<< flag) else timerRegister &&& ~~~(FLAG_MASK <<< flag)

theorem getFlag_withFlag (timerRegister : Word) (isSet : Bool) {flag : Nat} (inside : flag < 32) (other : Nat) :
    getFlag (withFlag timerRegister isSet flag) other = if other = flag then isSet else getFlag timerRegister other := by
  have read (value : Word) (bit : Nat) : getFlag value bit = value.getLsbD bit := Bits.test_eq value bit
  rw [read, read]
  exact Bits.getLsbD_assign timerRegister isSet inside other

/-- `Timer_Id`. -/
inductive Id
  | id0 | id1 | id2 | id3 | id4
  | max
  deriving DecidableEq, Repr

/-- `Timer_Config`. -/
structure Config where
  isInterruptEnabled : Bool
  isEnabled : Bool
  isAutoReloaded : Bool
  isChained : Bool
  reloadValue : Word
  deriving DecidableEq, Repr

/-- `Timer_InterruptHandler`, a function of the caller and its argument. -/
structure InterruptHandler where
  callback : Nat
  arg : Nat
  deriving DecidableEq, Repr

end Timer

/-- `Timer_Apbctrl1` and `Timer_Apbctrl2`, which have the same fields. The
interrupt entry in it is known to RTEMS by its address. -/
structure Timer where
  id : Timer.Id
  base : Nat
  regs : Nat
  irqHandler : Timer.InterruptHandler
  deriving DecidableEq, Repr

namespace Timer

/-- The two families of timers, `Apbctrl1` and `Apbctrl2`. -/
structure Group where
  addressBase : Nat
  addressById : Id → Nat
  interruptNumber : Id → Nat
  /-- The width of the value that the scaler is set to. -/
  scalerBits : Nat

/-- `getApbctrl1TimerAddressById`, `Timer_getApbctrl1InterruptNumber`. -/
def apbctrl1 : Group where
  addressBase := 0x80000300
  addressById
    | .id1 => 0x80000310
    | .id2 => 0x80000320
    | .id3 => 0x80000330
    | .id4 => 0x80000340
    | _ => 0xFFFFFFFF
  interruptNumber
    | .id1 => 8
    | .id2 => 9
    | .id3 => 10
    | .id4 => 11
    | _ => 0xFF
  scalerBits := 16

/-- `getApbctrl2TimerAddressById`, `Timer_getApbctrl2InterruptNumber`: both
timers have one vector. -/
def apbctrl2 : Group where
  addressBase := 0x80100600
  addressById
    | .id1 => 0x80100610
    | .id2 => 0x80100620
    | _ => 0xFFFFFFFF
  interruptNumber
    | .id1 => 7
    | .id2 => 7
    | _ => 0xFF
  scalerBits := 8

end Timer

end Leon3Bsp
