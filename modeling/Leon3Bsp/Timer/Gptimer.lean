import Mathlib.Logic.Function.Iterate
import Leon3Bsp.Timer.System

/-!
# `GPTIMER`: the hardware behind a timer

One timer of the device, with a log of what it did. A tick counts down an
enabled timer, and underflows at zero; a control word with the load bit copies
the reload register into the counter, and the bit reads back as zero.
-/

namespace Leon3Bsp.Timer
set_option autoImplicit false

/-- What the hardware does: the counter is loaded, a tick passes, a tick
underflows and raises the interrupt or not. -/
inductive HwEvent
  | loaded
  | ticked
  | underflowed (interrupt : Bool)
  deriving DecidableEq, Repr

structure Gptimer where
  counter : Word
  reload : Word
  control : Word
  log : List HwEvent
  deriving DecidableEq

namespace Gptimer

def underflow (g : Gptimer) : Gptimer :=
  if getFlag g.control Control.RS then
    { g with counter := g.reload, log := g.log ++ [.underflowed (getFlag g.control Control.IE)] }
  else
    { g with
      counter := 0xFFFFFFFF
      control := withFlag g.control false Control.EN
      log := g.log ++ [.underflowed (getFlag g.control Control.IE)] }

def tick (g : Gptimer) : Gptimer :=
  if getFlag g.control Control.EN then
    if g.counter = 0 then g.underflow
    else { g with counter := g.counter - 1, log := g.log ++ [.ticked] }
  else { g with log := g.log ++ [.ticked] }

def ticks (n : Nat) (g : Gptimer) : Gptimer :=
  tick^[n] g

def writeControl (value : Word) (g : Gptimer) : Gptimer :=
  if getFlag value Control.LD then
    { g with counter := g.reload, control := withFlag value false Control.LD, log := g.log ++ [.loaded] }
  else { g with control := value }

def read (g : Gptimer) : Field → Word
  | .counter => g.counter
  | .reload => g.reload
  | .control => g.control
  | _ => 0

def write (g : Gptimer) (value : Word) : Field → Gptimer
  | .counter => { g with counter := value }
  | .reload => { g with reload := value }
  | .control => g.writeControl value
  | _ => g

/-- The device of which the timer with the registers at `regs` is looked at. -/
def device (regs : Nat) : Device Gptimer where
  read r g := (if r.pointer = regs then g.read r.field else 0, g)
  write r value g := if r.pointer = regs then g.write value r.field else g
  tick := tick

/-- A stopped timer lets ticks pass. -/
theorem tick_stopped {g : Gptimer} (stopped : getFlag g.control Control.EN = false) :
    g.tick = { g with log := g.log ++ [.ticked] } := by
  simp [tick, stopped]

theorem tick_counting {g : Gptimer} (enabled : getFlag g.control Control.EN = true) (left : g.counter ≠ 0) :
    g.tick = { g with counter := g.counter - 1, log := g.log ++ [.ticked] } := by
  rw [tick, if_pos enabled, if_neg left]

theorem tick_expired {g : Gptimer} (enabled : getFlag g.control Control.EN = true) (expired : g.counter = 0) :
    g.tick = g.underflow := by
  rw [tick, if_pos enabled, if_pos expired]

/-- An underflow of a timer that is not reloaded. -/
theorem underflow_once {g : Gptimer} (once : getFlag g.control Control.RS = false) : g.underflow =
    { g with
      counter := 0xFFFFFFFF
      control := withFlag g.control false Control.EN
      log := g.log ++ [.underflowed (getFlag g.control Control.IE)] } := by
  simp [underflow, once]

@[simp] theorem underflow_log (g : Gptimer) :
    g.underflow.log = g.log ++ [.underflowed (getFlag g.control Control.IE)] := by
  unfold underflow
  split <;> rfl

@[simp] theorem underflow_reload (g : Gptimer) : g.underflow.reload = g.reload := by
  unfold underflow
  split <;> rfl

@[simp] theorem tick_reload (g : Gptimer) : g.tick.reload = g.reload := by
  unfold tick
  split
  · split
    · exact g.underflow_reload
    · rfl
  · rfl

/-- A tick changes no bit of the control register but `EN`. -/
theorem tick_flag (g : Gptimer) {flag : Nat} (other : flag ≠ Control.EN) :
    getFlag g.tick.control flag = getFlag g.control flag := by
  have cleared : getFlag (withFlag g.control false Control.EN) flag = getFlag g.control flag := by
    rw [getFlag_withFlag _ _ (by decide), if_neg other]
  unfold tick underflow
  split
  · split
    · split
      · rfl
      · exact cleared
    · rfl
  · rfl

/-- A control word without the load bit is stored. -/
theorem writeControl_plain {value : Word} (plain : getFlag value Control.LD = false) (g : Gptimer) :
    g.writeControl value = { g with control := value } := by
  simp [writeControl, plain]

theorem writeControl_load {value : Word} (load : getFlag value Control.LD = true) (g : Gptimer) :
    g.writeControl value =
      { g with counter := g.reload, control := withFlag value false Control.LD, log := g.log ++ [.loaded] } := by
  simp [writeControl, load]

theorem ticks_succ (n : Nat) (g : Gptimer) : g.ticks (n + 1) = (g.ticks n).tick :=
  Function.iterate_succ_apply' tick n g

/-- What a tick keeps, ticks keep. -/
theorem ticks_keep {P : Gptimer → Prop} (kept : ∀ g, P g → P g.tick) {g : Gptimer} (holds : P g) (n : Nat) :
    P (g.ticks n) := by
  induction n with
  | zero => exact holds
  | succ n ih =>
    rw [ticks_succ]
    exact kept _ ih

end Gptimer

end Leon3Bsp.Timer
