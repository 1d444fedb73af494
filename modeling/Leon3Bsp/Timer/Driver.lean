import Leon3Bsp.Lib.Wp
import Leon3Bsp.Rtems
import Leon3Bsp.Timer.Registers

/-!
# `Timer_private.c` and `Timer.c`: the driver

The functions of the driver as programs on the caller's descriptors, the state
of RTEMS and the device. None of them can fault. Each function of `Timer.c`
exists for both groups of timers with the same text, and is one program here.
-/

namespace Leon3Bsp.Timer
set_option autoImplicit false
open Wp

/-- The address of a descriptor. -/
abbrev TimerRef := Nat

structure World (σ : Type) where
  timers : TimerRef → Timer
  rtems : Rtems
  hw : σ

variable {σ : Type}

/-- Descriptors of zeros, every vector disabled and empty. -/
def World.blank (hw : σ) : World σ :=
  ⟨fun _ => ⟨.id0, 0, 0, ⟨0, 0⟩⟩, .idle, hw⟩

abbrev Driver (σ α : Type) := Program Empty (World σ) α

namespace World

variable (w : World σ) (device : Device σ)

/-- The value a register reads as. -/
def value (r : Register) : Word :=
  (device.read r w.hw).1

def afterRead (r : Register) : World σ :=
  { w with hw := (device.read r w.hw).2 }

def afterWrite (r : Register) (value : Word) : World σ :=
  { w with hw := device.write r value w.hw }

def withTimer (timer : TimerRef) (descriptor : Timer) : World σ :=
  { w with timers := Function.update w.timers timer descriptor }

def withRtems (rtems : Rtems) : World σ :=
  { w with rtems }

@[simp] theorem afterRead_timers (r : Register) : (w.afterRead device r).timers = w.timers := rfl
@[simp] theorem afterRead_rtems (r : Register) : (w.afterRead device r).rtems = w.rtems := rfl
@[simp] theorem afterRead_hw (r : Register) : (w.afterRead device r).hw = (device.read r w.hw).2 := rfl
@[simp] theorem afterWrite_timers (r : Register) (v : Word) : (w.afterWrite device r v).timers = w.timers := rfl
@[simp] theorem afterWrite_rtems (r : Register) (v : Word) : (w.afterWrite device r v).rtems = w.rtems := rfl
@[simp] theorem afterWrite_hw (r : Register) (v : Word) : (w.afterWrite device r v).hw = device.write r v w.hw := rfl
@[simp] theorem withTimer_timers (timer : TimerRef) (descriptor : Timer) :
    (w.withTimer timer descriptor).timers = Function.update w.timers timer descriptor := rfl
@[simp] theorem withTimer_rtems (timer : TimerRef) (descriptor : Timer) :
    (w.withTimer timer descriptor).rtems = w.rtems := rfl
@[simp] theorem withTimer_hw (timer : TimerRef) (descriptor : Timer) : (w.withTimer timer descriptor).hw = w.hw := rfl
@[simp] theorem withRtems_timers (rtems : Rtems) : (w.withRtems rtems).timers = w.timers := rfl
@[simp] theorem withRtems_rtems (rtems : Rtems) : (w.withRtems rtems).rtems = rtems := rfl
@[simp] theorem withRtems_hw (rtems : Rtems) : (w.withRtems rtems).hw = w.hw := rfl

end World

section Primitives

variable (device : Device σ)

def readRegister (r : Register) : Driver σ Word :=
  act fun w => (w.value device r, w.afterRead device r)

def writeRegister (r : Register) (value : Word) : Driver σ Unit :=
  act fun w => ((), w.afterWrite device r value)

/-- `*timer`. -/
def descriptor (timer : TimerRef) : Driver σ Timer :=
  act fun w => (w.timers timer, w)

def modifyDescriptor (timer : TimerRef) (f : Timer → Timer) : Driver σ Unit :=
  act fun w => ((), w.withTimer timer (f (w.timers timer)))

/-- A service of RTEMS. -/
def rtems (f : Rtems → Rtems) : Driver σ Unit :=
  act fun w => ((), w.withRtems (f w.rtems))

def vectorEnable (vector : Nat) : Driver σ Unit :=
  rtems fun s => s.vectorEnable vector

def vectorDisable (vector : Nat) : Driver σ Unit :=
  rtems fun s => s.vectorDisable vector

/-- `&timer->rtemsInterruptEntry`: a descriptor has one entry. -/
def rtemsInterruptEntry (timer : TimerRef) : EntryRef :=
  timer

end Primitives

section Rules

variable {may : Empty → Prop} (device : Device σ) (w : World σ)

@[simp] theorem wp_readRegister (r : Register) (Q : Word → World σ → Prop) :
    wp may (readRegister device r) Q w ↔ Q (w.value device r) (w.afterRead device r) := Iff.rfl

@[simp] theorem wp_writeRegister (r : Register) (value : Word) (Q : Unit → World σ → Prop) :
    wp may (writeRegister device r value) Q w ↔ Q () (w.afterWrite device r value) := Iff.rfl

@[simp] theorem wp_descriptor (timer : TimerRef) (Q : Timer → World σ → Prop) :
    wp may (descriptor timer) Q w ↔ Q (w.timers timer) w := Iff.rfl

@[simp] theorem wp_modifyDescriptor (timer : TimerRef) (f : Timer → Timer) (Q : Unit → World σ → Prop) :
    wp may (modifyDescriptor timer f) Q w ↔ Q () (w.withTimer timer (f (w.timers timer))) := Iff.rfl

@[simp] theorem wp_rtems (f : Rtems → Rtems) (Q : Unit → World σ → Prop) :
    wp may (rtems f) Q w ↔ Q () (w.withRtems (f w.rtems)) := Iff.rfl

@[simp] theorem wp_vectorEnable (vector : Nat) (Q : Unit → World σ → Prop) :
    wp may (vectorEnable vector) Q w ↔ Q () (w.withRtems (w.rtems.vectorEnable vector)) := Iff.rfl

@[simp] theorem wp_vectorDisable (vector : Nat) (Q : Unit → World σ → Prop) :
    wp may (vectorDisable vector) Q w ↔ Q () (w.withRtems (w.rtems.vectorDisable vector)) := Iff.rfl

end Rules

section Private

variable (device : Device σ)

/-- `Timer_setFlag`. -/
def setFlag (timerRegister : Register) (isSet : Bool) (flag : Nat) : Driver σ Unit := do
  let value ← readRegister device timerRegister
  writeRegister device timerRegister (withFlag value isSet flag)

/-- `Timer_baseInit`. -/
def baseInit (baseConfigurationRegister : Register) : Driver σ Unit := do
  setFlag device baseConfigurationRegister true Configuration.DF
  setFlag device baseConfigurationRegister true Configuration.SI

/-- `Timer_setConfigRegisters`. -/
def setConfigRegisters (timerControlRegister timerReloadRegister : Register) (config : Config) : Driver σ Unit := do
  setFlag device timerControlRegister config.isEnabled Control.EN
  setFlag device timerControlRegister config.isInterruptEnabled Control.IE
  setFlag device timerControlRegister config.isAutoReloaded Control.RS
  setFlag device timerControlRegister config.isChained Control.CH
  writeRegister device timerReloadRegister config.reloadValue

/-- `Timer_getConfigRegisters`. -/
def getConfigRegisters (timerControlRegister timerReloadRegister : Word) : Config where
  isEnabled := getFlag timerControlRegister Control.EN
  isInterruptEnabled := getFlag timerControlRegister Control.IE
  isAutoReloaded := getFlag timerControlRegister Control.RS
  isChained := getFlag timerControlRegister Control.CH
  reloadValue := timerReloadRegister

/-- `Timer_start`. -/
def start (timerControlRegister : Register) : Driver σ Unit := do
  setFlag device timerControlRegister true Control.LD
  setFlag device timerControlRegister true Control.EN

/-- `Timer_stop`. -/
def stop (timerControlRegister : Register) : Driver σ Unit :=
  setFlag device timerControlRegister false Control.EN

/-- `Timer_hasFinished`. -/
def hasFinished (timerControlRegister timerCounterRegister : Word) : Bool :=
  !getFlag timerControlRegister Control.EN && timerCounterRegister = UNDERFLOWED

/-- `irqInit`. -/
def irqInit (entry : EntryRef) (irqNumber : Nat) : Driver σ Unit := do
  rtems fun s => s.interruptClear irqNumber
  rtems fun s => s.entryInstall irqNumber entry
  vectorEnable irqNumber

/-- `irqDeinit`. -/
def irqDeinit (entry : EntryRef) (irqNumber : Nat) : Driver σ Unit := do
  vectorDisable irqNumber
  rtems fun s => s.entryRemove irqNumber entry

end Private

namespace Group

variable (group : Group) (device : Device σ)

/-- `Timer_Apbctrl…_init`. -/
def init (id : Id) (timer : TimerRef) (handler : InterruptHandler) : Driver σ Unit := do
  modifyDescriptor timer fun t => { t with base := group.addressBase, regs := group.addressById id }
  baseInit device ⟨group.addressBase, .configuration⟩
  modifyDescriptor timer fun t => { t with id, irqHandler := handler }
  writeRegister device ⟨group.addressById id, .control⟩ 0
  writeRegister device ⟨group.addressById id, .counter⟩ 0
  writeRegister device ⟨group.addressById id, .reload⟩ 0
  irqInit (rtemsInterruptEntry timer) (group.interruptNumber id)

/-- `Timer_Apbctrl…_setBaseScalerReloadValue`. -/
def setBaseScalerReloadValue (timer : TimerRef) (scalerReloadValue : BitVec group.scalerBits) : Driver σ Unit := do
  let t ← descriptor timer
  writeRegister device ⟨t.base, .scalerReload⟩ (scalerReloadValue.setWidth 32)
  writeRegister device ⟨t.base, .scaler⟩ (scalerReloadValue.setWidth 32)

/-- `Timer_Apbctrl…_setConfigRegisters`. -/
def setConfigRegisters (timer : TimerRef) (config : Config) : Driver σ Unit := do
  let t ← descriptor timer
  vectorDisable (group.interruptNumber t.id)
  Timer.setConfigRegisters device ⟨t.regs, .control⟩ ⟨t.regs, .reload⟩ config
  vectorEnable (group.interruptNumber t.id)

/-- `Timer_Apbctrl…_getConfigRegisters`. -/
def getConfigRegisters (timer : TimerRef) : Driver σ Config := do
  let t ← descriptor timer
  let control ← readRegister device ⟨t.regs, .control⟩
  let reload ← readRegister device ⟨t.regs, .reload⟩
  pure (Timer.getConfigRegisters control reload)

/-- `Timer_Apbctrl…_start`. -/
def start (timer : TimerRef) : Driver σ Unit := do
  let t ← descriptor timer
  vectorDisable (group.interruptNumber t.id)
  Timer.start device ⟨t.regs, .control⟩
  vectorEnable (group.interruptNumber t.id)

/-- `Timer_Apbctrl…_stop`: the vector stays disabled. -/
def stop (timer : TimerRef) : Driver σ Unit := do
  let t ← descriptor timer
  vectorDisable (group.interruptNumber t.id)
  Timer.stop device ⟨t.regs, .control⟩

/-- `Timer_Apbctrl…_shutdown`. -/
def shutdown (timer : TimerRef) : Driver σ Unit := do
  let t ← descriptor timer
  vectorDisable (group.interruptNumber t.id)
  Timer.stop device ⟨t.regs, .control⟩
  irqDeinit (rtemsInterruptEntry timer) (group.interruptNumber t.id)

/-- `Timer_Apbctrl…_getCounterValue`. -/
def getCounterValue (timer : TimerRef) : Driver σ Word := do
  let t ← descriptor timer
  readRegister device ⟨t.regs, .counter⟩

/-- `Timer_Apbctrl…_hasFinished`. -/
def hasFinished (timer : TimerRef) : Driver σ Bool := do
  let t ← descriptor timer
  let control ← readRegister device ⟨t.regs, .control⟩
  let counter ← readRegister device ⟨t.regs, .counter⟩
  pure (Timer.hasFinished control counter)

end Group

/-! The functions of `Timer.c` by their own names. -/

namespace Apbctrl1

variable (device : Device σ) (timer : TimerRef)

def init (id : Id) (handler : InterruptHandler) : Driver σ Unit :=
  apbctrl1.init device id timer handler

def setBaseScalerReloadValue (scalerReloadValue : BitVec 16) : Driver σ Unit :=
  apbctrl1.setBaseScalerReloadValue device timer scalerReloadValue

def setConfigRegisters (config : Config) : Driver σ Unit :=
  apbctrl1.setConfigRegisters device timer config

def getConfigRegisters : Driver σ Config :=
  Group.getConfigRegisters device timer

def start : Driver σ Unit :=
  apbctrl1.start device timer

def stop : Driver σ Unit :=
  apbctrl1.stop device timer

def shutdown : Driver σ Unit :=
  apbctrl1.shutdown device timer

def getCounterValue : Driver σ Word :=
  Group.getCounterValue device timer

def hasFinished : Driver σ Bool :=
  Group.hasFinished device timer

end Apbctrl1

namespace Apbctrl2

variable (device : Device σ) (timer : TimerRef)

def init (id : Id) (handler : InterruptHandler) : Driver σ Unit :=
  apbctrl2.init device id timer handler

def setBaseScalerReloadValue (scalerReloadValue : BitVec 8) : Driver σ Unit :=
  apbctrl2.setBaseScalerReloadValue device timer scalerReloadValue

def setConfigRegisters (config : Config) : Driver σ Unit :=
  apbctrl2.setConfigRegisters device timer config

def getConfigRegisters : Driver σ Config :=
  Group.getConfigRegisters device timer

def start : Driver σ Unit :=
  apbctrl2.start device timer

def stop : Driver σ Unit :=
  apbctrl2.stop device timer

def shutdown : Driver σ Unit :=
  apbctrl2.shutdown device timer

def getCounterValue : Driver σ Word :=
  Group.getCounterValue device timer

def hasFinished : Driver σ Bool :=
  Group.hasFinished device timer

end Apbctrl2

end Leon3Bsp.Timer
