import Leon3Bsp.Lib.Assignments
import Leon3Bsp.Timer.Driver

/-!
# `Timer_setConfigRegisters`, `Timer_start` and `Timer_stop` on plain memory

The three operations share the control register through updates of single bits.
Each bit is a variable of its own that an operation assigns or leaves, so what
`Timer_getConfigRegisters` returns is said by the last assignments.
-/

namespace Leon3Bsp.Timer
set_option autoImplicit false
open Wp

variable {σ : Type}

/-- The registers in `memory` are plain memory: `content` is their value, which
only a write to them changes. -/
structure IsMemory (device : Device σ) (memory : Set Register) (content : σ → Register → Word) : Prop where
  value : ∀ r ∈ memory, ∀ s, (device.read r s).1 = content s r
  read : ∀ r s, ∀ r' ∈ memory, content (device.read r s).2 r' = content s r'
  written : ∀ r ∈ memory, ∀ v s, content (device.write r v s) r = v
  other : ∀ r v s, ∀ r' ∈ memory, r' ≠ r → content (device.write r v s) r' = content s r'

inductive Operation
  | setConfigRegisters (config : Config)
  | start
  | stop
  deriving DecidableEq

/-- A sequence of calls on the registers of one timer. -/
def operate (device : Device σ) (control reload : Register) : List Operation → Driver σ Unit
  | [] => pure ()
  | .setConfigRegisters config :: rest => do
    setConfigRegisters device control reload config
    operate device control reload rest
  | .start :: rest => do
    start device control
    operate device control reload rest
  | .stop :: rest => do
    stop device control
    operate device control reload rest

/-- One of the calls. -/
def operateOne (device : Device σ) (control reload : Register) : Operation → Driver σ Unit
  | .setConfigRegisters config => setConfigRegisters device control reload config
  | .start => start device control
  | .stop => stop device control

theorem operate_cons (device : Device σ) (control reload : Register) (op : Operation) (rest : List Operation) :
    operate device control reload (op :: rest) = (do operateOne device control reload op; operate device control reload rest) := by
  cases op <;> rfl

/-- `Timer_getConfigRegisters(*control, *reload, config)` after the calls. -/
def operateThenGet (device : Device σ) (control reload : Register) (ops : List Operation) : Driver σ Config := do
  operate device control reload ops
  let timerControlRegister ← readRegister device control
  let timerReloadRegister ← readRegister device reload
  pure (getConfigRegisters timerControlRegister timerReloadRegister)

/-- What an operation makes of the control register. -/
def operated (control : Word) : Operation → Word
  | .setConfigRegisters config =>
    let control := withFlag control config.isEnabled Control.EN
    let control := withFlag control config.isInterruptEnabled Control.IE
    let control := withFlag control config.isAutoReloaded Control.RS
    withFlag control config.isChained Control.CH
  | .start => withFlag (withFlag control true Control.LD) true Control.EN
  | .stop => withFlag control false Control.EN

/-- The configuration an operation sets. -/
def Operation.config : Operation → Option Config
  | .setConfigRegisters config => some config
  | _ => none

/-- The last configuration set. -/
def lastConfig (ops : List Operation) : Option Config :=
  (ops.filterMap Operation.config).getLast?

/-- Whether an operation leaves the timer enabled. -/
def Operation.isEnabled : Operation → Bool
  | .setConfigRegisters config => config.isEnabled
  | .start => true
  | .stop => false

/-- The bits of the control register the operations assign. -/
def assigned : List Nat :=
  [Control.EN, Control.RS, Control.LD, Control.IE, Control.CH]

/-- What an operation assigns to a bit of the control register. -/
def Operation.assigns (flag : Nat) : Operation → Option Bool
  | .setConfigRegisters config =>
    if flag = Control.EN then some config.isEnabled
    else if flag = Control.IE then some config.isInterruptEnabled
    else if flag = Control.RS then some config.isAutoReloaded
    else if flag = Control.CH then some config.isChained
    else none
  | .start => if flag = Control.EN ∨ flag = Control.LD then some true else none
  | .stop => if flag = Control.EN then some false else none

section Bits

variable (control : Word) (ops : List Operation) (flag : Nat)

/-- An operation is what it assigns. -/
theorem getFlag_operated (op : Operation) :
    getFlag (operated control op) flag = (op.assigns flag).getD (getFlag control flag) := by
  have en : Control.EN < 32 := by decide
  have rs : Control.RS < 32 := by decide
  have ld : Control.LD < 32 := by decide
  have ie : Control.IE < 32 := by decide
  have ch : Control.CH < 32 := by decide
  cases op with
  | setConfigRegisters config =>
    simp only [operated, getFlag_withFlag _ _ ch, getFlag_withFlag _ _ rs, getFlag_withFlag _ _ ie,
      getFlag_withFlag _ _ en, Operation.assigns]
    by_cases isEN : flag = Control.EN
    · subst isEN
      rfl
    by_cases isIE : flag = Control.IE
    · subst isIE
      rfl
    by_cases isRS : flag = Control.RS
    · subst isRS
      rfl
    by_cases isCH : flag = Control.CH
    · subst isCH
      rfl
    simp [isEN, isIE, isRS, isCH]
  | start =>
    simp only [operated, getFlag_withFlag _ _ en, getFlag_withFlag _ _ ld, Operation.assigns]
    by_cases isEN : flag = Control.EN
    · simp [isEN]
    · by_cases isLD : flag = Control.LD <;> simp [isEN, isLD]
  | stop =>
    simp only [operated, getFlag_withFlag _ _ en, Operation.assigns]
    by_cases isEN : flag = Control.EN <;> simp [isEN]

theorem getFlag_operations : getFlag (ops.foldl operated control) flag =
    Assignments.after (Operation.assigns flag) (getFlag control flag) ops := by
  induction ops using List.reverseRecOn with
  | nil => rfl
  | append_singleton ops op ih =>
    rw [List.foldl_append, List.foldl_cons, List.foldl_nil, getFlag_operated, ih, Assignments.after_snoc]

variable {ops} {flag}

/-- A bit that only the configuration assigns is that of the last one. -/
theorem getFlag_configured {field : Config → Bool} {config : Config} (last : lastConfig ops = some config)
    (assigns : ∀ op : Operation, op.assigns flag = op.config.map field) :
    getFlag (ops.foldl operated control) flag = field config := by
  have same : ops.filterMap (Operation.assigns flag) = (ops.filterMap Operation.config).map field := by
    rw [List.map_filterMap]
    exact congrArg ops.filterMap (funext assigns)
  rw [getFlag_operations, Assignments.after_eq, same, List.getLast?_map]
  rw [lastConfig] at last
  rw [last]
  rfl

/-- Every operation assigns the enable bit, so the last one decides it. -/
theorem getFlag_enabled (op : Operation) :
    getFlag ((ops ++ [op]).foldl operated control) Control.EN = op.isEnabled := by
  rw [getFlag_operations, Assignments.after_snoc]
  cases op <;> rfl

/-- The load bit is set by a start and never cleared. -/
theorem getFlag_loaded : getFlag (ops.foldl operated control) Control.LD = true ↔
    getFlag control Control.LD = true ∨ Operation.start ∈ ops := by
  have sets (op : Operation) : op.assigns Control.LD = if op = .start then some true else none := by
    cases op <;> rfl
  rw [getFlag_operations, Assignments.after_set_iff fun op _ => by rw [sets]; split <;> simp]
  simp [sets]

theorem getFlag_unassigned (outside : flag ∉ assigned) :
    getFlag (ops.foldl operated control) flag = getFlag control flag := by
  simp only [assigned, List.mem_cons, List.not_mem_nil, or_false, not_or] at outside
  obtain ⟨en, rs, ld, ie, ch⟩ := outside
  rw [getFlag_operations]
  apply Assignments.after_unassigned
  intro op _
  cases op <;> simp [Operation.assigns, en, rs, ld, ie, ch]

end Bits

/-- The reload register after the operations is that of the last configuration. -/
theorem reload_configured {ops : List Operation} {config : Config} (last : lastConfig ops = some config) (reload : Word) :
    Assignments.after (fun op : Operation => op.config.map Config.reloadValue) reload ops = config.reloadValue := by
  rw [Assignments.after_eq, ← List.map_filterMap, List.getLast?_map]
  rw [lastConfig] at last
  rw [last]
  rfl

section Memory

variable {device : Device σ} {control reload : Register} {content : σ → Register → Word} {may : Empty → Prop}
  {w : World σ}

theorem wp_setFlag (memory : IsMemory device {control, reload} content) (apart : reload ≠ control) {isSet : Bool}
    {flag : Nat} {Q : Unit → World σ → Prop}
    (post : ∀ w' : World σ, content w'.hw control = withFlag (content w.hw control) isSet flag →
      content w'.hw reload = content w.hw reload → Q () w') :
    wp may (setFlag device control isSet flag) Q w := by
  have isControl : control ∈ ({control, reload} : Set Register) := Or.inl rfl
  have isReload : reload ∈ ({control, reload} : Set Register) := Or.inr rfl
  refine post ((w.afterRead device control).afterWrite device control _) ?_ ?_
  · rw [World.afterWrite_hw, memory.written _ isControl, World.value, memory.value _ isControl]
  · rw [World.afterWrite_hw, memory.other _ _ _ _ isReload apart, World.afterRead_hw, memory.read _ _ _ isReload]

/-- One call makes of the registers what it assigns. -/
theorem wp_operation (memory : IsMemory device {control, reload} content) (apart : reload ≠ control) (op : Operation)
    {Q : Unit → World σ → Prop}
    (post : ∀ w' : World σ, content w'.hw control = operated (content w.hw control) op →
      content w'.hw reload = (op.config.map Config.reloadValue).getD (content w.hw reload) → Q () w') :
    wp may (operateOne device control reload op) Q w := by
  cases op with
  | setConfigRegisters config =>
    simp only [operateOne, setConfigRegisters, wp_bind]
    apply wp_setFlag memory apart
    intro w₁ en kept₁
    apply wp_setFlag memory apart
    intro w₂ ie kept₂
    apply wp_setFlag memory apart
    intro w₃ rs kept₃
    apply wp_setFlag memory apart
    intro w₄ ch kept₄
    apply post (w₄.afterWrite device reload config.reloadValue)
    · rw [World.afterWrite_hw, memory.other _ _ _ _ (Or.inl rfl) apart.symm, ch, rs, ie, en]
      rfl
    · rw [World.afterWrite_hw, memory.written _ (Or.inr rfl)]
      rfl
  | start =>
    simp only [operateOne, start, wp_bind]
    apply wp_setFlag memory apart
    intro w₁ ld kept₁
    apply wp_setFlag memory apart
    intro w₂ en kept₂
    apply post
    · rw [en, ld]
      rfl
    · rw [kept₂, kept₁]
      rfl
  | stop =>
    simp only [operateOne, stop]
    apply wp_setFlag memory apart
    intro w₁ en kept
    apply post
    · rw [en]
      rfl
    · rw [kept]
      rfl

theorem wp_operate (memory : IsMemory device {control, reload} content) (apart : reload ≠ control)
    {ops : List Operation} {Q : Unit → World σ → Prop}
    (post : ∀ w' : World σ, content w'.hw control = ops.foldl operated (content w.hw control) →
      content w'.hw reload = Assignments.after (fun op : Operation => op.config.map Config.reloadValue)
        (content w.hw reload) ops → Q () w') :
    wp may (operate device control reload ops) Q w := by
  induction ops generalizing w with
  | nil => exact post w rfl rfl
  | cons op rest ih =>
    rw [operate_cons, wp_bind]
    apply wp_operation memory apart
    intro w₁ controls₁ reloads₁
    apply ih
    intro w₂ controls₂ reloads₂
    apply post
    · rw [controls₂, controls₁, List.foldl_cons]
    · rw [reloads₂, reloads₁]
      rfl

end Memory

/-- What the operations leave in the registers, and what is read back of them. -/
structure Survives (before after : Word) (read : Config) (ops : List Operation) : Prop where
  config : ∀ config, lastConfig ops = some config → read.isInterruptEnabled = config.isInterruptEnabled ∧
    read.isAutoReloaded = config.isAutoReloaded ∧ read.isChained = config.isChained ∧
    read.reloadValue = config.reloadValue
  enabled : ∀ op, ops.getLast? = some op → read.isEnabled = op.isEnabled
  load : getFlag after Control.LD = true ↔ getFlag before Control.LD = true ∨ .start ∈ ops
  others : ∀ flag ∉ assigned, getFlag after flag = getFlag before flag

/-- **The configuration survives** every sequence of operations on registers
that are plain memory. -/
theorem config_survives {device : Device σ} {control reload : Register} {content : σ → Register → Word}
    (memory : IsMemory device {control, reload} content) (apart : reload ≠ control) (ops : List Operation) (w : World σ) :
    ∃ read w', operateThenGet device control reload ops w = .ok (read, w') ∧
      Survives (content w.hw control) (content w'.hw control) read ops := by
  have isControl : control ∈ ({control, reload} : Set Register) := Or.inl rfl
  have isReload : reload ∈ ({control, reload} : Set Register) := Or.inr rfl
  apply wp_total
  rw [operateThenGet, wp_bind]
  apply wp_operate memory apart
  intro w₁ controls reloads
  show Survives _ (content (device.read reload (device.read control w₁.hw).2).2 control)
    (getConfigRegisters (device.read control w₁.hw).1 (device.read reload (device.read control w₁.hw).2).1) ops
  rw [memory.read _ _ _ isControl, memory.read _ _ _ isControl, memory.value _ isControl, memory.value _ isReload,
    memory.read _ _ _ isReload, controls, reloads]
  constructor
  · intro config last
    refine ⟨?_, ?_, ?_, reload_configured last _⟩
    · exact getFlag_configured _ last fun op => by cases op <;> rfl
    · exact getFlag_configured _ last fun op => by cases op <;> rfl
    · exact getFlag_configured _ last fun op => by cases op <;> rfl
  · intro op last
    obtain ⟨earlier, rfl⟩ := List.getLast?_eq_some_iff.1 last
    exact getFlag_enabled _ op
  · exact getFlag_loaded _
  · intro flag outside
    exact getFlag_unassigned _ outside

theorem registerFile_isMemory (memory : Set Register) : IsMemory registerFile memory fun s => s where
  value _ _ _ := rfl
  read _ _ _ _ := rfl
  written r _ v s := by
    show Function.update s r v r = v
    exact Function.update_self r v s
  other r v s r' _ apart := by
    show Function.update s r v r' = s r'
    exact Function.update_of_ne apart v s

/-- A timer is configured, started, configured again and stopped, its registers
all ones at first. -/
theorem config_survives_twice :
    let first : Config := ⟨true, true, true, true, 7⟩
    let last : Config := ⟨true, true, false, false, 9⟩
    ∃ read w', operateThenGet registerFile ⟨0x80000310, .control⟩ ⟨0x80000310, .reload⟩
        [.setConfigRegisters first, .start, .setConfigRegisters last, .stop]
        (World.blank fun _ => 0xFFFFFFFF) = .ok (read, w') ∧
      Survives 0xFFFFFFFF (w'.hw ⟨0x80000310, .control⟩) read
        [.setConfigRegisters first, .start, .setConfigRegisters last, .stop] :=
  have apart : (⟨0x80000310, .reload⟩ : Register) ≠ ⟨0x80000310, .control⟩ := by decide
  config_survives (registerFile_isMemory _) apart _ _

end Leon3Bsp.Timer
