import Leon3Bsp.Uart.Board

/-!
# `Uart_setConfig` and `Uart_getConfig` on the control register

`setConfig` is a sequence of single-bit updates. With the control register as
plain memory they compose to one function of its value, `configured`, which is
tabulated bit by bit; only parity enable and parity select are not assigned on
every branch.
-/

namespace Leon3Bsp.Uart
set_option autoImplicit false
open Wp

/-- The control register is plain memory: `control` is its value, which only a
write to it changes. -/
structure ControlIsMemory {σ : Type} (device : Device σ) (control : σ → Word) : Prop where
  value : ∀ s, (device.read .control s).1 = control s
  read : ∀ r s, control (device.read r s).2 = control s
  written : ∀ v s, control (device.write .control v s) = v
  other : ∀ r v s, r ≠ .control → control (device.write r v s) = control s

/-- The parities `Uart_setConfig` acts upon. -/
def Parity.isSelected (parity : Parity) : Bool :=
  parity == .even || parity == .odd

/-- What `Uart_setConfig` makes of the control register. -/
def configured (control : Word) (config : Config) : Word :=
  let control := withFlag control config.isRxEnabled Control.RE
  let control := withFlag control config.isRxEnabled Control.RI
  let control := withFlag control (!config.isRxEnabled) Control.RF
  let control := withFlag control config.isTxEnabled Control.TE
  let control := withFlag control config.isTxEnabled Control.TI
  let control := withFlag control (!config.isTxEnabled) Control.TF
  let control := withFlag control config.isLoopbackModeEnabled Control.LB
  if config.parity.isSelected then
    withFlag (withFlag control true Control.PE) (config.parity = .odd) Control.PS
  else control

/-- What `Uart_getConfig` makes of the control register. -/
def parityOf (control : Word) : Parity :=
  if getFlag control Control.PE then if getFlag control Control.PS then .odd else .even else .none

/-- The bits of the control register that belong to the configuration. -/
def managed : List Nat :=
  [Control.RE, Control.TE, Control.RI, Control.TI, Control.PS, Control.PE, Control.LB, Control.TF, Control.RF]

section Bits

variable (control : Word) (config : Config)

theorem configured_RE : getFlag (configured control config) Control.RE = config.isRxEnabled := by
  unfold configured
  split <;> simp [getFlag_withFlag, Control.RE, Control.RI, Control.RF, Control.TE, Control.TI, Control.TF, Control.LB,
    Control.PE, Control.PS]

theorem configured_TE : getFlag (configured control config) Control.TE = config.isTxEnabled := by
  unfold configured
  split <;> simp [getFlag_withFlag, Control.RE, Control.RI, Control.RF, Control.TE, Control.TI, Control.TF, Control.LB,
    Control.PE, Control.PS]

theorem configured_LB : getFlag (configured control config) Control.LB = config.isLoopbackModeEnabled := by
  unfold configured
  split <;> simp [getFlag_withFlag, Control.RE, Control.RI, Control.RF, Control.TE, Control.TI, Control.TF, Control.LB,
    Control.PE, Control.PS]

/-- Parity enable is set for a parity and never cleared. -/
theorem configured_PE : getFlag (configured control config) Control.PE =
    (config.parity.isSelected || getFlag control Control.PE) := by
  unfold configured
  split <;> simp [*, getFlag_withFlag, Control.RE, Control.RI, Control.RF, Control.TE, Control.TI, Control.TF, Control.LB,
    Control.PE, Control.PS]

theorem configured_PS (selected : config.parity.isSelected = true) :
    getFlag (configured control config) Control.PS = decide (config.parity = .odd) := by
  simp [configured, selected, getFlag_withFlag, Control.PS]

theorem configured_unmanaged {flag : Nat} (outside : flag ∉ managed) :
    getFlag (configured control config) flag = getFlag control flag := by
  simp only [managed, List.mem_cons, List.not_mem_nil, or_false, not_or] at outside
  obtain ⟨re, te, ri, ti, ps, pe, lb, tf, rf⟩ := outside
  simp only [Control.RE, Control.RI, Control.RF, Control.TE, Control.TI, Control.TF, Control.LB, Control.PE,
    Control.PS] at re te ri ti ps pe lb tf rf
  unfold configured
  split <;> simp [getFlag_withFlag, Control.RE, Control.RI, Control.RF, Control.TE, Control.TI, Control.TF, Control.LB,
    Control.PE, Control.PS, re, te, ri, ti, ps, pe, lb, tf, rf]

end Bits

/-- A sequence of calls of `Uart_setConfig`. -/
def setConfigs {σ : Type} (env : Env σ) : List Config → Driver σ Unit
  | [] => pure ()
  | config :: rest => do
    setConfig env config
    setConfigs env rest

def setThenGet {σ : Type} (env : Env σ) (configs : List Config) : Driver σ Config := do
  setConfigs env configs
  getConfig env

section Memory

variable {σ : Type} {env : Env σ} {control : σ → Word} {may : Fault → Prop} {w : World σ}

theorem wp_setFlag (memory : ControlIsMemory env.device control) {isSet : Bool} {flag : Nat}
    {Q : Unit → World σ → Prop} (post : ∀ w' : World σ, control w'.hw = withFlag (control w.hw) isSet flag → Q () w') :
    wp may (setFlag env isSet flag) Q w := by
  rw [setFlag, wp_bind, wp_readRegister, wp_writeRegister]
  apply post
  rw [World.afterWrite_hw, memory.written, World.value, memory.value]

theorem wp_setBaudRate (memory : ControlIsMemory env.device control) {baud : BaudRate} {Q : Bool → World σ → Prop}
    (post : ∀ result, ∀ w' : World σ, control w'.hw = control w.hw → Q result w') :
    wp may (setBaudRate env baud) Q w := by
  rw [setBaudRate_eq]
  split
  · exact post false w rfl
  · rw [wp_bind, wp_writeRegister, wp_pure]
    apply post
    rw [World.afterWrite_hw, memory.other _ _ _ (by decide)]

theorem wp_setParity (memory : ControlIsMemory env.device control) {parity : Parity} {Q : Unit → World σ → Prop}
    (post : ∀ w' : World σ, control w'.hw = (if parity.isSelected then
      withFlag (withFlag (control w.hw) true Control.PE) (parity = .odd) Control.PS else control w.hw) → Q () w') :
    wp may (setParity env parity) Q w := by
  unfold setParity
  split
  case isTrue acts =>
    have selected : parity.isSelected = true := by cases parity <;> simp_all [Parity.isSelected]
    rw [wp_bind]
    apply wp_setFlag memory
    intro w₁ enabled
    apply wp_setFlag memory
    intro w₂ parity
    apply post
    rw [parity, enabled, if_pos selected]
  case isFalse idle =>
    have ignored : parity.isSelected ≠ true := by cases parity <;> simp_all [Parity.isSelected]
    exact post w (by rw [if_neg ignored])

theorem wp_setConfig (memory : ControlIsMemory env.device control) {config : Config} {Q : Unit → World σ → Prop}
    (post : ∀ w' : World σ, control w'.hw = configured (control w.hw) config → Q () w') :
    wp may (setConfig env config) Q w := by
  unfold setConfig
  simp only [wp_bind]
  apply wp_setFlag memory
  intro w₁ re
  apply wp_setFlag memory
  intro w₂ ri
  apply wp_setFlag memory
  intro w₃ rf
  apply wp_setFlag memory
  intro w₄ te
  apply wp_setFlag memory
  intro w₅ ti
  apply wp_setFlag memory
  intro w₆ tf
  apply wp_setFlag memory
  intro w₇ lb
  apply wp_setBaudRate memory
  intro _ w₈ baud
  apply wp_setParity memory
  intro w₉ parity
  apply post
  rw [parity, baud, lb, tf, ti, te, rf, ri, re]
  rfl

theorem wp_setConfigs (memory : ControlIsMemory env.device control) {configs : List Config} {Q : Unit → World σ → Prop}
    (post : ∀ w' : World σ, control w'.hw = configs.foldl configured (control w.hw) → Q () w') :
    wp may (setConfigs env configs) Q w := by
  induction configs generalizing w with
  | nil => exact post w rfl
  | cons config rest ih =>
    rw [setConfigs, wp_bind]
    apply wp_setConfig memory
    intro w₁ first
    apply ih
    intro w₂ last
    apply post
    rw [last, first, List.foldl_cons]

/-- What `Uart_getConfig` returns of a control register. -/
structure ReadsBack (config : Config) (control : Word) : Prop where
  isRxEnabled : config.isRxEnabled = getFlag control Control.RE
  isTxEnabled : config.isTxEnabled = getFlag control Control.TE
  isLoopbackModeEnabled : config.isLoopbackModeEnabled = getFlag control Control.LB
  parity : config.parity = parityOf control

theorem wp_getParity (memory : ControlIsMemory env.device control) {Q : Parity → World σ → Prop}
    (post : ∀ w' : World σ, control w'.hw = control w.hw → Q (parityOf (control w.hw)) w') :
    wp may (getParity env) Q w := by
  unfold getParity
  simp only [wp_bind, wp_readRegister, wp_ite, wp_pure, World.value, World.afterRead_hw, memory.value, memory.read]
  unfold parityOf at post
  split
  case isTrue enabled =>
    simp only [enabled, if_true] at post
    apply post
    simp only [World.afterRead_hw, memory.read]
  case isFalse disabled =>
    rw [if_neg disabled] at post
    apply post
    simp only [World.afterRead_hw, memory.read]

theorem wp_getConfig (memory : ControlIsMemory env.device control) {Q : Config → World σ → Prop}
    (post : ∀ config, ∀ w' : World σ, ReadsBack config (control w.hw) → control w'.hw = control w.hw → Q config w') :
    wp may (getConfig env) Q w := by
  unfold getConfig
  rw [getBaudRate_eq]
  simp only [wp_bind, wp_readRegister, wp_pure]
  apply wp_getParity memory
  intro w₁ kept
  apply post
  · constructor <;> simp only [World.value, World.afterRead_hw, memory.value, memory.read]
  · simp only [World.afterRead_hw, memory.read, kept]

end Memory

/-- The last configuration reads back, and the bits that belong to no
configuration are as they were. -/
def RoundTrips {σ : Type} (env : Env σ) (control : σ → Word) (w : World σ) (earlier : List Config) (last : Config) : Prop :=
  ∃ config w', setThenGet env (earlier ++ [last]) w = .ok (config, w') ∧
    (config.isRxEnabled = last.isRxEnabled ∧ config.isTxEnabled = last.isTxEnabled ∧
      config.isLoopbackModeEnabled = last.isLoopbackModeEnabled ∧ config.parity = last.parity) ∧
    ∀ flag, flag ∉ managed → getFlag (control w'.hw) flag = getFlag (control w.hw) flag

section Sequence

variable {control : Word} {configs : List Config}

theorem foldl_configured_PE : getFlag (configs.foldl configured control) Control.PE =
    (configs.any (fun config => config.parity.isSelected) || getFlag control Control.PE) := by
  induction configs generalizing control with
  | nil => simp
  | cons config rest ih =>
    rw [List.foldl_cons, ih, configured_PE, List.any_cons]
    cases config.parity.isSelected <;> simp

theorem foldl_configured_unmanaged {flag : Nat} (outside : flag ∉ managed) :
    getFlag (configs.foldl configured control) flag = getFlag control flag := by
  induction configs generalizing control with
  | nil => rfl
  | cons config rest ih => rw [List.foldl_cons, ih, configured_unmanaged control config outside]

/-- Parity reads back unless it is to be none and parity enable is still set
from before. -/
theorem parityOf_configured_iff {last : Config} (valid : last.parity ≠ .invalid) :
    parityOf (configured control last) = last.parity ↔ last.parity ≠ .none ∨ getFlag control Control.PE = false := by
  have enabled := configured_PE control last
  cases parity : last.parity with
  | none =>
    have ignored : last.parity.isSelected = false := by rw [parity]; rfl
    rw [ignored, Bool.false_or] at enabled
    rw [parityOf, enabled]
    cases getFlag control Control.PE with
    | false => simp
    | true =>
      simp only [if_true]
      split <;> simp
  | even =>
    have selected : last.parity.isSelected = true := by rw [parity]; rfl
    have even := configured_PS control last selected
    rw [selected, Bool.true_or] at enabled
    simp [parityOf, enabled, even, parity]
  | odd =>
    have selected : last.parity.isSelected = true := by rw [parity]; rfl
    have odd := configured_PS control last selected
    rw [selected, Bool.true_or] at enabled
    simp [parityOf, enabled, odd, parity]
  | invalid => exact absurd parity valid

end Sequence

/-- Parity enable is clear before the last configuration: it was clear at
first, and no earlier configuration selected a parity. -/
theorem foldl_configured_clear_iff {control : Word} {earlier : List Config}
    (valid : ∀ config ∈ earlier, config.parity ≠ .invalid) :
    getFlag (earlier.foldl configured control) Control.PE = false ↔
      getFlag control Control.PE = false ∧ ∀ config ∈ earlier, config.parity = .none := by
  rw [foldl_configured_PE, Bool.or_eq_false_iff, and_comm, List.any_eq_false]
  apply and_congr_right
  intro _
  apply forall₂_congr
  intro config mem
  have := valid config mem
  cases parity : config.parity <;> simp_all [Parity.isSelected]

theorem roundTrips_iff_parity {σ : Type} {env : Env σ} {control : σ → Word} (memory : ControlIsMemory env.device control)
    (w : World σ) (earlier : List Config) (last : Config) :
    RoundTrips env control w earlier last ↔
      parityOf (configured (earlier.foldl configured (control w.hw)) last) = last.parity := by
  have spec : wp total (setThenGet env (earlier ++ [last])) (fun config w' =>
      ReadsBack config (configured (earlier.foldl configured (control w.hw)) last) ∧
        control w'.hw = (earlier ++ [last]).foldl configured (control w.hw)) w := by
    unfold setThenGet
    rw [wp_bind]
    apply wp_setConfigs memory
    intro w₁ set
    apply wp_getConfig memory
    intro config w₂ reads kept
    rw [set, List.foldl_append, List.foldl_cons, List.foldl_nil] at reads
    exact ⟨reads, kept.trans set⟩
  constructor
  · rintro ⟨config, w', run, ⟨-, -, -, parity⟩, -⟩
    exact (wp_ended spec run).1.parity.symm.trans parity
  · intro parity
    obtain ⟨config, w', run, reads, final⟩ := wp_total spec
    refine ⟨config, w', run, ⟨?_, ?_, ?_, reads.parity.trans parity⟩, fun flag outside => ?_⟩
    · rw [reads.isRxEnabled, configured_RE]
    · rw [reads.isTxEnabled, configured_TE]
    · rw [reads.isLoopbackModeEnabled, configured_LB]
    · rw [final, foldl_configured_unmanaged outside]

/-- **The control register round trip.** The last configuration reads back
unless it selects no parity while parity enable is still set, by an earlier
configuration or from the start. -/
theorem setConfig_getConfig_iff {σ : Type} {env : Env σ} {control : σ → Word}
    (memory : ControlIsMemory env.device control) (w : World σ) (earlier : List Config) (last : Config)
    (valid : ∀ config ∈ earlier ++ [last], config.parity ≠ .invalid) :
    RoundTrips env control w earlier last ↔
      last.parity ≠ .none ∨ (getFlag (control w.hw) Control.PE = false ∧ ∀ config ∈ earlier, config.parity = .none) := by
  have lastValid : last.parity ≠ .invalid := valid last (by simp)
  have earlierValid : ∀ config ∈ earlier, config.parity ≠ .invalid := fun config mem => valid config (by simp [mem])
  rw [roundTrips_iff_parity memory, parityOf_configured_iff lastValid, foldl_configured_clear_iff earlierValid]

theorem Board.controlIsMemory : ControlIsMemory Board.device Board.control where
  value _ := rfl
  read r _ := by cases r <;> rfl
  written _ _ := rfl
  other r _ _ other := by cases r <;> first | rfl | exact absurd rfl other

/-- The receiver alone, without parity. -/
def receiveOnly (parity : Parity) : Config :=
  ⟨false, true, false, parity, .b9600, 0⟩

/-- No parity after odd parity and again odd parity reads back. -/
theorem setConfig_getConfig_odd :
    RoundTrips Board.env Board.control (Board.world 1 ⟨0, [], []⟩) [receiveOnly .odd, receiveOnly .none]
      (receiveOnly .odd) :=
  (setConfig_getConfig_iff Board.controlIsMemory _ _ _ (by decide)).2 (Or.inl (by decide))

/-- No parity after even parity reads back as even. -/
theorem setConfig_getConfig_stale :
    ¬ RoundTrips Board.env Board.control (Board.world 1 ⟨0, [], []⟩) [receiveOnly .even] (receiveOnly .none) := by
  rw [roundTrips_iff_parity Board.controlIsMemory]
  decide

end Leon3Bsp.Uart
