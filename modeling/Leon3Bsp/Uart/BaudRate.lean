import Leon3Bsp.Lib.ClockDivider
import Leon3Bsp.Uart.Config

/-!
# The scaler of the baud rate

`setBaudRate` stores the divisor of the clock less one in the twelve bits of
`UART_SCALER_RELOAD_MASK`, without a check that it fits. `getBaudRate` shifts the
register by `UART_CLKSCL_SHIFT` before it adds the one, so what it divides by is
that divisor only where the field is zero.
-/

namespace Leon3Bsp.Uart
set_option autoImplicit false
open Wp

/-- The scaler register keeps what its reload field can hold: `clkscl` is its
value, which only a write to it changes. -/
structure ScalerIsMemory {σ : Type} (device : Device σ) (clkscl : σ → Word) : Prop where
  value : ∀ s, (device.read .clkscl s).1 = clkscl s
  read : ∀ r s, clkscl (device.read r s).2 = clkscl s
  written : ∀ v s, v.toNat < 2 ^ 12 → clkscl (device.write .clkscl v s) = v
  other : ∀ r v s, r ≠ .clkscl → clkscl (device.write r v s) = clkscl s

/-- The declared rates. -/
def BaudRate.Supported : BaudRate → Prop
  | .invalid | .undeclared _ => False
  | _ => True

/-- The field of `UART_SCALER_RELOAD_MASK`. -/
def reloadField (clkscl : Word) : Word :=
  clkscl &&& 0x00000FFF

/-- `UART_CLKSCL_DIV * clkscl`, not reduced to a word. -/
def rateDivisor (value : Word) : Nat :=
  8 * (decodeScaler value).toNat

section Rates

variable {baud : BaudRate} {value freq : Word}

theorem supported_iff : baud.Supported ↔ baudRateToValue baud ≠ 0 := by
  cases baud <;> simp [BaudRate.Supported, baudRateToValue]

theorem BaudRate.Supported.pos (supported : baud.Supported) : 0 < (baudRateToValue baud).toNat := by
  cases baud <;> first | decide | exact supported.elim

theorem valueToBaudRate_baudRateToValue (supported : baud.Supported) : valueToBaudRate (baudRateToValue baud) = baud := by
  cases baud <;> first | rfl | exact supported.elim

/-- One test of `valueToBaudRate`. -/
theorem decoded_test {rate rest : BaudRate} {bauds : Word} (decoded : (if value = bauds then rate else rest) = baud)
    (supported : rate.Supported) (same : baudRateToValue rate = bauds) :
    (baud.Supported ∧ baudRateToValue baud = value) ∨ rest = baud := by
  split at decoded
  · subst decoded
    exact Or.inl ⟨supported, same.trans (Eq.symm ‹_›)⟩
  · exact Or.inr decoded

/-- A decoded rate is the value it was decoded from. -/
theorem valueToBaudRate_cases (decoded : valueToBaudRate value = baud) :
    baud = .invalid ∨ baud.Supported ∧ baudRateToValue baud = value := by
  unfold valueToBaudRate at decoded
  iterate 13
    obtain found | decoded := decoded_test decoded trivial rfl
    · exact Or.inr found
  exact Or.inl decoded.symm

theorem valueToBaudRate_eq_iff (supported : baud.Supported) : valueToBaudRate value = baud ↔ value = baudRateToValue baud := by
  constructor
  · intro decoded
    rcases valueToBaudRate_cases decoded with rfl | ⟨-, same⟩
    · exact supported.elim
    · exact same.symm
  · rintro rfl
    exact valueToBaudRate_baudRateToValue supported

end Rates

section Scaler

variable (freq baudValue value : Word)

theorem toNat_reloadField : (reloadField value).toNat = value.toNat % 2 ^ 12 := by
  have mask : (0x00000FFF : Word).toNat = 2 ^ 12 - 1 := rfl
  rw [reloadField, BitVec.toNat_and, mask, Nat.and_two_pow_sub_one_eq_mod]

/-- The subtraction wraps below one, the mask above the range of the field. -/
theorem toNat_encodeScaler :
    (encodeScaler freq baudValue).toNat = ClockDivider.reload 12 (freq / (baudValue * 8)).toNat := by
  have narrowed (x : Word) : x.toNat % 2 ^ 16 % 2 ^ 32 % 2 ^ 12 = x.toNat % 2 ^ 12 := by omega
  calc (encodeScaler freq baudValue).toNat
      = (freq / (baudValue * 8) - 1).toNat % 2 ^ 16 % 2 ^ 32 % 2 ^ 12 := by
        have field := toNat_reloadField ((freq / (baudValue * 8) - 1).setWidth 16 |>.setWidth 32)
        rw [BitVec.toNat_setWidth, BitVec.toNat_setWidth] at field
        rw [encodeScaler, scalerField, BitVec.shiftLeft_zero]
        exact field
    _ = (freq / (baudValue * 8) - 1).toNat % 2 ^ 12 := narrowed _
    _ = ClockDivider.reload 12 (freq / (baudValue * 8)).toNat :=
        ClockDivider.toNat_sub_one_mod _ (by decide) (by decide)

theorem encodeScaler_lt : (encodeScaler freq baudValue).toNat < 2 ^ 12 := by
  rw [toNat_encodeScaler]
  exact ClockDivider.reload_lt _ _

theorem reloadField_encodeScaler : reloadField (encodeScaler freq baudValue) = encodeScaler freq baudValue := by
  apply BitVec.eq_of_toNat_eq
  rw [toNat_reloadField, Nat.mod_eq_of_lt (encodeScaler_lt freq baudValue)]

variable {freq baudValue}

theorem toNat_quotient (fits : baudValue.toNat * 8 < 2 ^ 32) :
    (freq / (baudValue * 8)).toNat = freq.toNat / (8 * baudValue.toNat) := by
  have product : (baudValue * 8).toNat = 8 * baudValue.toNat := by
    rw [BitVec.toNat_mul, Nat.mul_comm 8]
    exact Nat.mod_eq_of_lt fits
  rw [BitVec.toNat_udiv, product]

/-- The divisor keeps the low twelve bits of the register, scaled, and its last bit is one. -/
theorem toNat_decodeScaler : (decodeScaler value).toNat = 16 * (reloadField value).toNat + 1 := by
  rw [toNat_reloadField, decodeScaler, BitVec.toNat_setWidth, BitVec.toNat_add, BitVec.toNat_shiftLeft, Nat.shiftLeft_eq]
  have one : (1 : Word).toNat = 1 := rfl
  omega

theorem rateDivisor_pos : 0 < rateDivisor value := by
  rw [rateDivisor, toNat_decodeScaler]
  omega

theorem rateDivisor_lt : rateDivisor value < 2 ^ 32 := by
  have narrow := (decodeScaler value).isLt
  rw [rateDivisor]
  omega

theorem toNat_decoded : (freq / (8 * (decodeScaler value).setWidth 32)).toNat = freq.toNat / rateDivisor value := by
  have narrow := (decodeScaler value).isLt
  have eight : (8 : Word).toNat = 8 := rfl
  have product : (8 * (decodeScaler value).setWidth 32 : Word).toNat = rateDivisor value := by
    rw [BitVec.toNat_mul, BitVec.toNat_setWidth, eight, rateDivisor]
    omega
  rw [BitVec.toNat_udiv, product]

end Scaler

/-- The scaler holds the divisor for which the rate is the closest to the wanted
one from above. -/
structure Programmed (freq baudValue clkscl : Word) : Prop where
  divisor : (reloadField clkscl).toNat + 1 = freq.toNat / (8 * baudValue.toNat)
  positive : 1 ≤ (reloadField clkscl).toNat + 1
  fits : (reloadField clkscl).toNat + 1 ≤ 4096
  closest : ClockDivider.Closest 8 freq.toNat baudValue.toNat ((reloadField clkscl).toNat + 1)

/-- What `setBaudRate` is for: the scaler is programmed, or it is left alone and
the caller is told. -/
inductive SetsBaudRate (freq : Word) (baud : BaudRate) (before after : Word) : Bool → Prop
  | set (supported : baud.Supported) (programmed : Programmed freq (baudRateToValue baud) after) :
      SetsBaudRate freq baud before after true
  | refused (kept : after = before) : SetsBaudRate freq baud before after false

/-- Registers that are plain memory. -/
def plainDevice : Device (Register → Word) where
  read r s := (s r, s)
  write r v s := fun other => if other = r then v else s other
  arrive _ s := s

theorem plainDevice_scaler : ScalerIsMemory plainDevice (fun s => s .clkscl) where
  value _ := rfl
  read _ _ := rfl
  written _ _ _ := by simp [plainDevice]
  other _ _ _ other := by simp [plainDevice, other.symm]

def plainEnv (ticksPerSecond : Word) : Env (Register → Word) :=
  ⟨plainDevice, fun _ _ => pure (), ticksPerSecond, 0⟩

def plainWorld : World (Register → Word) :=
  ⟨Board.descriptor, ⟨fun _ => 0, Board.emptyFifo 1⟩, .idle, fun _ => 0, []⟩

section Driver

variable {σ : Type} {env : Env σ} {clkscl : σ → Word} {may : Fault → Prop} {w : World σ} {baud : BaudRate}

theorem setBaudRate_unsupported (unsupported : ¬ baud.Supported) : setBaudRate env baud w = .ok (false, w) := by
  rw [supported_iff, not_not] at unsupported
  rw [setBaudRate_eq, if_pos unsupported]
  rfl

theorem setBaudRate_supported (supported : baud.Supported) : setBaudRate env baud w =
    .ok (true, w.afterWrite env .clkscl (encodeScaler env.ticksPerSecond (baudRateToValue baud))) := by
  rw [supported_iff] at supported
  rw [setBaudRate_eq, if_neg supported]
  rfl

theorem wp_setBaudRate_supported (supported : baud.Supported) {Q : Bool → World σ → Prop} :
    wp may (setBaudRate env baud) Q w ↔
      Q true (w.afterWrite env .clkscl (encodeScaler env.ticksPerSecond (baudRateToValue baud))) := by
  unfold wp
  rw [setBaudRate_supported supported]

theorem programmed_encodeScaler_iff {freq : Word} (supported : baud.Supported) :
    Programmed freq (baudRateToValue baud) (encodeScaler freq (baudRateToValue baud)) ↔
      1 ≤ freq.toNat / (8 * (baudRateToValue baud).toNat) ∧ freq.toNat / (8 * (baudRateToValue baud).toNat) ≤ 4096 := by
  have field := toNat_encodeScaler freq (baudRateToValue baud)
  rw [toNat_quotient (baudRateToValue_lt baud), ← reloadField_encodeScaler] at field
  have inRange : (reloadField (encodeScaler freq (baudRateToValue baud))).toNat + 1 =
      freq.toNat / (8 * (baudRateToValue baud).toNat) ↔ 1 ≤ freq.toNat / (8 * (baudRateToValue baud).toNat) ∧
        freq.toNat / (8 * (baudRateToValue baud).toNat) ≤ 4096 := by
    rw [field]
    exact ClockDivider.reload_add_one_iff
  constructor
  · intro programmed
    exact inRange.1 programmed.divisor
  · intro range
    have divisor := inRange.2 range
    refine ⟨divisor, divisor ▸ range.1, divisor ▸ range.2, ?_⟩
    rw [divisor]
    exact ClockDivider.closest_div (by decide) supported.pos range.1

/-- **Programming the baud rate.** The scaler is right exactly where the divisor
fits its field; everywhere else a supported rate is reported as set. -/
theorem setBaudRate_iff (memory : ScalerIsMemory env.device clkscl) (baud : BaudRate) (w : World σ) :
    ∃ result w', setBaudRate env baud w = .ok (result, w') ∧
      (SetsBaudRate env.ticksPerSecond baud (clkscl w.hw) (clkscl w'.hw) result ↔
        ¬ baud.Supported ∨ 1 ≤ env.ticksPerSecond.toNat / (8 * (baudRateToValue baud).toNat) ∧
          env.ticksPerSecond.toNat / (8 * (baudRateToValue baud).toNat) ≤ 4096) := by
  by_cases supported : baud.Supported
  · refine ⟨true, _, setBaudRate_supported supported, ?_⟩
    rw [World.afterWrite_hw, memory.written _ _ (encodeScaler_lt _ _), ← programmed_encodeScaler_iff supported]
    constructor
    · rintro ⟨-, programmed⟩
      exact Or.inr programmed
    · rintro (unsupported | programmed)
      · exact absurd supported unsupported
      · exact .set supported programmed
  · exact ⟨false, w, setBaudRate_unsupported supported, iff_of_true (.refused rfl) (Or.inl supported)⟩

/-- A clock of 80 MHz is divided by 1041. -/
theorem setBaudRate_iff_80MHz : ∃ result w', setBaudRate (plainEnv 80000000) .b9600 plainWorld = .ok (result, w') ∧
    SetsBaudRate 80000000 .b9600 (plainWorld.hw .clkscl) (w'.hw .clkscl) result := by
  obtain ⟨result, w', run, sets⟩ := @setBaudRate_iff _ (plainEnv 80000000) _ plainDevice_scaler .b9600 plainWorld
  exact ⟨result, w', run, sets.2 (Or.inr (by decide))⟩

/-- At a thousand ticks a second no divisor is left, and the largest one is set. -/
theorem setBaudRate_ticks : ∃ w', setBaudRate (plainEnv 1000) .b9600 plainWorld = .ok (true, w') ∧
    reloadField (w'.hw .clkscl) = 0xFFF ∧ ¬ SetsBaudRate 1000 .b9600 (plainWorld.hw .clkscl) (w'.hw .clkscl) true := by
  refine ⟨_, rfl, rfl, ?_⟩
  rintro ⟨-, programmed⟩
  have divisor := programmed.divisor
  exact absurd divisor (by decide)

theorem wp_getBaudRate (memory : ScalerIsMemory env.device clkscl) {Q : BaudRate → World σ → Prop}
    (post : ∀ w' : World σ, Q (valueToBaudRate (env.ticksPerSecond / (8 * (decodeScaler (clkscl w.hw)).setWidth 32))) w') :
    wp may (getBaudRate env) Q w := by
  rw [getBaudRate_eq, wp_bind, wp_readRegister, wp_pure, World.value, memory.value]
  exact post _

/-- The flags of the control register are beside the scaler. -/
theorem scaler_setFlag (memory : ScalerIsMemory env.device clkscl) (isSet : Bool) (flag : Nat) :
    Keeps may (fun w : World σ => clkscl w.hw) (setFlag env isSet flag) := by
  intro w
  rw [setFlag, wp_bind, wp_readRegister, wp_writeRegister]
  show clkscl (env.device.write .control _ (env.device.read .control w.hw).2) = clkscl w.hw
  rw [memory.other _ _ _ (by decide), memory.read]

theorem scaler_setParity (memory : ScalerIsMemory env.device clkscl) (parity : Parity) :
    Keeps may (fun w : World σ => clkscl w.hw) (setParity env parity) := by
  unfold setParity
  apply Relates.ite
  · apply Relates.bind (scaler_setFlag memory _ _)
    · intro w w' w'' first second
      exact second.trans first
    · intro _
      exact scaler_setFlag memory _ _
  · intro w
    rfl

theorem scaler_getParity (memory : ScalerIsMemory env.device clkscl) :
    Keeps may (fun w : World σ => clkscl w.hw) (getParity env) := by
  intro w
  unfold getParity
  simp only [wp_bind, wp_readRegister, wp_ite, wp_pure, World.afterRead_hw, memory.read, ite_self]

theorem wp_setConfig_scaler (memory : ScalerIsMemory env.device clkscl) {config : Config}
    (supported : config.baudRate.Supported) : wp may (setConfig env config)
      (fun _ w' => clkscl w'.hw = encodeScaler env.ticksPerSecond (baudRateToValue config.baudRate)) w := by
  have flag {isSet : Bool} {flag : Nat} {Q : Unit → World σ → Prop} {w : World σ} (post : ∀ w', Q () w') :
      wp may (setFlag env isSet flag) Q w := wp_mono (scaler_setFlag memory isSet flag w) fun _ w' _ => post w'
  unfold setConfig
  simp only [wp_bind]
  refine flag fun _ => flag fun _ => flag fun _ => flag fun _ => flag fun _ => flag fun _ => flag fun w₁ => ?_
  rw [wp_setBaudRate_supported supported]
  apply wp_mono (scaler_setParity memory config.parity _)
  intro _ w' kept
  exact kept.trans (memory.written _ _ (encodeScaler_lt _ _))

theorem wp_getConfig_scaler (memory : ScalerIsMemory env.device clkscl) : wp may (getConfig env) (fun got _ =>
    got.baudRate = valueToBaudRate (env.ticksPerSecond / (8 * (decodeScaler (clkscl w.hw)).setWidth 32))) w := by
  unfold getConfig
  simp only [wp_bind, wp_readRegister, wp_pure]
  apply wp_mono (scaler_getParity memory _)
  intro parity w₁ kept
  simp only [World.afterRead_hw, memory.read] at kept
  apply wp_getBaudRate memory
  intro _
  rw [kept]

theorem wp_setThenGet (memory : ScalerIsMemory env.device clkscl) {config : Config} (supported : config.baudRate.Supported) :
    wp may (setThenGet env [config]) (fun got _ => got.baudRate = valueToBaudRate (env.ticksPerSecond /
      (8 * (decodeScaler (encodeScaler env.ticksPerSecond (baudRateToValue config.baudRate))).setWidth 32))) w := by
  unfold setThenGet setConfigs setConfigs
  simp only [wp_bind, wp_pure]
  apply wp_mono (wp_setConfig_scaler memory supported)
  intro _ w₁ programmed
  have got : wp may (getConfig env) _ w₁ := wp_getConfig_scaler memory
  rwa [programmed] at got

end Driver

/-- An exact rate decodes as itself where the divisor is one. -/
theorem decode_encode_iff {freq : Word} {baud : BaudRate} (supported : baud.Supported)
    (divides : 8 * (baudRateToValue baud).toNat ∣ freq.toNat) (positive : 1 ≤ freq.toNat / (8 * (baudRateToValue baud).toNat))
    (fits : freq.toNat / (8 * (baudRateToValue baud).toNat) ≤ 4096) :
    valueToBaudRate (freq / (8 * (decodeScaler (encodeScaler freq (baudRateToValue baud))).setWidth 32)) = baud ↔
      freq.toNat = 8 * (baudRateToValue baud).toNat := by
  have field := (programmed_encodeScaler_iff supported).2 ⟨positive, fits⟩
  have divisor := field.divisor
  rw [valueToBaudRate_eq_iff supported, ← BitVec.toNat_inj, toNat_decoded, rateDivisor, toNat_decodeScaler]
  generalize (reloadField (encodeScaler freq (baudRateToValue baud))).toNat = reload at divisor ⊢
  have exact : freq.toNat = 8 * ((baudRateToValue baud).toNat * (reload + 1)) := by
    rw [divisor, ← Nat.mul_assoc, Nat.mul_div_cancel' divides]
  rw [exact, Nat.mul_div_mul_left _ _ (by decide), ClockDivider.mul_div_scaled_eq_iff (by decide) supported.pos]
  constructor
  · rintro rfl
    rw [Nat.zero_add, Nat.mul_one]
  · intro same
    have one : (baudRateToValue baud).toNat * (reload + 1) = (baudRateToValue baud).toNat * 1 := by omega
    have unit := Nat.eq_of_mul_eq_mul_left supported.pos one
    omega

/-- **Reading the baud rate back.** Of the rates the scaler represents exactly,
`Uart_getConfig` returns the one that was set only where the clock is not divided. -/
theorem setConfig_getConfig_baudRate_iff {σ : Type} {env : Env σ} {clkscl : σ → Word}
    (memory : ScalerIsMemory env.device clkscl) (config : Config) (supported : config.baudRate.Supported)
    (divides : 8 * (baudRateToValue config.baudRate).toNat ∣ env.ticksPerSecond.toNat)
    (positive : 1 ≤ env.ticksPerSecond.toNat / (8 * (baudRateToValue config.baudRate).toNat))
    (fits : env.ticksPerSecond.toNat / (8 * (baudRateToValue config.baudRate).toNat) ≤ 4096) (w : World σ) :
    ∃ got w', setThenGet env [config] w = .ok (got, w') ∧
      (got.baudRate = config.baudRate ↔ env.ticksPerSecond.toNat = 8 * (baudRateToValue config.baudRate).toNat) := by
  have spec : wp total (setThenGet env [config]) _ w := wp_setThenGet memory supported
  obtain ⟨got, w', run, decoded⟩ := wp_total spec
  refine ⟨got, w', run, ?_⟩
  rw [decoded]
  exact decode_encode_iff supported divides positive fits

/-- At eight ticks a bit the clock is not divided. -/
theorem setConfig_getConfig_undivided : ∃ got w', setThenGet (plainEnv 76800) [receiveOnly .none] plainWorld = .ok (got, w') ∧
    got.baudRate = .b9600 := by
  obtain ⟨got, w', run, same⟩ := @setConfig_getConfig_baudRate_iff _ (plainEnv 76800) _ plainDevice_scaler
    (receiveOnly .none) trivial (by decide) (by decide) (by decide) plainWorld
  exact ⟨got, w', run, same.2 (by decide)⟩

/-- 4800 baud at a divisor of 283 reads back as 300 baud. -/
theorem setConfig_getConfig_divided :
    8 * (baudRateToValue .b4800).toNat ∣ (10867200 : Word).toNat ∧
      (10867200 : Word).toNat / (8 * (baudRateToValue .b4800).toNat) = 283 ∧
      ∃ got w', setThenGet (plainEnv 10867200) [⟨true, true, false, .none, .b4800, 0⟩] plainWorld = .ok (got, w') ∧
        got.baudRate = .b300 := by
  have spec : wp total (setThenGet (plainEnv 10867200) [⟨true, true, false, .none, .b4800, 0⟩]) _ plainWorld :=
    wp_setThenGet plainDevice_scaler trivial
  obtain ⟨got, w', run, decoded⟩ := wp_total spec
  exact ⟨by decide, by decide, got, w', run, decoded.trans (by decide)⟩

/-- **The divisions of the baud rate.** A division by zero, or by a product that
does not fit its word, would be a fault: both functions return. The divisor of
`getBaudRate` is that of the register as it is read, and a rate decodes as itself
or as none. -/
theorem baudRate_divides {σ : Type} (env : Env σ) (w : World σ) :
    (rateDivisor (w.value env .clkscl) ≠ 0 ∧ rateDivisor (w.value env .clkscl) < 2 ^ 32 ∧
      ∃ rate w', getBaudRate env w = .ok (rate, w') ∧ (rate = .invalid ∨ rate.Supported ∧
        (baudRateToValue rate).toNat = env.ticksPerSecond.toNat / rateDivisor (w.value env .clkscl))) ∧
    ∀ baud, ∃ result w', setBaudRate env baud w = .ok (result, w') ∧
      (result = true → (baudRateToValue baud).toNat * 8 ≠ 0 ∧ (baudRateToValue baud).toNat * 8 < 2 ^ 32) := by
  refine ⟨⟨(rateDivisor_pos _).ne', rateDivisor_lt _, ?_⟩, fun baud => ?_⟩
  · rw [getBaudRate_eq]
    refine ⟨_, _, rfl, ?_⟩
    rcases valueToBaudRate_cases rfl with invalid | ⟨supported, same⟩
    · exact Or.inl invalid
    · refine Or.inr ⟨supported, ?_⟩
      rw [same]
      exact toNat_decoded _
  · by_cases supported : baud.Supported
    · have positive := supported.pos
      exact ⟨true, _, setBaudRate_supported supported, fun _ => ⟨by omega, baudRateToValue_lt baud⟩⟩
    · exact ⟨false, w, setBaudRate_unsupported supported, fun set => by cases set⟩

end Leon3Bsp.Uart
