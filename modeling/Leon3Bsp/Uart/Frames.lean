import Leon3Bsp.Uart.System

/-!
# What a call leaves alone

Configuring and polling access the device, masking changes one bit of RTEMS, and
an attachment two fields of the descriptor. One lemma for each function, from
which results about runs read off what they need.
-/

namespace Leon3Bsp.Uart
set_option autoImplicit false
open Wp

variable {σ : Type}

/-- Only the device was accessed. -/
structure Touches (w w' : World σ) : Prop where
  uart : w'.uart = w.uart
  store : w'.store = w.store
  rtems : w'.rtems = w.rtems

/-- Only the device was accessed and the vector masked or unmasked. -/
structure Masks (w w' : World σ) : Prop where
  uart : w'.uart = w.uart
  store : w'.store = w.store
  installed : w'.rtems.installed = w.rtems.installed

/-- And the vector is left enabled. -/
structure Unmasks (w w' : World σ) : Prop extends Masks w w' where
  enabled : w'.rtems.enabled (interruptNumber w'.uart.id) = true

theorem Touches.refl (w : World σ) : Touches w w :=
  ⟨rfl, rfl, rfl⟩

theorem Touches.trans {w w' w'' : World σ} (first : Touches w w') (second : Touches w' w'') : Touches w w'' :=
  ⟨second.uart.trans first.uart, second.store.trans first.store, second.rtems.trans first.rtems⟩

theorem Touches.masks {w w' : World σ} (touches : Touches w w') : Masks w w' :=
  ⟨touches.uart, touches.store, congrArg Rtems.installed touches.rtems⟩

theorem Masks.refl (w : World σ) : Masks w w :=
  ⟨rfl, rfl, rfl⟩

theorem Masks.trans {w w' w'' : World σ} (first : Masks w w') (second : Masks w' w'') : Masks w w'' :=
  ⟨second.uart.trans first.uart, second.store.trans first.store, second.installed.trans first.installed⟩

theorem World.masked_installed (w : World σ) (enabled : Bool) : (w.masked enabled).rtems.installed = w.rtems.installed := by
  cases enabled <;> rfl

theorem World.masked_enabled (w : World σ) (enabled : Bool) :
    (w.masked enabled).rtems.enabled (interruptNumber (w.masked enabled).uart.id) = enabled := by
  cases enabled <;> exact Function.update_self _ _ _

theorem World.masked_masks (w : World σ) (enabled : Bool) : Masks w (w.masked enabled) :=
  ⟨rfl, rfl, w.masked_installed enabled⟩

theorem Masks.unmasked {w w' : World σ} (masks : Masks w w') : Unmasks w (w'.masked true) :=
  ⟨masks.trans (w'.masked_masks true), w'.masked_enabled true⟩

theorem Unmasks.touches {w w' w'' : World σ} (first : Unmasks w w') (second : Touches w' w'') : Unmasks w w'' := by
  refine ⟨first.toMasks.trans second.masks, ?_⟩
  rw [second.rtems, second.uart]
  exact first.enabled

/-- `R` relates worlds between which the registers were accessed but nothing was sent. -/
structure Accesses (env : Env σ) (R : World σ → World σ → Prop) : Prop where
  refl : ∀ w, R w w
  trans : ∀ {w w' w''}, R w w' → R w' w'' → R w w''
  afterRead : ∀ r w, R w (w.afterRead env r)
  afterWrite : ∀ {r}, r ≠ .data → ∀ value w, R w (w.afterWrite env r value)

section Device

variable {env : Env σ} {may : Fault → Prop} {R : World σ → World σ → Prop}

theorem accesses_touches (env : Env σ) : Accesses env Touches where
  refl := .refl
  trans := .trans
  afterRead _ _ := ⟨rfl, rfl, rfl⟩
  afterWrite _ _ _ := ⟨rfl, rfl, rfl⟩

namespace Accesses

theorem relates_setFlag (accesses : Accesses env R) (isSet : Bool) (flag : Nat) : Relates may R (setFlag env isSet flag) := by
  have control : Register.control ≠ .data := by decide
  exact Relates.bind (accesses.afterRead .control) accesses.trans fun _ => accesses.afterWrite control _

theorem relates_setBaudRate (accesses : Accesses env R) (baud : BaudRate) : Relates may R (setBaudRate env baud) := by
  have clkscl : Register.clkscl ≠ .data := by decide
  rw [setBaudRate_eq]
  apply Relates.ite
  · exact relates_pure accesses.refl false
  · exact Relates.bind (accesses.afterWrite clkscl _) accesses.trans fun _ => relates_pure accesses.refl true

theorem relates_setConfig (accesses : Accesses env R) (config : Config) : Relates may R (setConfig env config) := by
  have trans {w w' w'' : World σ} : R w w' → R w' w'' → R w w'' := accesses.trans
  have setFlag (isSet : Bool) (flag : Nat) : Relates may R (setFlag env isSet flag) := accesses.relates_setFlag isSet flag
  unfold setConfig setParity
  refine (setFlag _ _).bind trans fun _ => (setFlag _ _).bind trans fun _ => (setFlag _ _).bind trans fun _ =>
    (setFlag _ _).bind trans fun _ => (setFlag _ _).bind trans fun _ => (setFlag _ _).bind trans fun _ =>
    (setFlag _ _).bind trans fun _ => (accesses.relates_setBaudRate _).bind trans fun _ => ?_
  apply Relates.ite
  · exact (setFlag _ _).bind trans fun _ => setFlag _ _
  · exact relates_pure accesses.refl ()

theorem relates_getConfig (accesses : Accesses env R) : Relates may R (getConfig env) := by
  have trans {w w' w'' : World σ} : R w w' → R w' w'' → R w w'' := accesses.trans
  have readControl : Relates may R (readRegister env .control) := accesses.afterRead .control
  have readClkscl : Relates may R (readRegister env .clkscl) := accesses.afterRead .clkscl
  unfold getConfig getParity
  rw [getBaudRate_eq]
  refine readControl.bind trans fun _ => readControl.bind trans fun _ => readControl.bind trans fun _ =>
    Relates.bind ?parity trans fun _ => Relates.bind ?baudRate trans fun _ => relates_pure accesses.refl _
  case parity =>
    refine readControl.bind trans fun _ => .ite ?_ (relates_pure accesses.refl _)
    exact readControl.bind trans fun _ => relates_pure accesses.refl _
  case baudRate => exact readClkscl.bind trans fun _ => relates_pure accesses.refl _

theorem relates_readPoll (accesses : Accesses env R) (patience : may .outOfPatience) (data : Byte) (limit : Word)
    (errCode : ErrorCode) (budget : Nat) (timeout : Word) :
    Relates may R (readPoll env (pure ()) data limit errCode budget timeout) := by
  have trans {w w' w'' : World σ} : R w w' → R w' w'' → R w w'' := accesses.trans
  induction budget generalizing timeout with
  | zero => exact relates_fault patience
  | succ budget ih =>
    have readStatus : Relates may R (readRegister env .status) := accesses.afterRead .status
    have readData : Relates may R (readData env) := Relates.bind (accesses.afterRead .data) trans fun _ => accesses.refl
    have readDescriptor : Relates may R (descriptor : Driver σ Uart) := accesses.refl
    have returns {α : Type} (a : α) : Relates may R (pure a : Driver σ α) := accesses.refl
    unfold readPoll
    refine (returns ()).bind trans fun _ => readDescriptor.bind trans fun uart => .ite (returns _) ?_
    refine readStatus.bind trans fun status => .ite ?_ (.ite (ih _) (returns none))
    exact readData.bind trans fun _ => returns _

end Accesses

theorem touches_setConfig (config : Config) : Relates may Touches (setConfig env config) :=
  (accesses_touches env).relates_setConfig config

theorem touches_getConfig : Relates may Touches (getConfig env) :=
  (accesses_touches env).relates_getConfig

/-- The loop of `Uart_write` enables the vector when it sends, and only then. -/
inductive WritePolled (w : World σ) : Bool → World σ → Prop
  | sent {w₁ : World σ} (touches : Touches w w₁) : WritePolled w true (w₁.masked true)
  | timedOut {w₁ : World σ} (touches : Touches w w₁) : WritePolled w false w₁

theorem wp_writePoll (patience : may .outOfPatience) (data : Byte) (limit : Word) (budget : Nat) (timeout : Word) (w : World σ) :
    wp may (writePoll env data limit budget timeout) (WritePolled w) w := by
  induction budget generalizing timeout w with
  | zero => exact patience
  | succ budget ih =>
    have read : Touches w (w.afterRead env .status) := ⟨rfl, rfl, rfl⟩
    unfold writePoll
    simp only [wp_ite, wp_bind, wp_readRegister, wp_writeData, wp_vectorEnable, wp_pure]
    split
    · split
      · exact .sent (read.trans ⟨rfl, rfl, rfl⟩)
      · apply wp_mono (ih _ _)
        intro result w' polled
        cases polled with
        | sent touches => exact .sent (read.trans touches)
        | timedOut touches => exact .timedOut (read.trans touches)
    · exact .timedOut (.refl w)

theorem wp_query {α : Type} (result : Uart → Driver σ α) (Q : α → World σ → Prop) (w : World σ) :
    wp may (query result) Q w ↔ wp may (result w.uart) (fun answer w' => Q answer (w'.masked true)) (w.masked false) := by
  simp only [query, wp_bind, wp_vectorDisable, wp_descriptor, wp_vectorEnable, wp_pure, World.masked_uart]

theorem masks_write (patience : may .outOfPatience) (data : Byte) (limit : Word) (errCode : ErrorCode) :
    Relates may Masks (write env data limit errCode) := by
  intro w
  have masked := w.masked_masks false
  unfold write
  simp only [wp_bind, wp_vectorDisable, wp_descriptor, World.masked_uart]
  cases w.uart.txFifo with
  | some q => exact masked.trans (World.masked_masks _ true)
  | none =>
    rw [wp_bind]
    apply wp_mono (wp_writePoll patience data limit _ _ _)
    intro result w' polled
    cases polled with
    | sent touches => exact (masked.trans touches.masks).trans (World.masked_masks _ true)
    | timedOut touches => exact masked.trans touches.masks

theorem unmasks_read (patience : may .outOfPatience) (data : Byte) (limit : Word) (errCode : ErrorCode) :
    Relates may Unmasks (read env data limit errCode) := by
  intro w
  have unmasked : Unmasks w ((w.masked false).masked true) := (w.masked_masks false).unmasked
  unfold read readInterrupted
  simp only [wp_bind, wp_vectorDisable, wp_descriptor, World.masked_uart]
  cases w.uart.rxFifo with
  | some q => exact unmasked
  | none =>
    rw [wp_bind, wp_vectorEnable, wp_bind]
    apply wp_mono ((accesses_touches env).relates_readPoll patience data limit errCode _ _ _)
    intro polled w' touches
    cases polled with
    | some returned => exact unmasked.touches touches
    | none => exact (unmasked.touches touches).toMasks.unmasked

theorem masks_fifoIsEmpty {pointer : Option FifoRef} (null : pointer = none → may .nullDereference) :
    Relates may Masks (fifoIsEmpty pointer : Driver σ Bool) := by
  cases pointer with
  | none => exact relates_fault (null rfl)
  | some q => exact fun w => .refl w

theorem masks_fifoGetCount {pointer : Option FifoRef} (null : pointer = none → may .nullDereference) :
    Relates may Masks (fifoGetCount pointer : Driver σ Word) := by
  cases pointer with
  | none => exact relates_fault (null rfl)
  | some q => exact fun w => .refl w

theorem unmasks_query {α : Type} {result : Uart → Driver σ α} {w : World σ}
    (kept : wp may (result w.uart) (fun _ w' => Masks (w.masked false) w') (w.masked false)) :
    wp may (query result) (fun _ => Unmasks w) w := by
  rw [wp_query]
  apply wp_mono kept
  intro _ w' masks
  exact ((w.masked_masks false).trans masks).unmasked

/-- `Uart_writeAsync` assigns its two fields, and pulls at most one byte. -/
structure Attaches (fifo : Option FifoRef) (handler : TxHandler) (w w' : World σ) : Prop where
  uart : w'.uart = { w.uart with txFifo := fifo, txHandler := handler }
  installed : w'.rtems.installed = w.rtems.installed
  enabled : w'.rtems.enabled (interruptNumber w'.uart.id) = true

theorem wp_writeAsync {fifo : Option FifoRef} (null : fifo = none → may .nullDereference) (handler : TxHandler) (w : World σ) :
    wp may (writeAsync env fifo handler) (fun _ => Attaches fifo handler w) w := by
  unfold writeAsync kick
  simp only [wp_bind, wp_vectorDisable, wp_modifyDescriptor, wp_readRegister, wp_ite, wp_descriptor, wp_pure, wp_vectorEnable]
  split
  · cases fifo with
    | none => exact null rfl
    | some q => exact ⟨rfl, w.masked_installed false, World.masked_enabled _ true⟩
  · exact ⟨rfl, w.masked_installed false, World.masked_enabled _ true⟩

end Device

/-- The calls that move no byte of a queue and assign no field of the descriptor. -/
def Call.OnlyMasks : Call → Prop
  | .setConfig _ | .getConfig | .write _ _ _ | .read _ _ _ => True
  | .isTxEmpty | .isRxEmpty | .getTxFifoCount | .getRxFifoCount => True
  | _ => False

theorem masks_exec {env : Env σ} {call : Call} (only : call.OnlyMasks) : Relates partially Masks (exec env call) := by
  have pointer : ∀ p : Option FifoRef, p = none → partially Fault.nullDereference := fun _ _ => trivial
  have query {α : Type} {result : Uart → Driver σ α} (kept : ∀ uart, Relates partially Masks (result uart)) :
      Relates partially Masks (query result) :=
    fun w => wp_mono (unmasks_query (kept w.uart _)) fun _ _ unmasks => unmasks.toMasks
  have read (data : Byte) (limit : Word) (errCode : ErrorCode) : Relates partially Masks (read env data limit errCode) :=
    fun w => wp_mono (unmasks_read trivial data limit errCode w) fun _ _ unmasks => unmasks.toMasks
  cases call with
  | setConfig config =>
    refine Relates.bind (fun w => ?_) .trans fun _ => relates_pure .refl _
    exact wp_mono (touches_setConfig config w) fun _ _ touches => touches.masks
  | getConfig =>
    refine Relates.bind (fun w => ?_) .trans fun _ => relates_pure .refl _
    exact wp_mono (touches_getConfig w) fun _ _ touches => touches.masks
  | write data limit errCode => exact (masks_write trivial data limit errCode).bind .trans fun _ => relates_pure .refl _
  | read data limit errCode => exact (read data limit errCode).bind .trans fun _ => relates_pure .refl _
  | isTxEmpty | isRxEmpty => exact (query fun uart => masks_fifoIsEmpty (pointer _)).bind .trans fun _ => relates_pure .refl _
  | getTxFifoCount | getRxFifoCount =>
    exact (query fun uart => masks_fifoGetCount (pointer _)).bind .trans fun _ => relates_pure .refl _
  | _ => exact only.elim

end Leon3Bsp.Uart
