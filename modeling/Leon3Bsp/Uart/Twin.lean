import Mathlib.Data.List.Forall2
import Leon3Bsp.Lib.Coupling
import Leon3Bsp.Uart.System

/-!
# Worlds that differ in the queues

What the driver does with the device, the descriptor and RTEMS it does alike in
two worlds that differ in the caller's queues only. So do the handlers as long
as they find no byte to move.
-/

namespace Leon3Bsp.Uart
set_option autoImplicit false
open Wp Coupling

variable {σ : Type}

/-- The same observation; a callback may find other queues. -/
inductive Event.Twin (queues : Set FifoRef) : Event → Event → Prop
  | same (event : Event) : Twin queues event event
  | called {hook : Hook} {callback : Callback} {arg : Arg} {uart : Uart} {store store' : Store}
      (beside : Store.AgreeBeside queues store store') :
      Twin queues (.called hook callback arg uart store) (.called hook callback arg uart store')

/-- The worlds differ in `queues` at most, now and in what was observed. -/
structure Twin (queues : Set FifoRef) (w v : World σ) : Prop where
  uart : v.uart = w.uart
  store : Store.AgreeBeside queues w.store v.store
  rtems : v.rtems = w.rtems
  hw : v.hw = w.hw
  trace : List.Forall₂ (Event.Twin queues) w.trace v.trace

namespace World

variable (w : World σ) (env : Env σ)

/-- `Uart_handleRx` finds no byte, or no queue for it. -/
def RxIdle : Prop :=
  w.uart.rxFifo = none ∨ ¬ w.RxReady env

/-- `Uart_handleTx` finds no room for a byte, or no queue. -/
def TxIdle : Prop :=
  w.uart.txFifo = none ∨ ¬ w.TxReady env

/-- What a handler answers: its side of the device is enabled and shows `flag`. -/
def found (enable flag : Nat) : Bool :=
  getFlag (w.value env .control) enable && getFlag (w.handlerStatus env) flag

/-- The world after an idle handler, which looks at the status register only if
its side of the device is enabled. -/
def afterIdle (enable : Nat) : World σ :=
  if getFlag (w.value env .control) enable then w.afterStatus env else w.afterControl env

end World

section Twin

variable {queues : Set FifoRef} {w v : World σ} {env : Env σ}

theorem Twin.value (twin : Twin queues w v) (env : Env σ) (r : Register) : v.value env r = w.value env r := by
  rw [World.value, twin.hw]
  rfl

theorem Twin.observed {segment : List Event} (twin : Twin queues w v) :
    List.Forall₂ (Event.Twin queues) (w.trace ++ segment) (v.trace ++ segment) :=
  List.rel_append twin.trace (List.forall₂_same.2 fun event _ => .same event)

theorem Twin.afterRead (twin : Twin queues w v) (env : Env σ) (r : Register) :
    Twin queues (w.afterRead env r) (v.afterRead env r) := by
  refine ⟨twin.uart, twin.store, twin.rtems, ?_, ?_⟩
  · rw [World.afterRead_hw, World.afterRead_hw, twin.hw]
  · rw [World.afterRead_trace, World.afterRead_trace, twin.value]
    exact twin.observed

theorem Twin.afterWrite (twin : Twin queues w v) (env : Env σ) (r : Register) (value : Word) :
    Twin queues (w.afterWrite env r value) (v.afterWrite env r value) := by
  refine ⟨twin.uart, twin.store, twin.rtems, ?_, twin.observed⟩
  rw [World.afterWrite_hw, World.afterWrite_hw, twin.hw]

theorem Twin.withUart (twin : Twin queues w v) (uart : Uart) : Twin queues (w.withUart uart) (v.withUart uart) :=
  ⟨rfl, twin.store, twin.rtems, twin.hw, twin.trace⟩

theorem Twin.masked (twin : Twin queues w v) (enabled : Bool) : Twin queues (w.masked enabled) (v.masked enabled) := by
  refine ⟨twin.uart, twin.store, ?_, twin.hw, twin.trace⟩
  rw [World.masked, World.masked, twin.uart, twin.rtems]

theorem Twin.calling (twin : Twin queues w v) (hook : Hook) (callback : Callback) (arg : Arg) :
    Twin queues (w.calling hook callback arg) (v.calling hook callback arg) := by
  refine ⟨twin.uart, twin.store, twin.rtems, twin.hw, ?_⟩
  rw [World.calling_trace, World.calling_trace, twin.uart]
  exact List.rel_append twin.trace (.cons (.called twin.store) .nil)

theorem Twin.afterIdle (twin : Twin queues w v) (env : Env σ) (enable : Nat) :
    Twin queues (w.afterIdle env enable) (v.afterIdle env enable) := by
  unfold World.afterIdle
  rw [twin.value]
  split
  · exact (twin.afterRead env .control).afterRead env .status
  · exact twin.afterRead env .control

theorem Twin.found (twin : Twin queues w v) (env : Env σ) (enable flag : Nat) :
    v.found env enable flag = w.found env enable flag := by
  unfold World.found World.handlerStatus
  rw [twin.value, (twin.afterRead env .control).value]

theorem Twin.rxIdle (twin : Twin queues w v) (idle : w.RxIdle env) : v.RxIdle env := by
  unfold World.RxIdle World.RxReady World.handlerStatus at *
  rwa [twin.uart, twin.value, (twin.afterRead env .control).value]

theorem Twin.txIdle (twin : Twin queues w v) (idle : w.TxIdle env) : v.TxIdle env := by
  unfold World.TxIdle World.TxReady World.handlerStatus at *
  rwa [twin.uart, twin.value, (twin.afterRead env .control).value]

end Twin

section Idle

variable {env : Env σ} {w : World σ}

/-- A handler that moves no byte. -/
theorem handleRx_idle (idle : w.RxIdle env) :
    handleRx env w = .ok (w.found env Control.RE Status.DR, w.afterIdle env Control.RE) := by
  have spec : wp total (handleRx env)
      (fun rx w' => rx = w.found env Control.RE Status.DR ∧ w' = w.afterIdle env Control.RE) w := by
    unfold handleRx World.afterIdle World.found
    simp only [wp_bind, wp_readRegister, wp_ite, wp_pure]
    split
    case isFalse off => exact ⟨by simp [off], rfl⟩
    case isTrue on =>
      rw [on, Bool.true_and]
      split
      case isFalse clear => exact ⟨(eq_false_of_ne_true clear).symm, rfl⟩
      case isTrue data =>
        have absent : w.uart.rxFifo = none := idle.resolve_right fun none => none ⟨on, data⟩
        unfold receiveByte
        rw [wp_bind, wp_descriptor]
        simp only [World.afterRead_uart, absent]
        exact ⟨data.symm, rfl⟩
  obtain ⟨_, _, run, rfl, rfl⟩ := wp_total spec
  exact run

theorem handleTx_idle (idle : w.TxIdle env) :
    handleTx env w = .ok (w.found env Control.TE Status.TS, w.afterIdle env Control.TE) := by
  have spec : wp total (handleTx env)
      (fun tx w' => tx = w.found env Control.TE Status.TS ∧ w' = w.afterIdle env Control.TE) w := by
    unfold handleTx World.afterIdle World.found
    simp only [wp_bind, wp_readRegister, wp_ite, wp_pure]
    split
    case isFalse off => exact ⟨by simp [off], rfl⟩
    case isTrue on =>
      rw [on, Bool.true_and]
      split
      case isFalse clear => exact ⟨(eq_false_of_ne_true clear).symm, rfl⟩
      case isTrue shift =>
        have absent : w.uart.txFifo = none := idle.resolve_right fun none => none ⟨on, shift⟩
        unfold transmitByte
        rw [wp_bind, wp_descriptor]
        simp only [World.afterRead_uart, absent]
        exact ⟨shift.symm, rfl⟩
  obtain ⟨_, _, run, rfl, rfl⟩ := wp_total spec
  exact run

end Idle

section Respects

variable {queues : Set FifoRef} {env : Env σ}

theorem respects_readRegister (r : Register) : Respects (Twin queues) (readRegister env r) :=
  fun _ _ twin => alike_act (twin.value env r) (twin.afterRead env r)

theorem respects_writeRegister (r : Register) (value : Word) : Respects (Twin queues) (writeRegister env r value) :=
  fun _ _ twin => alike_act rfl (twin.afterWrite env r value)

theorem respects_readData : Respects (Twin queues) (readData env) :=
  (respects_readRegister .data).bind fun _ => respects_pure _

theorem respects_descriptor : Respects (Twin queues) (descriptor : Driver σ Uart) :=
  fun _ _ twin => alike_act twin.uart twin

theorem respects_modifyDescriptor (f : Uart → Uart) : Respects (Twin queues) (modifyDescriptor f : Driver σ Unit) := by
  intro w v twin
  refine alike_act rfl ?_
  rw [twin.uart]
  exact twin.withUart (f w.uart)

theorem respects_vectorEnable : Respects (Twin queues) (vectorEnable : Driver σ Unit) :=
  fun _ _ twin => alike_act rfl (twin.masked true)

theorem respects_vectorDisable : Respects (Twin queues) (vectorDisable : Driver σ Unit) :=
  fun _ _ twin => alike_act rfl (twin.masked false)

theorem respects_entryInstall : Respects (Twin queues) (entryInstall : Driver σ Unit) := by
  intro w v twin
  refine alike_act rfl ⟨twin.uart, twin.store, ?_, twin.hw, twin.trace⟩
  rw [twin.uart, twin.rtems]

theorem respects_entryRemove : Respects (Twin queues) (entryRemove : Driver σ Unit) := by
  intro w v twin
  refine alike_act rfl ⟨twin.uart, twin.store, ?_, twin.hw, twin.trace⟩
  rw [twin.uart, twin.rtems]

theorem respects_setFlag (isSet : Bool) (flag : Nat) : Respects (Twin queues) (setFlag env isSet flag) :=
  (respects_readRegister .control).bind fun _ => respects_writeRegister .control _

theorem respects_setBaudRate (baud : BaudRate) : Respects (Twin queues) (setBaudRate env baud) := by
  rw [setBaudRate_eq]
  apply Respects.ite
  · exact respects_pure false
  · exact (respects_writeRegister .clkscl _).bind fun _ => respects_pure true

theorem respects_setConfig (config : Config) : Respects (Twin queues) (setConfig env config) := by
  unfold setConfig setParity
  refine (respects_setFlag _ _).bind fun _ => (respects_setFlag _ _).bind fun _ => (respects_setFlag _ _).bind fun _ =>
    (respects_setFlag _ _).bind fun _ => (respects_setFlag _ _).bind fun _ => (respects_setFlag _ _).bind fun _ =>
    (respects_setFlag _ _).bind fun _ => (respects_setBaudRate _).bind fun _ => ?_
  apply Respects.ite
  · exact (respects_setFlag _ _).bind fun _ => respects_setFlag _ _
  · exact respects_pure ()

theorem respects_startup : Respects (Twin queues) (startup : Driver σ Unit) := by
  unfold startup setSentBytes setErrorFlags
  refine (respects_modifyDescriptor _).bind fun _ => (respects_modifyDescriptor _).bind fun _ => ?_
  exact respects_entryInstall.bind fun _ => respects_vectorEnable

theorem respects_shutdown : Respects (Twin queues) (shutdown env) := by
  unfold shutdown setSentBytes setErrorFlags
  refine respects_vectorDisable.bind fun _ => respects_entryRemove.bind fun _ => ?_
  refine (respects_writeRegister .control 0).bind fun _ => (respects_writeRegister .status 0).bind fun _ => ?_
  exact (respects_modifyDescriptor _).bind fun _ => respects_modifyDescriptor _

theorem respects_writePoll (data : Byte) (limit : Word) (budget : Nat) (timeout : Word) :
    Respects (Twin queues) (writePoll env data limit budget timeout) := by
  induction budget generalizing timeout with
  | zero => exact respects_fault Fault.outOfPatience
  | succ budget ih =>
    have send : Respects (Twin queues) (do writeData env data; vectorEnable; pure true) :=
      (respects_writeRegister .data _).bind fun _ => respects_vectorEnable.bind fun _ => respects_pure true
    unfold writePoll
    refine .ite ?_ (respects_pure false)
    exact (respects_readRegister .status).bind fun status => .ite send (ih _)

theorem respects_readPoll (data : Byte) (limit : Word) (errCode : ErrorCode) (budget : Nat) (timeout : Word) :
    Respects (Twin queues) (readPoll env (pure ()) data limit errCode budget timeout) := by
  induction budget generalizing timeout with
  | zero => exact respects_fault Fault.outOfPatience
  | succ budget ih =>
    unfold readPoll
    refine (respects_pure ()).bind fun _ => respects_descriptor.bind fun uart => .ite (respects_pure _) ?_
    refine (respects_readRegister .status).bind fun status => .ite ?_ (.ite (ih _) (respects_pure none))
    exact respects_readData.bind fun _ => respects_pure _

end Respects

/-- The functions of the caller do not look at `queues`. -/
def Blind (queues : Set FifoRef) (env : Env σ) : Prop :=
  ∀ function arg, Respects (Twin queues) (env.callback function arg)

section Alike

variable {queues : Set FifoRef} {env : Env σ} {w v : World σ}

/-- `Uart_write` with no queue attached. -/
theorem alike_write (twin : Twin queues w v) (absent : w.uart.txFifo = none) (data : Byte) (limit : Word)
    (errCode : ErrorCode) : Alike (Twin queues) (write env data limit errCode) w v := by
  unfold write
  refine (respects_vectorDisable w v twin).bind fun _ w₁ v₁ run twin₁ => ?_
  cases run
  refine (respects_descriptor _ v₁ twin₁).bind fun uart w₂ v₂ run twin₂ => ?_
  cases run
  simp only [World.masked_uart, absent]
  exact ((respects_writePoll data limit _ limit).bind fun _ => respects_pure _) _ v₂ twin₂

theorem alike_read (twin : Twin queues w v) (absent : w.uart.rxFifo = none) (data : Byte) (limit : Word)
    (errCode : ErrorCode) : Alike (Twin queues) (read env data limit errCode) w v := by
  unfold read readInterrupted
  refine (respects_vectorDisable w v twin).bind fun _ w₁ v₁ run twin₁ => ?_
  cases run
  refine (respects_descriptor _ v₁ twin₁).bind fun uart w₂ v₂ run twin₂ => ?_
  cases run
  simp only [World.masked_uart, absent]
  have polls : Respects (Twin queues) (readPoll env (pure ()) data limit errCode (pollBudget env limit) limit) :=
    respects_readPoll data limit errCode _ limit
  refine (respects_vectorEnable.bind fun _ => polls.bind fun polled => ?_) _ v₂ twin₂
  cases polled with
  | some returned => exact respects_pure returned
  | none => exact respects_vectorEnable.bind fun _ => respects_pure _

theorem respects_handleError (blind : Blind queues env) : Respects (Twin queues) (handleError env) := by
  have invokes (callback : Callback) (arg : Arg) : Respects (Twin queues) (invoke env .error callback arg) := by
    intro w v twin
    refine Alike.bind (alike_act rfl (twin.calling .error callback arg)) fun _ w₁ v₁ _ twin₁ => ?_
    cases callback with
    | emptyCallback => exact alike_pure twin₁ ()
    | user function => exact blind function arg w₁ v₁ twin₁
  unfold handleError setErrorFlags
  refine (respects_readRegister .status).bind fun status => (respects_modifyDescriptor _).bind fun _ => ?_
  apply Respects.ite
  · exact respects_descriptor.bind fun uart => (invokes _ _).bind fun _ => respects_pure true
  · exact respects_pure false

theorem alike_handleRx (twin : Twin queues w v) (idle : w.RxIdle env) : Alike (Twin queues) (handleRx env) w v := by
  have right := handleRx_idle (twin.rxIdle idle)
  rw [twin.found] at right
  exact .ended (handleRx_idle idle) right (twin.afterIdle env Control.RE)

theorem alike_handleTx (twin : Twin queues w v) (idle : w.TxIdle env) : Alike (Twin queues) (handleTx env) w v := by
  have right := handleTx_idle (twin.txIdle idle)
  rw [twin.found] at right
  exact .ended (handleTx_idle idle) right (twin.afterIdle env Control.TE)

end Alike

end Leon3Bsp.Uart
