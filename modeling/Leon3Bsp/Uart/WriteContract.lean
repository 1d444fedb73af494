import Leon3Bsp.Lib.Polling
import Leon3Bsp.Uart.Trace
import Leon3Bsp.Uart.VectorMask

/-!
# The exits of `Uart_write`

With a limit the loop of `Uart_write` is a bounded poll of the status register:
it ends at the first status that shows `TS`, or after as many reads as the limit.
The error code and the unmasking meant for the second end stand behind a
`return`, so that exit has neither.
-/

namespace Leon3Bsp.Uart
set_option autoImplicit false
open Wp Polling

variable {σ : Type}

/-- The device after `i` reads of the status register. -/
def statusRead (device : Device σ) (s : σ) (i : Nat) : σ :=
  (fun s => (device.read .status s).2)^[i] s

/-- The value of read `i` of the status register. -/
def statusAt (device : Device σ) (s : σ) (i : Nat) : Word :=
  (device.read .status (statusRead device s i)).1

/-- Read `i` of the status register shows `TS`. -/
def TsAt (device : Device σ) (s : σ) (i : Nat) : Prop :=
  getFlag (statusAt device s i) Status.TS = true

/-- The world after `n` reads of the status register. -/
def World.polled (w : World σ) (env : Env σ) (n : Nat) : World σ :=
  (fun w => w.afterRead env .status)^[n] w

section Polled

variable (env : Env σ) (w : World σ) (n : Nat)

theorem World.polled_succ : w.polled env (n + 1) = (w.polled env n).afterRead env .status :=
  Function.iterate_succ_apply' _ n w

/-- Reads of the status register change the device and are observed. -/
theorem World.polled_eq : w.polled env n =
    { w with hw := statusRead env.device w.hw n, trace := w.trace ++ statusReads (statusAt env.device w.hw) n } := by
  induction n with
  | zero =>
    rw [statusReads_zero, List.append_nil]
    rfl
  | succ n ih =>
    have next : statusRead env.device w.hw (n + 1) = (env.device.read .status (statusRead env.device w.hw n)).2 :=
      Function.iterate_succ_apply' _ n w.hw
    rw [w.polled_succ, ih, World.afterRead, statusReads_succ, ← List.append_assoc, next]
    rfl

theorem World.polled_value : (w.polled env n).value env .status = statusAt env.device w.hw n := by
  rw [w.polled_eq]
  rfl

theorem World.polled_trace : (w.polled env n).trace = w.trace ++ statusReads (statusAt env.device w.hw) n := by
  rw [w.polled_eq]

theorem World.polled_rtems : (w.polled env n).rtems = w.rtems := by
  rw [w.polled_eq]

theorem World.polled_uart : (w.polled env n).uart = w.uart := by
  rw [w.polled_eq]

end Polled

/-- One turn of the loop of `Uart_write`. -/
def writeTurn (env : Env σ) (data : Byte) : Driver σ (Option Bool) := do
  let status ← readRegister env .status
  if getFlag status Status.TS then do
    writeData env data
    vectorEnable
    pure (some true)
  else pure none

/-- The world in which `Uart_write` has sent its byte. -/
def World.sent (w : World σ) (env : Env σ) (data : Byte) : World σ :=
  ((w.afterRead env .status).afterWrite env .data (data.setWidth 32)).masked true

section Loop

variable {env : Env σ} {may : Fault → Prop} {data : Byte} {limit : Word}

theorem turns_writeTurn : Turns may (writeTurn env data) (fun w => getFlag (w.value env .status) Status.TS = true)
    (fun w => w.afterRead env .status) (fun w result w' => result = true ∧ w' = w.sent env data) where
  passes w hidden := by
    rw [writeTurn, wp_bind, wp_readRegister, wp_ite, if_neg hidden]
    exact ⟨rfl, rfl⟩
  answers w shown := by
    rw [writeTurn, wp_bind, wp_readRegister, wp_ite, if_pos shown]
    exact ⟨true, rfl, rfl, rfl⟩

/-- A limit other than zero is the number of turns. -/
theorem writePoll_eq (limited : limit ≠ 0) {budget : Nat} {timeout : Word} (enough : timeout.toNat < budget) :
    writePoll env data limit budget timeout =
      poll (writeTurn env data) timeout.toNat >>= fun sent => pure (sent.getD false) := by
  induction budget generalizing timeout with
  | zero => omega
  | succ budget ih =>
    unfold writePoll
    by_cases left : 0 < timeout
    · have fewer := toNat_decrement limited left
      have rest : writePoll env data limit budget (decrement limit timeout) = _ := ih (by omega)
      rw [if_pos (Or.inr left), ← fewer, poll, writeTurn, rest, bind_assoc, bind_assoc]
      apply bind_congr
      intro status
      split
      · simp only [bind_assoc, pure_bind, Option.getD_some]
      · rw [pure_bind]
        rfl
    · have zero : timeout.toNat = 0 := by bv_omega
      rw [if_neg (not_or.2 ⟨limited, left⟩), zero, poll, pure_bind]
      rfl

/-- The ways out of `Uart_write` with a limit. -/
inductive WriteExit (env : Env σ) (data : Byte) (limit : Word) (errCode : ErrorCode) (w : World σ) :
    Bool × ErrorCode → World σ → Prop
  | attached (queue : w.uart.txFifo ≠ none) :
      WriteExit env data limit errCode w (false, .txFifoNotNull) ((w.masked false).masked true)
  | sent {i : Nat} (detached : w.uart.txFifo = none) (first : First (TsAt env.device w.hw) limit.toNat i) :
      WriteExit env data limit errCode w (true, errCode) (((w.masked false).polled env i).sent env data)
  | timedOut (detached : w.uart.txFifo = none) (never : Never (TsAt env.device w.hw) limit.toNat) :
      WriteExit env data limit errCode w (false, errCode) ((w.masked false).polled env limit.toNat)

theorem wp_write_limited (limited : limit ≠ 0) (errCode : ErrorCode) (w : World σ) :
    wp may (write env data limit errCode) (WriteExit env data limit errCode w) w := by
  have stops : (fun i => getFlag (((w.masked false).polled env i).value env .status) Status.TS = true) =
      TsAt env.device w.hw := by
    funext i
    rw [World.polled_value]
    rfl
  rw [write, wp_bind, wp_vectorDisable, wp_bind, wp_descriptor, World.masked_uart]
  cases attached : w.uart.txFifo with
  | some q => exact .attached (by simp [attached])
  | none =>
    rw [wp_bind, writePoll_eq limited (lt_pollBudget env limited), wp_bind]
    apply wp_mono (turns_writeTurn.wp_poll limit.toNat (w.masked false))
    intro answer w' ends
    rw [wp_pure, wp_pure]
    cases ends with
    | answered first answers =>
      obtain ⟨rfl, rfl⟩ := answers
      exact .sent attached (stops ▸ first)
    | exhausted never => exact .timedOut attached (stops ▸ never)

end Loop

/-- What `Uart_write` is documented to do with a limit. -/
structure WriteContract (env : Env σ) (data : Byte) (limit : Word) (w : World σ) (result : Bool × ErrorCode)
    (w' : World σ) : Prop where
  attached : w.uart.txFifo ≠ none → result = (false, .txFifoNotNull) ∧ w'.trace = w.trace
  sent : w.uart.txFifo = none → ∀ i, First (TsAt env.device w.hw) limit.toNat i → result.1 = true ∧
    w'.trace = w.trace ++ statusReads (statusAt env.device w.hw) (i + 1) ++ [.write .data (data.setWidth 32)]
  timedOut : w.uart.txFifo = none → Never (TsAt env.device w.hw) limit.toNat → result = (false, .timeout) ∧
    w'.trace = w.trace ++ statusReads (statusAt env.device w.hw) limit.toNat
  enabled : w'.rtems.enabled w'.vector = true

section Exits

variable {env : Env σ} {data : Byte} {limit : Word} {errCode : ErrorCode} {w w' : World σ} {result : Bool × ErrorCode}

theorem World.sent_trace (w : World σ) (i : Nat) : (((w.masked false).polled env i).sent env data).trace =
    w.trace ++ statusReads (statusAt env.device w.hw) (i + 1) ++ [.write .data (data.setWidth 32)] := by
  rw [World.sent, World.masked_trace, World.afterWrite_trace, World.afterRead_trace, World.polled_trace,
    World.polled_value, statusReads_succ, ← List.append_assoc]
  rfl

/-- An exit keeps the contract unless it is that of a timeout. -/
theorem WriteExit.contract_iff (exit : WriteExit env data limit errCode w result w') :
    WriteContract env data limit w result w' ↔ w.uart.txFifo ≠ none ∨ ∃ i < limit.toNat, TsAt env.device w.hw i := by
  cases exit with
  | attached queue =>
    refine iff_of_true ⟨fun _ => ⟨rfl, rfl⟩, fun none => absurd none queue, fun none => absurd none queue, ?_⟩ (Or.inl queue)
    exact World.masked_enabled _ true
  | sent detached first =>
    refine iff_of_true ⟨fun queue => absurd detached queue, ?_, ?_, ?_⟩ (Or.inr ⟨_, first.inside, first.here⟩)
    · intro _ i other
      rw [other.unique first]
      exact ⟨rfl, w.sent_trace _⟩
    · intro _ never
      exact absurd first never.not_first
    · exact World.masked_enabled _ true
  | timedOut detached never =>
    constructor
    · intro contract
      have disabled : (w.masked false).rtems.enabled (w.masked false).vector = false := w.masked_enabled false
      have enabled := contract.enabled
      rw [World.vector, World.polled_uart, World.polled_rtems] at enabled
      exact absurd (disabled.symm.trans enabled) Bool.false_ne_true
    · rintro (queue | ⟨i, inside, shown⟩)
      · exact absurd detached queue
      · exact absurd shown (never i inside)

end Exits

/-- **The contract of `Uart_write`.** It is kept where a queue is attached or a
status within the limit shows `TS`, and on no timeout. -/
theorem write_contract_iff (env : Env σ) (data : Byte) {limit : Word} (limited : limit ≠ 0) (errCode : ErrorCode)
    (w : World σ) :
    ∃ result w', write env data limit errCode w = .ok (result, w') ∧
      (WriteContract env data limit w result w' ↔ w.uart.txFifo ≠ none ∨ ∃ i < limit.toNat, TsAt env.device w.hw i) := by
  have spec : wp total (write env data limit errCode) _ w := wp_write_limited limited errCode w
  obtain ⟨result, w', run, exit⟩ := wp_total spec
  exact ⟨result, w', run, exit.contract_iff⟩

/-- The second status shows `TS`. -/
theorem write_contract_second :
    ∃ result w', write Board.env 0x41 2 .ok (Board.world 1 ⟨0, [0, 2], []⟩) = .ok (result, w') ∧
      WriteContract Board.env 0x41 2 (Board.world 1 ⟨0, [0, 2], []⟩) result w' := by
  have limited : (2 : Word) ≠ 0 := by decide
  obtain ⟨result, w', run, kept⟩ := write_contract_iff Board.env 0x41 limited .ok (Board.world 1 ⟨0, [0, 2], []⟩)
  exact ⟨result, w', run, kept.2 (Or.inr ⟨1, by decide, rfl⟩)⟩

/-- One status without `TS` and a limit of one: no error code, and a disabled vector. -/
theorem write_contract_timeout :
    ∃ w', write Board.env 0x41 1 .ok (Board.world 1 ⟨0, [], []⟩) = .ok ((false, .ok), w') ∧
      w'.rtems.enabled w'.vector = false ∧ ¬ WriteContract Board.env 0x41 1 (Board.world 1 ⟨0, [], []⟩) (false, .ok) w' := by
  refine ⟨_, rfl, rfl, ?_⟩
  intro contract
  have enabled := contract.enabled
  cases enabled

end Leon3Bsp.Uart
