import Leon3Bsp.Lib.Polling
import Leon3Bsp.Uart.Trace
import Leon3Bsp.Uart.VectorMask

/-!
# The exits of `Uart_read`

`Uart_read` polls with the vector enabled, so before each turn anything may
happen that leaves it so. With a limit the loop takes one turn more than the limit,
unless a turn finds the error flag or a byte. Every exit sets its error code and
leaves the vector enabled.

The error flags of the descriptor are not volatile in C. What poll `i` finds in
them is the value the code reads there: under a compiler that reads them once,
before the loop, it is the same at every poll.
-/

namespace Leon3Bsp.Uart
set_option autoImplicit false
open Wp Polling

variable {σ : Type}

/-- If the vector was enabled, it is. -/
def KeepsEnabled (w w' : World σ) : Prop :=
  w.rtems.enabled w.vector = true → w'.rtems.enabled w'.vector = true

/-- What happens between two turns of the loop. The trace is that of the call:
accesses of the interruption are not in it. -/
structure Interruption (σ : Type) where
  run : World σ → World σ
  enabled : ∀ w, KeepsEnabled w (run w)
  trace : ∀ w, (run w).trace = w.trace

namespace Interruption

variable (interruption : Interruption σ) (env : Env σ) (w : World σ)

/-- The interruption as a program. -/
def between : Driver σ Unit :=
  act fun w => ((), interruption.run w)

/-- From one turn of the loop to the next. -/
def next : World σ :=
  (interruption.run w).afterRead env .status

/-- The world that poll `i` of a call in `w` looks at. -/
def atPoll (i : Nat) : World σ :=
  interruption.run ((interruption.next env)^[i] ((w.masked false).masked true))

/-- Poll `i` finds `errorFlags.hasRxFifoFullErrorOccurred`. -/
def FullAt (i : Nat) : Prop :=
  (interruption.atPoll env w i).uart.errorFlags.hasRxFifoFullErrorOccurred = true

/-- The status poll `i` reads, if it does. -/
def statusAt (i : Nat) : Word :=
  (interruption.atPoll env w i).value env .status

/-- What the data register holds for poll `i`. -/
def dataAt (i : Nat) : Word :=
  ((interruption.atPoll env w i).afterRead env .status).value env .data

/-- Poll `i` finds the error flag or a byte. -/
def StopsAt (i : Nat) : Prop :=
  interruption.FullAt env w i ∨ getFlag (interruption.statusAt env w i) Status.DR = true

/-- The vector stays enabled from poll to poll. -/
theorem iterate_enabled (i : Nat) :
    ((interruption.next env)^[i] ((w.masked false).masked true)).rtems.enabled
      ((interruption.next env)^[i] ((w.masked false).masked true)).vector = true := by
  induction i with
  | zero => exact World.masked_enabled _ true
  | succ i ih =>
    rw [Function.iterate_succ_apply']
    exact interruption.enabled _ ih

theorem atPoll_enabled (i : Nat) :
    (interruption.atPoll env w i).rtems.enabled (interruption.atPoll env w i).vector = true :=
  interruption.enabled _ (interruption.iterate_enabled env w i)

theorem iterate_trace (i : Nat) : ((interruption.next env)^[i] ((w.masked false).masked true)).trace =
    w.trace ++ statusReads (interruption.statusAt env w) i := by
  induction i with
  | zero =>
    rw [statusReads_zero, List.append_nil]
    rfl
  | succ i ih =>
    rw [Function.iterate_succ_apply', next, World.afterRead_trace, interruption.trace, ih, statusReads_succ,
      List.append_assoc]
    rfl

theorem atPoll_trace (i : Nat) :
    (interruption.atPoll env w i).trace = w.trace ++ statusReads (interruption.statusAt env w) i := by
  rw [atPoll, interruption.trace, interruption.iterate_trace]

end Interruption

section Handler

variable {env : Env σ} {w w' : World σ}

theorem absorbs_keepsEnabled (env : Env σ) : AbsorbsCount env KeepsEnabled KeepsEnabled where
  refl _ enabled := enabled
  trans first second enabled := second (first enabled)
  afterRead _ _ enabled := enabled
  withErrorFlags _ _ enabled := enabled
  called _ callback enabled := callback enabled
  withSentBytes _ _ enabled := enabled
  lengthCalled callback enabled := callback enabled

theorem keepsEnabled_afterPush (w : World σ) (q : FifoRef) (data : Byte) : KeepsEnabled w (w.afterPush q data) := by
  intro enabled
  unfold World.afterPush
  split <;> exact enabled

theorem RxOutcome.keepsEnabled {rx : Bool} (outcome : RxOutcome env KeepsEnabled w rx w') : KeepsEnabled w w' := by
  rcases outcome.absorbed (absorbs_keepsEnabled env) fun _ enabled => enabled with kept | ⟨w₁, q, byte, kept, -, rfl⟩
  · exact kept
  · intro enabled
    exact keepsEnabled_afterPush w₁ q byte (kept enabled)

theorem TxOutcome.keepsEnabled {tx : Bool} (outcome : TxOutcome env KeepsEnabled w tx w') : KeepsEnabled w w' := by
  rcases outcome.absorbed (absorbs_keepsEnabled env).toAbsorbs with kept | ⟨q, -, -, -, ⟨-, rfl⟩ | ⟨-, called⟩⟩
  · exact kept
  · intro enabled
    exact enabled
  · intro enabled
    exact called enabled

theorem InterruptOutcome.keepsEnabled (outcome : InterruptOutcome env KeepsEnabled w w') : KeepsEnabled w w' := by
  obtain ⟨errorOutcome, rxOutcome, txOutcome⟩ := outcome
  intro enabled
  have error := errorOutcome.absorbed (absorbs_keepsEnabled env).toAbsorbs enabled
  exact txOutcome.keepsEnabled (rxOutcome.keepsEnabled error)

/-- An interrupt of the driver, whose functions of the caller leave the vector
enabled. One that faults is left out. -/
def Interruption.handler (env : Env σ) (callbacks : Callbacks partially env KeepsEnabled) : Interruption σ where
  run w := match handleInterrupt env w with
    | .ok (_, w') => { w' with trace := w.trace }
    | .error _ => w
  enabled w enabled := by
    split
    -- the functions of the caller keep the vector enabled, and the driver does not mask it
    case h_1 w' run =>
      have spec : wp partially (handleInterrupt env) _ w := wp_handleInterrupt callbacks fun _ _ _ _ _ => trivial
      have outcome := wp_ended spec run
      exact outcome.keepsEnabled enabled
    case h_2 => exact enabled
  trace w := by
    split <;> rfl

end Handler

section Streams

/-- A device that shows stream `s` in its status register, and in its data
register `d`, at the index of the last status. -/
def streamDevice (s d : Nat → Word) : Device Nat where
  read
    | .status, i => (s i, i + 1)
    | .data, i => (d (i - 1), i)
    | _, i => (0, i)
  write _ _ i := i
  arrive _ i := i

def streamEnv (s d : Nat → Word) : Env Nat :=
  ⟨streamDevice s d, fun _ _ => pure (), 0, 0⟩

/-- The error flag follows a stream. -/
def streamInterruption (e : Nat → Bool) : Interruption Nat where
  run w := w.withErrorFlags { w.uart.errorFlags with hasRxFifoFullErrorOccurred := e w.hw }
  enabled _ enabled := enabled
  trace _ := rfl

variable (e : Nat → Bool) (s d : Nat → Word) {w : World Nat}

theorem iterate_stream (start : w.hw = 0) (i : Nat) :
    (((streamInterruption e).next (streamEnv s d))^[i] ((w.masked false).masked true)).hw = i := by
  induction i with
  | zero => exact start
  | succ i ih =>
    rw [Function.iterate_succ_apply']
    exact congrArg (fun i => i + 1) ih

/-- All streams are found by the polls of some call. -/
theorem streams_found (start : w.hw = 0) (i : Nat) :
    ((streamInterruption e).FullAt (streamEnv s d) w i ↔ e i = true) ∧
      (streamInterruption e).statusAt (streamEnv s d) w i = s i ∧
      (streamInterruption e).dataAt (streamEnv s d) w i = d i := by
  have index := iterate_stream e s d start i
  exact ⟨iff_of_eq (congrArg (fun i => e i = true) index), congrArg s index, congrArg d index⟩

end Streams

/-- One turn of the loop of `Uart_read`. -/
def readTurn (env : Env σ) (between : Driver σ Unit) (data : Byte) (errCode : ErrorCode) :
    Driver σ (Option (Bool × Byte × ErrorCode)) := do
  between
  let uart ← descriptor
  if uart.errorFlags.hasRxFifoFullErrorOccurred then pure (some (false, data, .rxFifoFull))
  else do
    let status ← readRegister env .status
    if getFlag status Status.DR then do
      let data ← readData env
      pure (some (true, data, errCode))
    else pure none

/-- How a turn that finds something in `w` ends the loop: the error flag goes
before the byte. -/
inductive ReadAnswer (env : Env σ) (data : Byte) (errCode : ErrorCode) (w : World σ) :
    Bool × Byte × ErrorCode → World σ → Prop
  | full (full : w.uart.errorFlags.hasRxFifoFullErrorOccurred = true) :
      ReadAnswer env data errCode w (false, data, .rxFifoFull) w
  | received (room : w.uart.errorFlags.hasRxFifoFullErrorOccurred ≠ true)
      (ready : getFlag (w.value env .status) Status.DR = true) :
      ReadAnswer env data errCode w (true, ((w.afterRead env .status).value env .data).setWidth 8, errCode)
        ((w.afterRead env .status).afterRead env .data)

section Loop

variable {env : Env σ} {may : Fault → Prop} {data : Byte} {limit : Word} {errCode : ErrorCode}

theorem turns_readTurn (interruption : Interruption σ) : Turns may (readTurn env interruption.between data errCode)
    (fun w => (interruption.run w).uart.errorFlags.hasRxFifoFullErrorOccurred = true ∨
      getFlag ((interruption.run w).value env .status) Status.DR = true)
    (interruption.next env) (fun w => ReadAnswer env data errCode (interruption.run w)) where
  passes w hidden := by
    obtain ⟨room, empty⟩ := not_or.1 hidden
    rw [readTurn, wp_bind, Interruption.between, wp_act, wp_bind, wp_descriptor, wp_ite, if_neg room, wp_bind,
      wp_readRegister, wp_ite, if_neg empty]
    exact ⟨rfl, rfl⟩
  answers w found := by
    rw [readTurn, wp_bind, Interruption.between, wp_act, wp_bind, wp_descriptor, wp_ite]
    split
    case isTrue full => exact ⟨_, rfl, .full full⟩
    case isFalse room =>
      have ready := found.resolve_left room
      rw [wp_bind, wp_readRegister, wp_ite, if_pos ready]
      exact ⟨_, rfl, .received room ready⟩

/-- A limit other than zero is one less than the number of turns. -/
theorem readPoll_eq (limited : limit ≠ 0) (between : Driver σ Unit) {budget : Nat} {timeout : Word}
    (enough : timeout.toNat < budget) : readPoll env between data limit errCode budget timeout =
      poll (readTurn env between data errCode) (timeout.toNat + 1) := by
  induction budget generalizing timeout with
  | zero => omega
  | succ budget ih =>
    rw [readPoll, poll, readTurn, bind_assoc]
    apply bind_congr
    intro _
    rw [bind_assoc]
    apply bind_congr
    intro uart
    split
    · rw [pure_bind]
    · rw [bind_assoc]
      apply bind_congr
      intro status
      split
      · rw [bind_assoc]
        apply bind_congr
        intro byte
        rw [pure_bind]
      · rw [pure_bind]
        by_cases left : 0 < timeout
        · have fewer := toNat_decrement limited left
          rw [if_pos (Or.inr left), ih (by omega), fewer]
          rfl
        · have zero : timeout.toNat = 0 := by bv_omega
          rw [if_neg (not_or.2 ⟨limited, left⟩), zero]
          rfl

/-- The ways out of `Uart_read` with a limit. -/
inductive ReadExit (env : Env σ) (interruption : Interruption σ) (data : Byte) (limit : Word) (errCode : ErrorCode)
    (w : World σ) : Bool × Byte × ErrorCode → World σ → Prop
  | attached (queue : w.uart.rxFifo ≠ none) :
      ReadExit env interruption data limit errCode w (false, data, .rxFifoNotNull) ((w.masked false).masked true)
  | answered {i : Nat} {result : Bool × Byte × ErrorCode} {w' : World σ} (detached : w.uart.rxFifo = none)
      (first : First (interruption.StopsAt env w) (limit.toNat + 1) i)
      (answer : ReadAnswer env data errCode (interruption.atPoll env w i) result w') :
      ReadExit env interruption data limit errCode w result w'
  | timedOut (detached : w.uart.rxFifo = none) (never : Never (interruption.StopsAt env w) (limit.toNat + 1)) :
      ReadExit env interruption data limit errCode w (false, data, .timeout)
        (((interruption.next env)^[limit.toNat + 1] ((w.masked false).masked true)).masked true)

theorem wp_read_limited (limited : limit ≠ 0) (interruption : Interruption σ) (data : Byte) (errCode : ErrorCode)
    (w : World σ) : wp may (readInterrupted env interruption.between data limit errCode)
      (ReadExit env interruption data limit errCode w) w := by
  rw [readInterrupted, wp_bind, wp_vectorDisable, wp_bind, wp_descriptor, World.masked_uart]
  cases attached : w.uart.rxFifo with
  | some q => exact .attached (by simp [attached])
  | none =>
    rw [wp_bind, wp_vectorEnable, wp_bind, readPoll_eq limited _ (lt_pollBudget env limited)]
    apply wp_mono ((turns_readTurn interruption).wp_poll (limit.toNat + 1) ((w.masked false).masked true))
    intro answer w' ends
    cases ends with
    | answered first answers => exact .answered attached first answers
    | exhausted never => exact .timedOut attached never

end Loop

/-- What `Uart_read` is documented to do with a limit. -/
structure ReadContract (env : Env σ) (interruption : Interruption σ) (data : Byte) (limit : Word) (errCode : ErrorCode)
    (w : World σ) (result : Bool × Byte × ErrorCode) (w' : World σ) : Prop where
  attached : w.uart.rxFifo ≠ none → result = (false, data, .rxFifoNotNull) ∧ w'.trace = w.trace
  full : w.uart.rxFifo = none → ∀ i, First (interruption.StopsAt env w) (limit.toNat + 1) i →
    interruption.FullAt env w i → result = (false, data, .rxFifoFull) ∧
      w'.trace = w.trace ++ statusReads (interruption.statusAt env w) i
  received : w.uart.rxFifo = none → ∀ i, First (interruption.StopsAt env w) (limit.toNat + 1) i →
    ¬ interruption.FullAt env w i → result = (true, (interruption.dataAt env w i).setWidth 8, errCode) ∧
      w'.trace = w.trace ++ statusReads (interruption.statusAt env w) (i + 1) ++ [.read .data (interruption.dataAt env w i)]
  timedOut : w.uart.rxFifo = none → Never (interruption.StopsAt env w) (limit.toNat + 1) →
    result = (false, data, .timeout) ∧ w'.trace = w.trace ++ statusReads (interruption.statusAt env w) (limit.toNat + 1)
  enabled : w'.rtems.enabled w'.vector = true

theorem ReadExit.contract {env : Env σ} {interruption : Interruption σ} {data : Byte} {limit : Word} {errCode : ErrorCode}
    {w w' : World σ} {result : Bool × Byte × ErrorCode} (exit : ReadExit env interruption data limit errCode w result w') :
    ReadContract env interruption data limit errCode w result w' := by
  cases exit with
  | attached queue =>
    exact ⟨fun _ => ⟨rfl, rfl⟩, fun none => absurd none queue, fun none => absurd none queue, fun none => absurd none queue,
      World.masked_enabled _ true⟩
  | answered detached first answer =>
    have polled := interruption.atPoll_trace env w
    have enabled := interruption.atPoll_enabled env w
    cases answer with
    | full full =>
      refine ⟨fun queue => absurd detached queue, ?_, ?_, fun _ never => absurd first never.not_first, enabled _⟩
      · intro _ i other _
        rw [other.unique first]
        exact ⟨rfl, polled _⟩
      · intro _ i other room
        rw [other.unique first] at room
        exact absurd full room
    | received room ready =>
      refine ⟨fun queue => absurd detached queue, ?_, ?_, fun _ never => absurd first never.not_first, enabled _⟩
      · intro _ i other full
        rw [other.unique first] at full
        exact absurd full room
      · intro _ i other _
        rw [other.unique first, World.afterRead_trace, World.afterRead_trace, polled, statusReads_succ,
          ← List.append_assoc]
        exact ⟨rfl, rfl⟩
  | timedOut detached never =>
    refine ⟨fun queue => absurd detached queue, ?_, ?_, ?_, World.masked_enabled _ true⟩
    · intro _ i first
      exact absurd first never.not_first
    · intro _ i first
      exact absurd first never.not_first
    · intro _ _
      exact ⟨rfl, interruption.iterate_trace env w _⟩

/-- **The contract of `Uart_read`.** It is kept on every exit, whatever happens
between the polls. -/
theorem read_contract (env : Env σ) (interruption : Interruption σ) (data : Byte) {limit : Word} (limited : limit ≠ 0)
    (errCode : ErrorCode) (w : World σ) :
    ∃ result w', readInterrupted env interruption.between data limit errCode w = .ok (result, w') ∧
      ReadContract env interruption data limit errCode w result w' := by
  have spec : wp total (readInterrupted env interruption.between data limit errCode) _ w :=
    wp_read_limited limited interruption data errCode w
  obtain ⟨result, w', run, exit⟩ := wp_total spec
  exact ⟨result, w', run, exit.contract⟩

theorem Board.callbacks_keepsEnabled : Callbacks partially Board.env KeepsEnabled where
  refl _ enabled := enabled
  user _ _ _ enabled := enabled

/-- A byte that waits is read although an interrupt comes first. -/
theorem read_contract_interrupted :
    ∃ w', readInterrupted Board.env (Interruption.handler Board.env Board.callbacks_keepsEnabled).between 0 1 .ok
      (Board.world 1 ⟨0, [], [0x41]⟩) = .ok ((true, 0x41, .ok), w') ∧ w'.rtems.enabled w'.vector = true := by
  have limited : (1 : Word) ≠ 0 := by decide
  obtain ⟨result, w', run, contract⟩ := read_contract Board.env
    (Interruption.handler Board.env Board.callbacks_keepsEnabled) 0 limited .ok (Board.world 1 ⟨0, [], [0x41]⟩)
  have first : First ((Interruption.handler Board.env Board.callbacks_keepsEnabled).StopsAt Board.env
      (Board.world 1 ⟨0, [], [0x41]⟩)) ((1 : Word).toNat + 1) 0 := .now (Or.inr rfl)
  have room : ¬ (Interruption.handler Board.env Board.callbacks_keepsEnabled).FullAt Board.env
      (Board.world 1 ⟨0, [], [0x41]⟩) 0 := by
    intro full
    cases full
  obtain ⟨rfl, -⟩ := contract.received rfl 0 first room
  exact ⟨w', run, contract.enabled⟩

end Leon3Bsp.Uart
