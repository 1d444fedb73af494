import Leon3Bsp.Uart.Board
import Leon3Bsp.Uart.Frames

/-!
# A dropped byte and its error flag

`Uart_handleRx` reports a byte it discards in `hasRxFifoFullErrorOccurred`, and
`Uart_handleError` assigns the same flag from the status register at every
interrupt. No other operation of a running driver writes the error flags, so
the report lives until the next interrupt that finds neither.
-/

namespace Leon3Bsp.Uart
set_option autoImplicit false
open Wp

variable {σ : Type}

def World.errorFlags (w : World σ) : ErrorFlags :=
  w.uart.errorFlags

abbrev World.Reported (w : World σ) : Prop :=
  w.uart.errorFlags.hasRxFifoFullErrorOccurred = true

/-- `Uart_handleRx` reads a byte while the reception queue is full. -/
def World.Dropping (w : World σ) (env : Env σ) : Prop :=
  w.RxReady env ∧ ∃ q, w.uart.rxFifo = some q ∧ (w.store.fifo q).isFull = true

/-- `Uart_handleInterrupt` discards a byte. -/
def Drops (env : Env σ) (w : World σ) : Prop :=
  ∃ error w', handleError env w = .ok (error, w') ∧ w'.Dropping env

/-- `Uart_handleInterrupt` finds the receiver full in the status register, or
discards a byte. -/
def ReportsAgain (env : Env σ) (w : World σ) : Prop :=
  getFlag (w.value env .status) Status.RF = true ∨ Drops env w

/-- The functions of the caller leave the error flags alone. -/
def SparesErrorFlags (w w' : World σ) : Prop :=
  w'.errorFlags = w.errorFlags

/-- The operations between two starts of the driver; the handlers run inside
`Uart_handleInterrupt` only. -/
def Operates (_ : World σ) : Call → Prop
  | .init _ | .startup | .shutdown => False
  | .handleError | .handleRx | .handleTx => False
  | _ => True

section Flags

variable {env : Env σ} {w w' : World σ}

theorem ErrorOutcome.errorFlags {error : Bool} (outcome : ErrorOutcome env SparesErrorFlags w error w') :
    w'.errorFlags = w.linkErrors env := by
  cases outcome with
  | quiet clear => rfl
  | reported found callback => exact callback

theorem Matched.errorFlags {buf : Byte} (matched : Matched SparesErrorFlags buf w w') :
    w'.errorFlags = w.errorFlags := by
  cases matched with
  | skipped other => rfl
  | called target callback => exact callback

theorem Counted.errorFlags (counted : Counted SparesErrorFlags w w') : w'.errorFlags = w.errorFlags := by
  cases counted with
  | skipped short => rfl
  | called reached callback => exact callback

theorem RxOutcome.reported_iff {rx : Bool} (outcome : RxOutcome env SparesErrorFlags w rx w') :
    w'.Reported ↔ w.Reported ∨ w.Dropping env := by
  cases outcome with
  | disabled off =>
    have idle : ¬ w.Dropping env := fun dropping => by simp [dropping.1.1] at off
    exact (or_iff_left idle).symm
  | nothing on clear =>
    have idle : ¬ w.Dropping env := fun dropping => by simp [dropping.1.2] at clear
    exact (or_iff_left idle).symm
  | detached ready absent =>
    have idle : ¬ w.Dropping env := by
      rintro ⟨-, q, attached, -⟩
      simp [absent] at attached
    exact (or_iff_left idle).symm
  | dropped ready attached full =>
    have dropping : w.Dropping env := ⟨ready, _, attached, full⟩
    exact iff_of_true rfl (Or.inr dropping)
  | accepted ready attached room matched counted attached' =>
    have idle : ¬ w.Dropping env := by
      rintro ⟨-, q, same, full⟩
      rw [attached] at same
      cases same
      simp [room] at full
    have flags := counted.errorFlags.trans matched.errorFlags
    rw [or_iff_left idle, World.Reported, World.afterPush_uart]
    exact Eq.congr_left (congrArg ErrorFlags.hasRxFifoFullErrorOccurred flags)

theorem TxOutcome.errorFlags {tx : Bool} (outcome : TxOutcome env SparesErrorFlags w tx w') :
    w'.errorFlags = w.errorFlags := by
  cases outcome with
  | disabled off => rfl
  | busy on clear => rfl
  | detached ready absent => rfl
  | idle ready attached empty => rfl
  | sent ready attached held more => rfl
  | drained ready attached held last callback => exact callback

theorem World.Reported.congr (same : w'.errorFlags = w.errorFlags) : w'.Reported ↔ w.Reported :=
  Eq.congr_left (congrArg ErrorFlags.hasRxFifoFullErrorOccurred same)

/-- After an interrupt the flag says what the interrupt found. -/
theorem handleInterrupt_reported_iff (callbacks : Callbacks partially env SparesErrorFlags) :
    wp partially (handleInterrupt env) (fun _ w' => w'.Reported ↔ ReportsAgain env w) w := by
  have detaching : Detaching partially (SparesErrorFlags (σ := σ)) := fun _ _ _ _ _ => trivial
  unfold handleInterrupt
  simp only [wp_bind, wp_pure]
  apply wp_mono (wp_and (wp_handleError callbacks) (wp_ran _ _))
  rintro error w₁ ⟨errorOutcome, ran⟩
  apply wp_mono (wp_handleRx callbacks detaching)
  intro rx w₂ rxOutcome
  apply wp_mono (wp_handleTx callbacks)
  intro tx w₃ txOutcome
  have drops : Drops env w ↔ w₁.Dropping env := by
    constructor
    · rintro ⟨error', w₁', ran', dropping⟩
      rw [ran] at ran'
      cases ran'
      exact dropping
    · exact fun dropping => ⟨error, w₁, ran, dropping⟩
  have status : w₁.Reported ↔ getFlag (w.value env .status) Status.RF = true :=
    Eq.congr_left (congrArg ErrorFlags.hasRxFifoFullErrorOccurred errorOutcome.errorFlags)
  rw [World.Reported.congr txOutcome.errorFlags, rxOutcome.reported_iff, status, ReportsAgain, drops]

end Flags

section Calls

variable {env : Env σ}

/-- Between two starts only an interrupt assigns the error flags. -/
theorem keeps_exec {w : World σ} {call : Call} (operates : Operates w call) (other : call ≠ .handleInterrupt) :
    Keeps partially World.errorFlags (exec env call) := by
  cases call with
  | init | startup | shutdown | handleError | handleRx | handleTx => exact operates.elim
  | handleInterrupt => exact absurd rfl other
  | setConfig | getConfig | write | read | isTxEmpty | isRxEmpty | getTxFifoCount | getRxFifoCount =>
    refine Relates.keeps (masks_exec ?_) fun w w' masks => congrArg Uart.errorFlags masks.uart
    exact trivial
  | writeAsync fifo handler =>
    intro w
    rw [exec, wp_bind]
    apply wp_mono (wp_writeAsync (fun _ => trivial) handler w)
    intro _ w' attached
    rw [wp_pure, World.errorFlags, attached.uart]
    rfl
  | readAsync fifo handler => exact fun _ => rfl
  | registerErrorHandler handler => exact fun _ => rfl
  | arrive data => exact fun _ => rfl
  | push fifo data =>
    intro w
    exact congrArg Uart.errorFlags (w.afterPush_uart fifo data)
  | pull fifo data =>
    intro w
    exact congrArg Uart.errorFlags (w.afterPull_uart fifo data)

theorem exec_interrupt_reported_iff (callbacks : Callbacks partially env SparesErrorFlags) {w w' : World σ}
    {answer : Answer} (run : exec env .handleInterrupt w = .ok (answer, w')) : w'.Reported ↔ ReportsAgain env w := by
  have spec : wp partially (exec env .handleInterrupt) (fun _ w' => w'.Reported ↔ ReportsAgain env w) w := by
    rw [exec, wp_bind]
    exact handleInterrupt_reported_iff callbacks
  have ended := wp_ended spec run
  exact ended

/-- A report outlives a call unless it is an interrupt that finds nothing to report. -/
theorem exec_reported_of_reported_iff (callbacks : Callbacks partially env SparesErrorFlags) {w w' : World σ} {call : Call}
    {answer : Answer} (operates : Operates w call) (run : exec env call w = .ok (answer, w')) (reported : w.Reported) :
    w'.Reported ↔ (call = .handleInterrupt → ReportsAgain env w) := by
  by_cases interrupt : call = .handleInterrupt
  · subst interrupt
    rw [exec_interrupt_reported_iff callbacks run]
    exact ⟨fun again _ => again, fun again => again rfl⟩
  · have spec : wp partially (exec env call) (fun _ w' => w'.errorFlags = w.errorFlags) w :=
      keeps_exec operates interrupt w
    have kept := wp_ended spec run
    exact iff_of_true ((World.Reported.congr kept).2 reported) fun same => absurd same interrupt

end Calls

/-- **A dropped byte stays reported** exactly as long as every later interrupt
finds the receiver full or drops another byte. -/
theorem drop_reported_iff {env : Env σ} (callbacks : Callbacks partially env SparesErrorFlags) {start dropped w : World σ}
    {calls : List (Made σ)} (drop : Drops env start) (interrupt : exec env .handleInterrupt start = .ok (.done, dropped))
    (run : Run env Operates dropped calls w) :
    (dropped.Reported ∧ ∀ made ∈ calls, made.after.Reported) ↔
      ∀ made ∈ calls, made.input = .handleInterrupt → ReportsAgain env made.before := by
  have first : dropped.Reported := (exec_interrupt_reported_iff callbacks interrupt).2 (Or.inr drop)
  rw [and_iff_right first]
  -- a report that has lived so far is the hypothesis of the next step
  apply run.forall_iff (I := World.Reported) first
  intro w call answer w' reported operates ran
  have same := exec_reported_of_reported_iff callbacks operates ran reported
  exact ⟨same, same.2⟩

namespace Board

theorem callbacks_spareErrorFlags : Callbacks partially env SparesErrorFlags :=
  ⟨fun _ => rfl, fun _ _ _ => rfl⟩

/-- The receiver is on and holds `received`; a full queue of one byte is attached. -/
def fullQueue (status : List Word) (received : List Byte) : World Board :=
  { world 1 ⟨1, status, received⟩ with
    uart := { descriptor with rxFifo := some 0 }
    store := ⟨fun _ => 0, fun q => (emptyFifo 1 q).initFromBytes (0x40000000 + 0x10000 * q) 1⟩ }

/-- The world after an interrupt. -/
def interrupted (w : World Board) : World Board :=
  match exec env .handleInterrupt w with
  | .ok (_, w') => w'
  | .error _ => w

theorem fullQueue_drops : Drops env (fullQueue [0, 0, 0] [0x41]) ∧ Drops env (fullQueue [0, 0, 0x400] [0x41]) :=
  ⟨⟨false, _, rfl, ⟨rfl, rfl⟩, 0, rfl, rfl⟩, ⟨false, _, rfl, ⟨rfl, rfl⟩, 0, rfl, rfl⟩⟩

end Board

/-- A drop followed by an interrupt that finds the receiver full. -/
theorem drop_reported_twice :
    let dropped := Board.interrupted (Board.fullQueue [0, 0, 0x400] [0x41])
    dropped.Reported ∧ ∀ made ∈ [(⟨dropped, .handleInterrupt, .done, Board.interrupted dropped⟩ : Made Board)],
      made.after.Reported := by
  refine (drop_reported_iff Board.callbacks_spareErrorFlags Board.fullQueue_drops.2 rfl
    (.one (by trivial) rfl)).2 ?_
  intro made mem _
  rw [List.mem_singleton.1 mem]
  exact Or.inl rfl

/-- A drop, then an interrupt without a byte or an error: the report is gone. -/
theorem drop_forgotten :
    let start := Board.fullQueue [0, 0, 0] [0x41]
    let dropped := Board.interrupted start
    let later := Board.interrupted dropped
    Drops Board.env start ∧ exec Board.env .handleInterrupt start = .ok (.done, dropped) ∧
      Run Board.env Operates dropped [⟨dropped, .handleInterrupt, .done, later⟩] later ∧
      dropped.Reported ∧ ¬ later.Reported :=
  ⟨Board.fullQueue_drops.1, rfl, .one (by trivial) rfl, rfl, by decide⟩

end Leon3Bsp.Uart
