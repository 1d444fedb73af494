import Leon3Bsp.Uart.DropReport

/-!
# Polling a receiver that was full

`Uart_handleError` copies the receiver-full bit of the status register into the
error flags, and `Uart_read` refuses to read while the copy is set. With no
queue attached nothing else empties the receiver, so a copy taken of a full
receiver is true of every later state.
-/

namespace Leon3Bsp.Uart
set_option autoImplicit false
open Wp Execution

variable {σ : Type}

/-- The receiver of the device is a queue of at most `depth` bytes: `DR` tells
whether it holds one and `RF` whether it is full, a read of the data register
takes the oldest, and a byte that finds it full is lost. -/
structure ReceiveFifo (device : Device σ) (held : σ → List Byte) (depth : Nat) : Prop where
  positive : 1 ≤ depth
  bounded : ∀ s, (held s).length ≤ depth
  ready : ∀ s, getFlag (device.read .status s).1 Status.DR = true ↔ held s ≠ []
  full : ∀ s, getFlag (device.read .status s).1 Status.RF = true ↔ (held s).length = depth
  data : ∀ s byte rest, held s = byte :: rest →
    (device.read .data s).1.setWidth 8 = byte ∧ held (device.read .data s).2 = rest
  other : ∀ r s, r ≠ .data → held (device.read r s).2 = held s
  arrived : ∀ byte s, (held s).length < depth → held (device.arrive byte s) = held s ++ [byte]
  lost : ∀ byte s, (held s).length = depth → held (device.arrive byte s) = held s

/-- Bytes arrive, interrupts are handled, and the caller reads. -/
def PollsReceiver : Call → Prop
  | .arrive _ | .handleInterrupt | .read _ _ _ => True
  | _ => False

/-- The caller tries to get at a byte. -/
def Fetches : Call → Prop
  | .handleInterrupt => True
  | .read _ timeoutLimit _ => timeoutLimit ≠ 0
  | _ => False

/-- Some sequence of interrupts and reads with a limit ends with a read that
returns the byte at the head of the receiver. -/
def Delivers (env : Env σ) (held : σ → List Byte) (w : World σ) : Prop :=
  ∃ calls made w', Run env (fun _ => Fetches) w (calls ++ [made]) w' ∧
    ∃ byte errCode, made.output = .received true byte errCode ∧ (held w.hw).head? = some byte

/-- No queue is attached, and the error callback is the empty one. -/
structure Bare (w : World σ) : Prop where
  rxFifo : w.uart.rxFifo = none
  txFifo : w.uart.txFifo = none
  errorHandler : w.uart.errorHandler.callback = .emptyCallback

section Calls

variable {env : Env σ} {held : σ → List Byte} {depth : Nat} {w w' : World σ} {answer : Answer}

theorem Bare.of_uart (bare : Bare w) {errorFlags : ErrorFlags} (uart : w'.uart = { w.uart with errorFlags }) : Bare w' := by
  constructor <;> rw [uart]
  · exact bare.rxFifo
  · exact bare.txFifo
  · exact bare.errorHandler

theorem wp_handleError_bare {may : Fault → Prop} (bare : Bare w) : wp may (handleError env) (fun _ w' =>
    w'.uart = { w.uart with errorFlags := w.linkErrors env } ∧ w'.hw = (w.afterRead env .status).hw) w := by
  unfold handleError
  simp only [wp_bind, wp_readRegister, wp_setErrorFlags, wp_ite, wp_descriptor, wp_pure]
  split
  · simp only [World.withErrorFlags_uart, World.afterRead_uart, bare.errorHandler]
    exact ⟨rfl, rfl⟩
  · exact ⟨rfl, rfl⟩

/-- Without a queue the handlers of the two directions only look at the device. -/
theorem wp_handleRx_bare {may : Fault → Prop} (bare : Bare w) :
    wp may (handleRx env) (fun _ w' => w' = w.afterControl env ∨ w' = w.afterStatus env) w := by
  unfold handleRx receiveByte
  simp only [wp_bind, wp_readRegister, wp_ite, wp_descriptor, wp_pure, World.afterRead_uart, bare.rxFifo]
  split
  · split
    · exact .inr trivial
    · exact .inr trivial
  · exact .inl trivial

theorem wp_handleTx_bare {may : Fault → Prop} (bare : Bare w) :
    wp may (handleTx env) (fun _ w' => w' = w.afterControl env ∨ w' = w.afterStatus env) w := by
  unfold handleTx transmitByte
  simp only [wp_bind, wp_readRegister, wp_ite, wp_descriptor, wp_pure, World.afterRead_uart, bare.txFifo]
  split
  · split
    · exact .inr trivial
    · exact .inr trivial
  · exact .inl trivial

/-- An interrupt copies the state of the receiver, and leaves it as it is. -/
theorem interrupt_copies (fifo : ReceiveFifo env.device held depth) (bare : Bare w)
    (run : exec env .handleInterrupt w = .ok (answer, w')) :
    Bare w' ∧ held w'.hw = held w.hw ∧ (w'.Reported ↔ (held w.hw).length = depth) := by
  have looks {w w' : World σ} (looked : w' = w.afterControl env ∨ w' = w.afterStatus env) :
      w'.uart = w.uart ∧ held w'.hw = held w.hw := by
    rcases looked with rfl | rfl
    · exact ⟨rfl, fifo.other _ _ (by decide)⟩
    · exact ⟨rfl, (fifo.other _ _ (by decide)).trans (fifo.other _ _ (by decide))⟩
  have spec : wp partially (exec env .handleInterrupt)
      (fun _ w' => w'.uart = { w.uart with errorFlags := w.linkErrors env } ∧ held w'.hw = held w.hw) w := by
    simp only [exec, handleInterrupt, wp_bind, wp_pure]
    apply wp_mono (wp_handleError_bare bare)
    rintro _ w₁ ⟨uart₁, hw₁⟩
    have bare₁ : Bare w₁ := bare.of_uart uart₁
    apply wp_mono (wp_handleRx_bare bare₁)
    intro _ w₂ looked₂
    obtain ⟨uart₂, held₂⟩ := looks looked₂
    apply wp_mono (wp_handleTx_bare (bare₁.of_uart uart₂))
    intro _ w₃ looked₃
    obtain ⟨uart₃, held₃⟩ := looks looked₃
    refine ⟨by rw [uart₃, uart₂, uart₁], ?_⟩
    rw [held₃, held₂, hw₁]
    exact fifo.other _ _ (by decide)
  have ended := wp_ended spec run
  obtain ⟨uart, same⟩ := ended
  refine ⟨bare.of_uart uart, same, ?_⟩
  rw [World.Reported, uart]
  exact fifo.full w.hw

theorem read_keeps {data : Byte} {limit : Word} {errCode : ErrorCode}
    (run : exec env (.read data limit errCode) w = .ok (answer, w')) : w'.uart = w.uart := by
  have only : Call.OnlyMasks (.read data limit errCode) := trivial
  have spec : wp partially (exec env (.read data limit errCode)) (fun _ => Masks w) w := masks_exec only w
  have ended := wp_ended spec run
  exact ended.uart

/-- While the copy is set a read takes nothing. -/
theorem read_refused {data : Byte} {limit : Word} {errCode : ErrorCode} (bare : Bare w) (reported : w.Reported)
    (run : exec env (.read data limit errCode) w = .ok (answer, w')) :
    w'.hw = w.hw ∧ ∀ byte errCode, answer ≠ .received true byte errCode := by
  have spec : wp partially (exec env (.read data limit errCode))
      (fun answer w' => w'.hw = w.hw ∧ ∀ byte errCode, answer ≠ .received true byte errCode) w := by
    simp only [exec, read, readInterrupted, wp_bind, wp_vectorDisable, wp_vectorEnable, wp_descriptor, wp_pure,
      World.masked_uart, bare.rxFifo]
    cases pollBudget env limit with
    | zero => trivial
    | succ budget =>
      simp only [readPoll, wp_bind, wp_pure, wp_descriptor, wp_ite, World.masked_uart, reported, if_true]
      exact ⟨rfl, by simp⟩
  have ended := wp_ended spec run
  exact ended

/-- Otherwise it takes the head of the receiver. -/
theorem read_delivers (fifo : ReceiveFifo env.device held depth) (bare : Bare w) (unreported : ¬ w.Reported) {byte : Byte}
    {rest : List Byte} (front : held w.hw = byte :: rest) :
    ∃ w', exec env (.read 0 1 .ok) w = .ok (.received true byte .ok, w') := by
  have spec : wp total (exec env (.read 0 1 .ok)) (fun answer _ => answer = .received true byte .ok) w := by
    have ready : getFlag (w.value env .status) Status.DR = true := (fifo.ready w.hw).2 (by simp [front])
    have taken : ((w.afterRead env .status).value env .data).setWidth 8 = byte := by
      have same : held (w.afterRead env .status).hw = byte :: rest := (fifo.other _ _ (by decide)).trans front
      exact (fifo.data _ _ _ same).1
    simp only [exec, read, readInterrupted, wp_bind, wp_vectorDisable, wp_vectorEnable, wp_descriptor, wp_pure,
      World.masked_uart, bare.rxFifo]
    have budget : pollBudget env 1 = 1 + 1 := rfl
    simp only [budget, readPoll, wp_bind, wp_pure, wp_descriptor, wp_ite, wp_readRegister, wp_readData, World.masked_uart,
      World.masked_value, ready, if_true]
    rw [if_neg unreported]
    exact congrArg (fun byte => Answer.received true byte .ok) taken
  obtain ⟨_, w', run, rfl⟩ := wp_total spec
  exact ⟨w', run⟩

end Calls

section Runs

variable {env : Env σ} {held : σ → List Byte} {depth : Nat} {w w' : World σ} {calls : List (Made σ)}

/-- An interrupt of the run found the receiver full. -/
def MetFull (held : σ → List Byte) (depth : Nat) (calls : List (Made σ)) : Prop :=
  ∃ made ∈ calls, made.input = .handleInterrupt ∧ (held made.before.hw).length = depth

/-- The copy is set once an interrupt found the receiver full, which it has been
ever since. -/
structure Copied (held : σ → List Byte) (depth : Nat) (calls : List (Made σ)) (w : World σ) : Prop where
  bare : Bare w
  copy : w.Reported ↔ MetFull held depth calls
  stays : w.Reported → (held w.hw).length = depth

theorem metFull_snoc {made : Made σ} : MetFull held depth (calls ++ [made]) ↔
    MetFull held depth calls ∨ made.input = .handleInterrupt ∧ (held made.before.hw).length = depth := by
  simp [MetFull, or_and_right, exists_or]

theorem Copied.step (fifo : ReceiveFifo env.device held depth) (copied : Copied held depth calls w) {call : Call}
    {answer : Answer} (polls : PollsReceiver call) (run : exec env call w = .ok (answer, w')) :
    Copied held depth (calls ++ [⟨w, call, answer, w'⟩]) w' := by
  obtain ⟨bare, copy, stays⟩ := copied
  cases call with
  | arrive data =>
    cases run
    refine ⟨bare.of_uart rfl, ?_, fun reported => ?_⟩
    · rw [metFull_snoc]
      exact copy.trans (or_iff_left (fun both => by cases both.1)).symm
    · have full := stays reported
      rw [show held (w.afterArrival env data).hw = held w.hw from fifo.lost data w.hw full, full]
  | handleInterrupt =>
    obtain ⟨bare', same, copied⟩ := interrupt_copies fifo bare run
    refine ⟨bare', ?_, fun reported => ?_⟩
    · rw [metFull_snoc, copied]
      simp only [true_and]
      exact (or_iff_right_of_imp fun met => stays (copy.2 met)).symm
    · rw [same]
      exact copied.1 reported
  | read data limit errCode =>
    have uart := read_keeps run
    have flag : w'.Reported ↔ w.Reported := by rw [World.Reported, uart]
    refine ⟨bare.of_uart uart, ?_, fun reported => ?_⟩
    · rw [metFull_snoc, flag]
      simpa using copy
    · have before := flag.1 reported
      rw [(read_refused bare before run).1]
      exact stays before
  | _ => exact polls.elim

/-- Nothing was delivered and nothing will be. -/
structure Stuck (held : σ → List Byte) (depth : Nat) (calls : List (Made σ)) (w : World σ) : Prop where
  bare : Bare w
  reported : w.Reported
  full : (held w.hw).length = depth
  nothing : ∀ made ∈ calls, ∀ byte errCode, made.output ≠ .received true byte errCode

theorem interrupt_answers {answer : Answer} (run : exec env .handleInterrupt w = .ok (answer, w')) : answer = .done := by
  have spec : wp partially (exec env .handleInterrupt) (fun answer _ => answer = .done) w := by
    rw [exec, wp_bind]
    exact wp_of_ended fun _ _ _ => rfl
  have ended := wp_ended spec run
  exact ended

theorem Stuck.step (fifo : ReceiveFifo env.device held depth) (stuck : Stuck held depth calls w) {call : Call}
    {answer : Answer} (drains : Fetches call) (run : exec env call w = .ok (answer, w')) :
    Stuck held depth (calls ++ [⟨w, call, answer, w'⟩]) w' := by
  obtain ⟨bare, reported, full, nothing⟩ := stuck
  have snoc (last : ∀ byte errCode, answer ≠ .received true byte errCode) :
      ∀ made ∈ calls ++ [⟨w, call, answer, w'⟩], ∀ byte errCode, made.output ≠ .received true byte errCode := by
    rw [List.forall_mem_append, List.forall_mem_singleton]
    exact ⟨nothing, last⟩
  cases call with
  | handleInterrupt =>
    obtain ⟨bare', same, copied⟩ := interrupt_copies fifo bare run
    obtain rfl := interrupt_answers run
    exact ⟨bare', copied.2 full, by rw [same, full], snoc fun _ _ other => by cases other⟩
  | read data limit errCode =>
    obtain ⟨hw, refused⟩ := read_refused bare reported run
    have uart := read_keeps run
    exact ⟨bare.of_uart uart, by rwa [World.Reported, uart], by rw [hw, full], snoc refused⟩
  | _ => exact drains.elim

/-- Once the copy is set no sequence of reads and interrupts delivers a byte. -/
theorem not_delivers (fifo : ReceiveFifo env.device held depth) (bare : Bare w) (reported : w.Reported)
    (full : (held w.hw).length = depth) : ¬ Delivers env held w := by
  rintro ⟨calls, made, w', run, byte, errCode, output, -⟩
  have stuck : Stuck held depth (calls ++ [made]) w' := by
    apply run.invariant (I := Stuck held depth) ⟨bare, reported, full, by simp⟩
    intro calls w call answer w' stuck drains ran
    exact stuck.step fifo drains ran
  exact stuck.nothing made (by simp) byte errCode output

/-- A driver that was set up is bare, and no error is on record. -/
theorem startUp_copied {id : Id} {config : Config} {start initial configured started : World σ}
    (initialise : exec env (.init id) start = .ok (.done, initial))
    (configure : exec env (.setConfig config) initial = .ok (.done, configured))
    (startUp : exec env .startup configured = .ok (.done, started)) : Copied held depth [] started := by
  have bare : Bare initial := by
    have spec : wp total (exec env (.init id)) (fun _ w => Bare w) start := ⟨rfl, rfl, rfl⟩
    have ended := wp_ended spec initialise
    exact ended
  have same : configured.uart = initial.uart := by
    have only : Call.OnlyMasks (.setConfig config) := trivial
    have spec : wp partially (exec env (.setConfig config)) (fun _ => Masks initial) initial := masks_exec only initial
    have ended := wp_ended spec configure
    exact ended.uart
  have begun : wp total (exec env .startup) (fun _ w => (w.uart.rxFifo = configured.uart.rxFifo ∧
      w.uart.txFifo = configured.uart.txFifo ∧ w.uart.errorHandler = configured.uart.errorHandler) ∧ ¬ w.Reported) configured :=
    ⟨⟨rfl, rfl, rfl⟩, Bool.false_ne_true⟩
  have ended := wp_ended begun startUp
  obtain ⟨⟨rx, tx, handler⟩, clear⟩ := ended
  rw [same] at rx tx handler
  refine ⟨⟨rx.trans bare.rxFifo, tx.trans bare.txFifo, by rw [handler, bare.errorHandler]⟩, ?_, fun set => absurd set clear⟩
  exact iff_of_false clear (by simp [MetFull])

end Runs

/-- **Polled reception cannot wedge** exactly if no interrupt found the receiver
full, whatever the configuration. -/
theorem read_delivers_iff {env : Env σ} {held : σ → List Byte} {depth : Nat} (fifo : ReceiveFifo env.device held depth)
    {id : Id} {config : Config} {start initial configured started w : World σ}
    (initialise : exec env (.init id) start = .ok (.done, initial))
    (configure : exec env (.setConfig config) initial = .ok (.done, configured))
    (startUp : exec env .startup configured = .ok (.done, started)) {calls : List (Made σ)}
    (run : Run env (fun _ => PollsReceiver) started calls w) :
    (held w.hw ≠ [] → Delivers env held w) ↔ ¬ MetFull held depth calls := by
  have first : Copied held depth [] started := startUp_copied initialise configure startUp
  have copied : Copied held depth calls w := by
    apply run.invariant (I := Copied held depth) first
    intro calls w call answer w' copied polls ran
    exact copied.step fifo polls ran
  rw [← copied.copy]
  constructor
  · intro delivers reported
    have full := copied.stays reported
    have some : held w.hw ≠ [] := by
      intro empty
      have positive := fifo.positive
      rw [empty, List.length_nil] at full
      omega
    exact not_delivers fifo copied.bare reported full (delivers some)
  · intro unreported some
    obtain ⟨byte, rest, front⟩ := List.exists_cons_of_ne_nil some
    obtain ⟨w', ran⟩ := read_delivers fifo copied.bare unreported front
    have limited : Fetches (.read 0 1 .ok) := by simp [Fetches]
    exact ⟨[], _, w', .snoc .nil limited ran, byte, .ok, rfl, by rw [front]; rfl⟩

/-- A device with room for one received byte. -/
structure Latch where
  control : Word
  received : Option Byte

namespace Latch

def read : Register → Latch → Word × Latch
  | .data, l => ((l.received.getD 0).setWidth 32, { l with received := none })
  | .status, l => (if l.received.isSome then 0x401 else 0, l)
  | .control, l => (l.control, l)
  | .clkscl, l => (0, l)

def device : Device Latch where
  read := read
  write
    | .control, value, l => { l with control := value }
    | _, _, l => l
  arrive byte l := { l with received := some (l.received.getD byte) }

def env : Env Latch :=
  ⟨device, fun _ _ => pure (), 80000000, 0⟩

def world : World Latch where
  uart := Board.descriptor
  store := ⟨fun _ => 0, Board.emptyFifo 1⟩
  rtems := .idle
  hw := ⟨0, none⟩
  trace := []

theorem receiveFifo : ReceiveFifo device (fun l => l.received.toList) 1 where
  positive := Nat.le_refl 1
  bounded l := by cases l.received <;> simp
  ready l := by
    have shown : getFlag (if l.received.isSome then 0x401 else 0) Status.DR = l.received.isSome := by
      cases l.received.isSome <;> decide
    refine (Eq.congr_left shown).trans ?_
    cases l.received <;> simp
  full l := by
    have shown : getFlag (if l.received.isSome then 0x401 else 0) Status.RF = l.received.isSome := by
      cases l.received.isSome <;> decide
    refine (Eq.congr_left shown).trans ?_
    cases l.received <;> simp
  data l byte rest front := by
    obtain ⟨_, _ | received⟩ := l
    · cases front
    · cases front
      exact ⟨BitVec.setWidth_setWidth_of_le _ (by decide), rfl⟩
  other r l other := by
    cases r with
    | data => exact absurd rfl other
    | status | control | clkscl => rfl
  arrived byte l room := by
    obtain ⟨_, _ | received⟩ := l
    · rfl
    · exact absurd room (by simp)
  lost byte l full := by
    obtain ⟨_, _ | received⟩ := l
    · cases full
    · rfl

end Latch

/-- An interrupt, then a byte: it can be read. -/
theorem read_delivers_empty :
    ∃ initial configured started calls w, exec Latch.env (.init .id0) Latch.world = .ok (.done, initial) ∧
      exec Latch.env (.setConfig ⟨false, true, false, .none, .b9600, 0⟩) initial = .ok (.done, configured) ∧
      exec Latch.env .startup configured = .ok (.done, started) ∧
      calls.map (fun made => made.input) = [.handleInterrupt, .arrive 0x41] ∧
      Run Latch.env (fun _ => PollsReceiver) started calls w ∧ w.hw.received = some 0x41 ∧
      Delivers Latch.env (fun l => l.received.toList) w := by
  obtain ⟨initial, configured, started, calls, w, initialise, configure, startUp, inputs, run, received, quiet⟩ :
      ∃ initial configured started calls w, exec Latch.env (.init .id0) Latch.world = .ok (.done, initial) ∧
        exec Latch.env (.setConfig ⟨false, true, false, .none, .b9600, 0⟩) initial = .ok (.done, configured) ∧
        exec Latch.env .startup configured = .ok (.done, started) ∧
        calls.map (fun made => made.input) = [.handleInterrupt, .arrive 0x41] ∧
        Run Latch.env (fun _ => PollsReceiver) started calls w ∧ w.hw.received = some 0x41 ∧
        ¬ MetFull (fun l => l.received.toList) 1 calls := by
    refine ⟨_, _, _, _, _, rfl, rfl, rfl, ?inputs, (Run.snoc (i := .handleInterrupt) .nil (by trivial) rfl).snoc
      (i := .arrive 0x41) (by trivial) rfl, rfl, ?quiet⟩
    case inputs => rfl
    case quiet =>
      intro met
      rcases metFull_snoc.1 met with earlier | ⟨other, _⟩
      · rcases metFull_snoc.1 earlier with ⟨_, none, _⟩ | ⟨_, full⟩
        · cases none
        · cases full
      · cases other
  refine ⟨initial, configured, started, calls, w, initialise, configure, startUp, inputs, run, received, ?_⟩
  exact (read_delivers_iff Latch.receiveFifo initialise configure startUp run).2 quiet (by simp [received])

/-- A byte, then an interrupt: it can never be read. -/
theorem read_wedged :
    ∃ initial configured started calls w, exec Latch.env (.init .id0) Latch.world = .ok (.done, initial) ∧
      exec Latch.env (.setConfig ⟨false, true, false, .none, .b9600, 0⟩) initial = .ok (.done, configured) ∧
      exec Latch.env .startup configured = .ok (.done, started) ∧
      calls.map (fun made => made.input) = [.arrive 0x41, .handleInterrupt] ∧
      Run Latch.env (fun _ => PollsReceiver) started calls w ∧ w.hw.received = some 0x41 ∧
      ¬ Delivers Latch.env (fun l => l.received.toList) w := by
  refine ⟨_, _, _, _, _, rfl, rfl, rfl, ?inputs, (Run.snoc (i := .arrive 0x41) .nil (by trivial) rfl).snoc
    (i := .handleInterrupt) (by trivial) rfl, rfl, not_delivers Latch.receiveFifo ⟨rfl, rfl, rfl⟩ rfl rfl⟩
  rfl

end Leon3Bsp.Uart
