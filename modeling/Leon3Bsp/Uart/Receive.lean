import Leon3Bsp.Lib.Conservation
import Leon3Bsp.Uart.Board
import Leon3Bsp.Uart.Effects

/-!
# The received stream

The receiver of the device is a list of bytes. Two consumers take from it, the
polling `Uart_read` and the interrupt, and `rxFifo` decides which: a byte is
returned, queued at the tail of the attached queue, or dropped because that
queue is full. Each call conserves the receiver and every reception queue.
-/

namespace Leon3Bsp.Uart
set_option autoImplicit false
open Wp Execution Conservation

variable {σ : Type}

/-- The part of the device that receives holds the bytes `held`: they arrive at
the tail, `DR` tells whether there is one, and reading the data register takes
the oldest. Everything else about the device is arbitrary. -/
structure Receiver (device : Device σ) (held : σ → List Byte) : Prop where
  arrive : ∀ byte s, held (device.arrive byte s) = held s ++ [byte]
  ready : ∀ s, getFlag (device.read .status s).1 Status.DR = true ↔ held s ≠ []
  data : ∀ s byte rest, held s = byte :: rest →
    (device.read .data s).1.setWidth 8 = byte ∧ held (device.read .data s).2 = rest
  other : ∀ r s, r ≠ .data → held (device.read r s).2 = held s
  written : ∀ r value s, held (device.write r value s) = held s

/-- The attached queues are among `queues`, and they are two. -/
structure Receiving (queues : Set FifoRef) (w : World σ) : Prop where
  separate : Store.Separate queues w.store
  txMember : ∀ q, w.uart.txFifo = some q → q ∈ queues
  rxMember : ∀ q, w.uart.rxFifo = some q → q ∈ queues ∧ w.uart.txFifo ≠ some q

/-- The calls of a run: bytes arrive, interrupts, reads with a limit, attachments
of a reception queue, pulls from the attached one. -/
def Receives (queues : Set FifoRef) (w : World σ) : Call → Prop
  | .arrive _ | .handleInterrupt | .handleRx => True
  | .read _ timeoutLimit _ => timeoutLimit ≠ 0
  | .readAsync fifo _ => ∃ q ∈ queues, fifo = some q ∧ w.uart.txFifo ≠ some q
  | .pull fifo _ => w.uart.rxFifo = some fifo
  | _ => False

/-- The bytes that arrive by a call. -/
def arrived : Call → List Byte
  | .arrive byte => [byte]
  | _ => []

/-- What moved between two worlds. -/
structure Moves (held : σ → List Byte) (queues : Set FifoRef) (w w' : World σ) (entered : List Byte)
    (segment : List Event) : Prop where
  trace : w'.trace = w.trace ++ segment
  txFifo : w'.uart.txFifo = w.uart.txFifo
  receiver : Conserved (held w.hw) entered (dataRead segment) (held w'.hw)
  queue : ∀ q ∈ queues, w.uart.txFifo ≠ some q →
    Conserved (w.store.contents q) (pushedTo q segment) (pulledFrom q segment) (w'.store.contents q)

/-- `Uart_handleRx`, entered with the device in `s`, is to take a byte. -/
def Takes (env : Env σ) (held : σ → List Byte) (s : σ) (w : World σ) : Prop :=
  getFlag (env.device.read .control s).1 Control.RE = true ∧ held s ≠ [] ∧ w.uart.rxFifo ≠ none

/-- What became of the byte that `Uart_handleRx`, entered with the device in
`s`, took from the receiver. -/
inductive Fate (env : Env σ) (held : σ → List Byte) (s : σ) (w w' : World σ) (segment : List Event) : Prop
  | idle (idle : ¬ Takes env held s w) (taken : dataRead segment = []) (pushed : ∀ r, pushedTo r segment = [])
  | queued {q : FifoRef} {byte : Byte} (takes : Takes env held s w) (attached : w.uart.rxFifo = some q)
      (room : (w.store.contents q).length < w.store.capacity q) (taken : dataRead segment = [byte])
      (pushed : ∀ r, pushedTo r segment = if r = q then [byte] else [])
      (tail : w'.store.contents q = w.store.contents q ++ [byte])
  | dropped {q : FifoRef} {byte : Byte} (takes : Takes env held s w) (attached : w.uart.rxFifo = some q)
      (full : (w.store.contents q).length = w.store.capacity q) (taken : dataRead segment = [byte])
      (pushed : ∀ r, pushedTo r segment = [])

/-- What became of the byte a call took from the receiver. -/
inductive Received (env : Env σ) (held : σ → List Byte) (made : Made σ) : Prop
  | returned {data byte : Byte} {limit : Word} {errCode errCode' : ErrorCode} (call : made.input = .read data limit errCode)
      (returned : made.output = .received true byte errCode') (detached : made.before.uart.rxFifo = none)
      (taken : dataRead (events made) = [byte]) (pushed : ∀ q, pushedTo q (events made) = [])
  | handled (call : made.input = .handleRx)
      (fate : Fate env held made.before.hw made.before made.after (events made))
  | interrupted (call : made.input = .handleInterrupt)
      (fate : Fate env held (env.device.read .status made.before.hw).2 made.before made.after (events made))
  | other (call : made.input ≠ .handleRx ∧ made.input ≠ .handleInterrupt)
      (unreturned : ∀ byte errCode, made.output ≠ .received true byte errCode)
      (taken : dataRead (events made) = []) (pushed : ∀ q, pushedTo q (events made) = [])

/-- What one call of a run does. -/
structure ReceiveStep (env : Env σ) (held : σ → List Byte) (queues : Set FifoRef) (made : Made σ) : Prop where
  receiving : Receiving queues made.after
  moves : ∃ segment, Moves held queues made.before made.after (arrived made.input) segment
  received : Received env held made

section Moves

variable {env : Env σ} {held : σ → List Byte} {queues : Set FifoRef} {w w' w'' : World σ} {entered entered' : List Byte}
  {segment segment' : List Event}

theorem Receiving.path (receiving : Receiving queues w) (path : SameQueues w w')
    (separate : Store.Separate queues w'.store) : Receiving queues w' := by
  refine ⟨separate, ?_, ?_⟩
  · rw [path.txFifo]
    exact receiving.txMember
  · rw [path.rxFifo, path.txFifo]
    exact receiving.rxMember

theorem Moves.trans (first : Moves held queues w w' entered segment) (second : Moves held queues w' w'' entered' segment') :
    Moves held queues w w'' (entered ++ entered') (segment ++ segment') := by
  refine ⟨?_, second.txFifo.trans first.txFifo, ?_, fun q member other => ?_⟩
  · rw [second.trace, first.trace, List.append_assoc]
  · rw [dataRead_append]
    exact first.receiver.trans second.receiver
  · rw [pushedTo_append, pulledFrom_append]
    exact (first.queue q member other).trans (second.queue q member (first.txFifo ▸ other))

theorem Receiver.quiet (receiver : Receiver env.device held) {s s' : σ} (quiet : Quiet env.device s s') :
    held s' = held s := by
  induction quiet with
  | refl => rfl
  | tail earlier last ih =>
    rcases last with ⟨r, other, rfl⟩ | ⟨r, value, rfl⟩
    · rw [receiver.other r _ other, ih]
    · rw [receiver.written, ih]

/-- The data register is read where the status register shows `DR`. -/
theorem Receiver.takes (receiver : Receiver env.device held) {s : σ}
    (ready : getFlag (env.device.read .status s).1 Status.DR = true) :
    held s = (env.device.read .data (env.device.read .status s).2).1.setWidth 8 ::
      held (env.device.read .data (env.device.read .status s).2).2 := by
  obtain ⟨byte, rest, front⟩ := List.exists_cons_of_ne_nil ((receiver.ready s).1 ready)
  have front' : held (env.device.read .status s).2 = byte :: rest := by
    rw [receiver.other .status s (by decide), front]
  obtain ⟨taken, left⟩ := receiver.data _ byte rest front'
  rw [taken, left, front]

theorem Passes.moves (passes : Passes env.device queues w w' segment) (receiver : Receiver env.device held)
    (receiving : Receiving queues w) : Moves held queues w w' [] segment := by
  refine ⟨passes.trace, passes.path.txFifo, ?_, fun q member _ => ?_⟩
  · rw [passes.silent.dataRead]
    exact .of_eq (receiver.quiet passes.hw)
  · rw [passes.silent.pushedTo, passes.silent.pulledFrom]
    exact .of_eq (passes.store.contents receiving.separate member)

/-- `Uart_handleRx` tests the control register and `DR`. -/
theorem rxReady_iff (receiver : Receiver env.device held) :
    w.RxReady env ↔ getFlag (env.device.read .control w.hw).1 Control.RE = true ∧ held w.hw ≠ [] := by
  have kept : held (w.afterControl env).hw = held w.hw := receiver.other .control _ (by decide)
  unfold World.RxReady
  rw [← kept, ← receiver.ready]
  rfl

theorem Receiver.rxByte (receiver : Receiver env.device held) (ready : w.RxReady env) :
    held w.hw = w.rxByte env :: held (w.afterData env).hw := by
  have kept : held (w.afterControl env).hw = held w.hw := receiver.other .control _ (by decide)
  rw [← kept]
  exact receiver.takes ready.2

theorem takes_of_ready (receiver : Receiver env.device held) {q : FifoRef} (ready : w.RxReady env)
    (attached : w.uart.rxFifo = some q) : Takes env held w.hw w := by
  obtain ⟨on, some⟩ := (rxReady_iff receiver).1 ready
  exact ⟨on, some, by simp [attached]⟩

/-- `Uart_handleRx` reads the data register once, before anything else. -/
theorem dataRead_rxReads (env : Env σ) (w : World σ) {rest : List Event} (unread : dataRead rest = []) :
    dataRead (w.rxReads env ++ rest) = [w.rxByte env] := by
  rw [dataRead_append, unread]
  rfl

theorem pushedTo_rxReads (r : FifoRef) (env : Env σ) (w : World σ) (rest : List Event) :
    pushedTo r (w.rxReads env ++ rest) = pushedTo r rest :=
  pushedTo_append _ _ _

theorem pulledFrom_rxReads (r : FifoRef) (env : Env σ) (w : World σ) (rest : List Event) :
    pulledFrom r (w.rxReads env ++ rest) = pulledFrom r rest :=
  pulledFrom_append _ _ _

/-- Reception moves at most one byte, from the receiver to the attached queue. -/
theorem RxEffect.fate (effect : RxEffect env queues w w') (receiver : Receiver env.device held)
    (receiving : Receiving queues w) :
    ∃ segment, Moves held queues w w' [] segment ∧ Receiving queues w' ∧ Fate env held w.hw w w' segment := by
  cases effect with
  | idle idle passed =>
    obtain ⟨segment, passes⟩ := passed
    refine ⟨segment, passes.moves receiver receiving, receiving.path passes.path (passes.store.separate receiving.separate),
      .idle ?_ passes.silent.dataRead passes.silent.pushedTo⟩
    rintro ⟨on, some, attached⟩
    rcases idle with unready | absent
    · exact unready ((rxReady_iff receiver).2 ⟨on, some⟩)
    · exact attached absent
  | dropped ready attached full path store hw trace silent =>
    rename_i q segment
    have taken := dataRead_rxReads env w silent.dataRead
    have member := (receiving.rxMember q attached).1
    rw [World.afterData_trace, List.append_assoc] at trace
    refine ⟨_, ⟨trace, path.txFifo, ?_, fun r member' _ => ?_⟩, receiving.path path (store.separate receiving.separate),
      .dropped (takes_of_ready receiver ready attached) attached
        ((Store.isFull_iff receiving.separate member).1 full) taken ?_⟩
    · rw [taken, receiver.rxByte ready, receiver.quiet hw]
      exact .leave _ _
    · rw [pushedTo_rxReads, pulledFrom_rxReads, silent.pushedTo, silent.pulledFrom]
      exact .of_eq (store.contents receiving.separate member')
    · intro r
      rw [pushedTo_rxReads, silent.pushedTo]
  | queued ready attached room path store hw trace silent =>
    rename_i q segment
    have beside : dataRead (segment ++ [.pushed q (w.rxByte env)]) = [] := by
      rw [dataRead_append, silent.dataRead]
      rfl
    have taken := dataRead_rxReads env w beside
    have member := (receiving.rxMember q attached).1
    have pushed (r : FifoRef) : pushedTo r (w.rxReads env ++ (segment ++ [.pushed q (w.rxByte env)])) =
        if r = q then [w.rxByte env] else [] := by
      rw [pushedTo_rxReads, pushedTo_append, silent.pushedTo, List.nil_append, pushedTo_pushed]
    have pulled (r : FifoRef) : pulledFrom r (w.rxReads env ++ (segment ++ [.pushed q (w.rxByte env)])) = [] := by
      rw [pulledFrom_rxReads, pulledFrom_append, silent.pulledFrom]
      rfl
    have short : (w.store.contents q).length < w.store.capacity q := by
      refine Nat.lt_of_le_of_ne (Store.length_le receiving.separate member) fun full => ?_
      rw [← Store.isFull_iff receiving.separate member, room] at full
      cases full
    rw [World.afterData_trace, List.append_assoc] at trace
    refine ⟨_, ⟨trace, path.txFifo, ?_, fun r member' _ => ?_⟩, receiving.path path store.separate,
      .queued (takes_of_ready receiver ready attached) attached short taken pushed store.here⟩
    · rw [taken, receiver.rxByte ready, receiver.quiet hw]
      exact .leave _ _
    · rw [pushed, pulled]
      split
      case isTrue here =>
        subst here
        rw [store.here]
        exact .enter _ _
      case isFalse apart => exact .of_eq (store.elsewhere r member' apart)

/-- Transmission moves nothing on the reception side. -/
theorem TxEffect.moves (effect : TxEffect env queues w w') (receiver : Receiver env.device held)
    (receiving : Receiving queues w) :
    ∃ segment, Moves held queues w w' [] segment ∧ Receiving queues w' ∧ dataRead segment = [] ∧
      (∀ r, pushedTo r segment = []) ∧
      ∀ q ∈ queues, w.uart.txFifo ≠ some q → w'.store.contents q = w.store.contents q := by
  cases effect with
  | idle idle passed =>
    obtain ⟨segment, passes⟩ := passed
    exact ⟨segment, passes.moves receiver receiving,
      receiving.path passes.path (passes.store.separate receiving.separate), passes.silent.dataRead,
      passes.silent.pushedTo, fun q member _ => passes.store.contents receiving.separate member⟩
  | sent ready attached front path store hw trace callback =>
    rename_i q byte rest ended
    have apart {r : FifoRef} (other : w.uart.txFifo ≠ some r) : r ≠ q := by
      rintro rfl
      exact other attached
    have beside : dataRead ended = [] ∧ (∀ r, pushedTo r ended = []) ∧ ∀ r, pulledFrom r ended = [] := by
      rcases callback with ⟨-, rfl⟩ | ⟨-, uart, store, rfl⟩ <;> exact ⟨rfl, fun _ => rfl, fun _ => rfl⟩
    obtain ⟨unread, unpushed, unpulled⟩ := beside
    refine ⟨_, ⟨trace, path.txFifo, ?_, fun r member other => ?_⟩, receiving.path path store.separate, ?_, ?_,
      fun r member other => store.elsewhere r member (apart other)⟩
    · rw [dataRead_append, unread]
      exact .of_eq (receiver.quiet hw)
    · rw [pushedTo_append, pulledFrom_append, unpushed, unpulled]
      exact .of_eq (store.elsewhere r member (apart other))
    · rw [dataRead_append, unread]
      rfl
    · intro r
      rw [pushedTo_append, unpushed]
      rfl

/-- What is done around `Uart_handleRx` does not change the fate of its byte. -/
theorem Fate.frame {s : σ} {w₁ w₂ w₃ : World σ} {s₁ s₂ : List Event} (fate : Fate env held s w₁ w₂ segment)
    (receiving : Receiving queues w) (passes : Passes env.device queues w w₁ s₁) (unread : dataRead s₂ = [])
    (unpushed : ∀ r, pushedTo r s₂ = [])
    (kept : ∀ q ∈ queues, w₁.uart.txFifo ≠ some q → w₃.store.contents q = w₂.store.contents q) :
    Fate env held s w w₃ (s₁ ++ segment ++ s₂) := by
  have takes : Takes env held s w₁ ↔ Takes env held s w := by
    unfold Takes
    rw [passes.path.rxFifo]
  have read : dataRead (s₁ ++ segment ++ s₂) = dataRead segment := by
    rw [dataRead_append, dataRead_append, passes.silent.dataRead, unread, List.nil_append, List.append_nil]
  have pushes (r : FifoRef) : pushedTo r (s₁ ++ segment ++ s₂) = pushedTo r segment := by
    rw [pushedTo_append, pushedTo_append, passes.silent.pushedTo, unpushed, List.nil_append, List.append_nil]
  cases fate with
  | idle idle taken pushed =>
    exact .idle (takes.not.1 idle) (read.trans taken) fun r => (pushes r).trans (pushed r)
  | queued took attached room taken pushed tail =>
    rw [passes.path.rxFifo] at attached
    obtain ⟨member, other⟩ := receiving.rxMember _ attached
    rw [passes.store.contents receiving.separate member] at room tail
    rw [passes.store.capacity member] at room
    refine .queued (takes.1 took) attached room (read.trans taken) (fun r => (pushes r).trans (pushed r)) ?_
    rw [kept _ member (passes.path.txFifo ▸ other), tail]
  | dropped took attached full taken pushed =>
    rw [passes.path.rxFifo] at attached
    obtain ⟨member, -⟩ := receiving.rxMember _ attached
    rw [passes.store.contents receiving.separate member, passes.store.capacity member] at full
    exact .dropped (takes.1 took) attached full (read.trans taken) fun r => (pushes r).trans (pushed r)

end Moves

/-- How the poll of `Uart_read` ends: it gives up, or it takes a byte. -/
inductive Polled (env : Env σ) (queues : Set FifoRef) (errCode : ErrorCode) (w : World σ) :
    Option (Bool × Byte × ErrorCode) → World σ → Prop
  | gaveUp {polled : Option (Bool × Byte × ErrorCode)} {w' : World σ} (refused : ∀ r ∈ polled, r.1 = false)
      (passed : Passed env.device queues w w') : Polled env queues errCode w polled w'
  | took {w₁ : World σ} (passed : Passed env.device queues w w₁)
      (ready : getFlag (w₁.value env .status) Status.DR = true) :
      Polled env queues errCode w (some (true, ((w₁.afterRead env .status).value env .data).setWidth 8, errCode))
        ((w₁.afterRead env .status).afterRead env .data)

section Calls

variable {env : Env σ} {held : σ → List Byte} {queues : Set FifoRef} {w w' : World σ}

theorem Polled.later {errCode : ErrorCode} {polled : Option (Bool × Byte × ErrorCode)} {w₁ : World σ}
    (passed : Passed env.device queues w w₁) (later : Polled env queues errCode w₁ polled w') :
    Polled env queues errCode w polled w' := by
  cases later with
  | gaveUp refused passed' => exact .gaveUp refused (passed.trans passed')
  | took passed' ready => exact .took (passed.trans passed') ready

/-- A limit other than zero is counted down to zero within its budget. -/
theorem wp_readPoll {data : Byte} {limit : Word} {errCode : ErrorCode} (limited : limit ≠ 0) :
    ∀ (budget : Nat) (timeout : Word), timeout.toNat < budget → ∀ w : World σ,
      wp total (readPoll env (pure ()) data limit errCode budget timeout) (Polled env queues errCode w) w := by
  intro budget
  induction budget with
  | zero =>
    intro timeout enough
    exact absurd enough (Nat.not_lt_zero _)
  | succ budget ih =>
    intro timeout enough w
    unfold readPoll
    simp only [wp_bind, wp_pure, wp_descriptor, wp_ite, wp_readRegister, wp_readData]
    split
    · exact .gaveUp (by simp) (.refl w)
    · split
      case isTrue ready => exact .took (.refl w) ready
      case isFalse unready =>
        have read : Passed env.device queues w (w.afterRead env .status) := passed_afterRead (by decide) w
        split
        case isFalse spent => exact .gaveUp (by simp) read
        case isTrue left =>
          have positive : 0 < timeout := left.resolve_left limited
          have fewer := toNat_decrement limited positive
          apply wp_mono (ih _ (by omega) _)
          intro polled w' later
          exact later.later read

/-- `Uart_read` takes a byte only while no reception queue is attached. -/
inductive ReadOutcome (env : Env σ) (queues : Set FifoRef) (w : World σ) : Bool × Byte × ErrorCode → World σ → Prop
  | refused {data : Byte} {errCode : ErrorCode} {w' : World σ} (passed : Passed env.device queues w w') :
      ReadOutcome env queues w (false, data, errCode) w'
  | took {w₁ : World σ} {errCode : ErrorCode} (detached : w.uart.rxFifo = none) (passed : Passed env.device queues w w₁)
      (ready : getFlag (w₁.value env .status) Status.DR = true) :
      ReadOutcome env queues w (true, ((w₁.afterRead env .status).value env .data).setWidth 8, errCode)
        ((w₁.afterRead env .status).afterRead env .data)

theorem passed_masked (enabled : Bool) (w : World σ) : Passed env.device queues w (w.masked enabled) :=
  ⟨[], ⟨rfl, rfl⟩, .refl queues w.store, .refl, (List.append_nil _).symm, .nil⟩

theorem wp_read {data : Byte} {limit : Word} {errCode : ErrorCode} (limited : limit ≠ 0) (w : World σ) :
    wp total (read env data limit errCode) (ReadOutcome env queues w) w := by
  have masked : Passed env.device queues w ((w.masked false).masked true) :=
    (passed_masked false w).trans (passed_masked true _)
  unfold read readInterrupted
  simp only [wp_bind, wp_vectorDisable, wp_descriptor, World.masked_uart]
  cases attached : w.uart.rxFifo with
  | some q => exact .refused masked
  | none =>
    simp only [wp_bind, wp_vectorEnable]
    apply wp_mono (wp_readPoll limited _ _ (lt_pollBudget env limited) _)
    intro polled w' outcome
    cases outcome.later masked with
    | gaveUp refused passed =>
      cases polled with
      | none => exact .refused (passed.trans (passed_masked true w'))
      | some returned =>
        obtain ⟨result, data, code⟩ := returned
        obtain rfl : result = false := refused _ rfl
        exact .refused passed
    | took passed ready => exact .took attached passed ready

/-- A call that takes no byte from the receiver and is no interrupt. -/
theorem ReceiveStep.other {call : Call} {answer : Answer} {segment : List Event} (receiving : Receiving queues w')
    (moves : Moves held queues w w' (arrived call) segment) (other : call ≠ .handleRx ∧ call ≠ .handleInterrupt)
    (unreturned : ∀ byte errCode, answer ≠ .received true byte errCode) (untaken : dataRead segment = [])
    (unpushed : ∀ q, pushedTo q segment = []) : ReceiveStep env held queues ⟨w, call, answer, w'⟩ := by
  have same : events (⟨w, call, answer, w'⟩ : Made σ) = segment := events_eq moves.trace
  refine ⟨receiving, ⟨segment, moves⟩, .other other unreturned ?_ ?_⟩ <;> rw [same]
  · exact untaken
  · exact unpushed

theorem ReceiveStep.beside {call : Call} {answer : Answer} {segment : List Event}
    (passes : Passes env.device queues w w' segment) (receiver : Receiver env.device held)
    (receiving : Receiving queues w) (none : arrived call = []) (other : call ≠ .handleRx ∧ call ≠ .handleInterrupt)
    (unreturned : ∀ byte errCode, answer ≠ .received true byte errCode) :
    ReceiveStep env held queues ⟨w, call, answer, w'⟩ := by
  have moves : Moves held queues w w' (arrived call) segment := by
    rw [none]
    exact passes.moves receiver receiving
  exact .other (receiving.path passes.path (passes.store.separate receiving.separate)) moves other unreturned
    passes.silent.dataRead passes.silent.pushedTo

theorem harmless_detaching : Detaching total (Harmless (σ := σ) queues) := by
  intro w w' harmless attached absent
  rw [harmless.uart] at absent
  exact attached absent

theorem receiveStep_handleRx (receiver : Receiver env.device held) (callbacks : Callbacks total env (Harmless queues))
    (receiving : Receiving queues w) :
    wp total (exec env .handleRx) (fun answer w' => ReceiveStep env held queues ⟨w, .handleRx, answer, w'⟩) w := by
  rw [exec, wp_bind]
  apply wp_mono (wp_handleRx callbacks harmless_detaching)
  intro result w' outcome
  have effect := outcome.effect receiving.separate fun q attached => (receiving.rxMember q attached).1
  obtain ⟨segment, moves, receiving', fate⟩ := effect.fate receiver receiving
  refine ⟨receiving', ⟨segment, moves⟩, .handled rfl ?_⟩
  rw [events_eq moves.trace]
  exact fate

/-- `Uart_handleError` reads the status register once. -/
theorem ErrorOutcome.hw {error : Bool} (outcome : ErrorOutcome env (Harmless queues) w error w') :
    w'.hw = (env.device.read .status w.hw).2 := by
  cases outcome with
  | quiet clear => rfl
  | reported found callback => exact callback.hw

theorem receiveStep_handleInterrupt (receiver : Receiver env.device held)
    (callbacks : Callbacks total env (Harmless queues)) (receiving : Receiving queues w) :
    wp total (exec env .handleInterrupt)
      (fun answer w' => ReceiveStep env held queues ⟨w, .handleInterrupt, answer, w'⟩) w := by
  rw [exec, wp_bind]
  apply wp_mono (wp_handleInterrupt callbacks harmless_detaching)
  rintro - w₃ ⟨errorOutcome, rxOutcome, txOutcome⟩
  rename_i w₁ w₂ _ _ _
  obtain ⟨s₁, passes⟩ := errorOutcome.absorbed (absorbs_passed env).toAbsorbs
  have receiving₁ := receiving.path passes.path (passes.store.separate receiving.separate)
  obtain ⟨s₂, moves₂, receiving₂, fate⟩ :=
    (rxOutcome.effect receiving₁.separate fun q attached => (receiving₁.rxMember q attached).1).fate receiver receiving₁
  obtain ⟨s₃, moves₃, receiving₃, unread, unpushed, kept⟩ :=
    (txOutcome.effect receiving₂.separate receiving₂.txMember).moves receiver receiving₂
  have moves := ((passes.moves receiver receiving).trans moves₂).trans moves₃
  refine ⟨receiving₃, ⟨_, moves⟩, .interrupted rfl ?_⟩
  rw [events_eq moves.trace]
  rw [errorOutcome.hw] at fate
  exact fate.frame receiving passes unread unpushed fun q member other => kept q member (moves₂.txFifo ▸ other)

theorem receiveStep_read (receiver : Receiver env.device held) (receiving : Receiving queues w) (data : Byte)
    {limit : Word} (limited : limit ≠ 0) (errCode : ErrorCode) :
    wp total (exec env (.read data limit errCode))
      (fun answer w' => ReceiveStep env held queues ⟨w, .read data limit errCode, answer, w'⟩) w := by
  rw [exec, wp_bind]
  have spec : wp total (read env data limit errCode) (ReadOutcome env queues w) w := wp_read limited w
  apply wp_mono spec
  intro r w' outcome
  cases outcome with
  | refused passed =>
    obtain ⟨segment, passes⟩ := passed
    exact .beside passes receiver receiving rfl ⟨by simp, by simp⟩ (by simp)
  | took detached passed ready =>
    rename_i w₁ code
    obtain ⟨segment, passes⟩ := passed
    have receiving₁ := receiving.path passes.path (passes.store.separate receiving.separate)
    have taking : Moves held queues w₁ ((w₁.afterRead env .status).afterRead env .data) []
        [.read .status (w₁.value env .status), .read .data ((w₁.afterRead env .status).value env .data)] := by
      refine ⟨List.append_assoc _ _ _, rfl, ?_, fun _ _ _ => .refl _⟩
      rw [receiver.takes ready]
      exact .leave _ _
    have moves := (passes.moves receiver receiving).trans taking
    refine ⟨receiving₁.path ⟨rfl, rfl⟩ receiving₁.separate, ⟨_, moves⟩, .returned rfl rfl detached ?_ fun q => ?_⟩
    · rw [events_eq moves.trace, dataRead_append, passes.silent.dataRead]
      rfl
    · rw [events_eq moves.trace, pushedTo_append, passes.silent.pushedTo]
      rfl

theorem receiveStep_readAsync (receiving : Receiving queues w) {q : FifoRef}
    (member : q ∈ queues) (other : w.uart.txFifo ≠ some q) (handler : RxHandler) :
    wp total (exec env (.readAsync (some q) handler))
      (fun answer w' => ReceiveStep env held queues ⟨w, .readAsync (some q) handler, answer, w'⟩) w := by
  have moves : Moves held queues w (((w.masked false).withUart
      { w.uart with rxFifo := some q, rxHandler := handler }).masked true) [] [] :=
    ⟨(List.append_nil _).symm, rfl, .refl _, fun _ _ _ => .refl _⟩
  have attached : Receiving queues (((w.masked false).withUart
      { w.uart with rxFifo := some q, rxHandler := handler }).masked true) := by
    refine ⟨receiving.separate, receiving.txMember, ?_⟩
    rintro r attached
    cases attached
    exact ⟨member, other⟩
  exact .other attached moves ⟨by simp, by simp⟩ (by simp) rfl fun _ => rfl

theorem receiveStep_pull (receiver : Receiver env.device held) (receiving : Receiving queues w) {q : FifoRef}
    (attached : w.uart.rxFifo = some q) (data : Byte) :
    wp total (exec env (.pull q data)) (fun answer w' => ReceiveStep env held queues ⟨w, .pull q data, answer, w'⟩) w := by
  obtain ⟨member, other⟩ := receiving.rxMember q attached
  rw [exec, wp_bind, pullByte, wp_act, wp_pure]
  cases empty : (w.store.fifo q).isEmpty with
  | true =>
    rw [w.afterPull_empty empty]
    exact .beside ⟨.refl w, .refl _ _, .refl, (List.append_nil _).symm, .nil⟩ receiver receiving rfl
      ⟨by simp, by simp⟩ (by simp)
  | false =>
    obtain ⟨rest, front, becomes⟩ := Store.pull_held receiving.separate member empty data
    have moves : Moves held queues w (w.afterPull q data) [] [.pulled q (w.store.pull q data).2.1] := by
      refine ⟨w.afterPull_held empty data, by rw [World.afterPull_uart], .of_eq (by rw [World.afterPull_hw]),
        fun r member' _ => ?_⟩
      rw [World.afterPull_store]
      by_cases here : r = q
      · subst here
        rw [front, becomes.here]
        rw [pulledFrom_pulled, if_pos rfl]
        exact .leave _ _
      · rw [pulledFrom_pulled, if_neg here]
        exact .of_eq (becomes.elsewhere r member' here)
    have receiving' : Receiving queues (w.afterPull q data) := by
      apply receiving.path (.of_uart (w.afterPull_uart q data))
      rw [World.afterPull_store]
      exact becomes.separate
    exact .other receiving' moves ⟨by simp, by simp⟩ (by simp) rfl fun _ => rfl

theorem receiveStep_arrive (receiver : Receiver env.device held) (receiving : Receiving queues w) (byte : Byte) :
    wp total (exec env (.arrive byte)) (fun answer w' => ReceiveStep env held queues ⟨w, .arrive byte, answer, w'⟩) w := by
  have moves : Moves held queues w (w.afterArrival env byte) [byte] [] := by
    refine ⟨(List.append_nil _).symm, rfl, ?_, fun _ _ _ => .refl _⟩
    have arrives : held (w.afterArrival env byte).hw = held w.hw ++ [byte] := receiver.arrive byte w.hw
    rw [arrives]
    exact .enter _ _
  exact .other (receiving.path ⟨rfl, rfl⟩ receiving.separate) moves ⟨by simp, by simp⟩ (by simp) rfl fun _ => rfl

theorem receiveStep_exec (receiver : Receiver env.device held) (callbacks : Callbacks total env (Harmless queues))
    (receiving : Receiving queues w) {call : Call} (receives : Receives queues w call) :
    wp total (exec env call) (fun answer w' => ReceiveStep env held queues ⟨w, call, answer, w'⟩) w := by
  cases call with
  | handleRx => exact receiveStep_handleRx receiver callbacks receiving
  | handleInterrupt => exact receiveStep_handleInterrupt receiver callbacks receiving
  | read data limit errCode => exact receiveStep_read receiver receiving data receives errCode
  | readAsync fifo handler =>
    obtain ⟨q, member, rfl, other⟩ := receives
    exact receiveStep_readAsync receiving member other handler
  | pull fifo data => exact receiveStep_pull receiver receiving receives data
  | arrive byte => exact receiveStep_arrive receiver receiving byte
  | _ => exact receives.elim

end Calls

/-- **The received stream.** The bytes held at first and those that arrived
since are, in order, the bytes taken from the data register and those still
held; each byte taken was returned by `Uart_read`, queued, or dropped, as
`Received` says; every reception queue conserves what it accepted; and every
call returns. -/
theorem receive_conserved {env : Env σ} {held : σ → List Byte} {queues : Set FifoRef}
    (receiver : Receiver env.device held) (callbacks : Callbacks total env (Harmless queues)) {start w : World σ}
    (receiving : Receiving queues start) {calls : List (Made σ)} (run : Run env (Receives queues) start calls w) :
    (∃ segment, w.trace = start.trace ++ segment ∧
      held start.hw ++ calls.flatMap (fun made => arrived made.input) = dataRead segment ++ held w.hw ∧
      ∀ q ∈ queues, start.uart.txFifo ≠ some q →
        start.store.contents q ++ pushedTo q segment = pulledFrom q segment ++ w.store.contents q) ∧
      (∀ made ∈ calls, Received env held made) ∧
      ∀ call, Receives queues w call → ∃ answer w', exec env call w = .ok (answer, w') := by
  -- the stream so far is an invariant of the run
  have stream : (Receiving queues w ∧
      ∃ segment, Moves held queues start w (calls.flatMap fun made => arrived made.input) segment) ∧
      ∀ made ∈ calls, Received env held made := by
    apply run.invariant_each (I := fun calls w => Receiving queues w ∧
      ∃ segment, Moves held queues start w (calls.flatMap fun made => arrived made.input) segment)
      ⟨receiving, [], (List.append_nil _).symm, rfl, .refl _, fun _ _ _ => .refl _⟩
    rintro calls w call answer w' ⟨receiving, segment, moves⟩ receives run
    have step := wp_ended (receiveStep_exec receiver callbacks receiving receives) run
    obtain ⟨segment', moves'⟩ := step.moves
    refine ⟨⟨step.receiving, segment ++ segment', ?_⟩, step.received⟩
    rw [List.flatMap_append, List.flatMap_singleton]
    exact moves.trans moves'
  obtain ⟨⟨receiving', segment, moves⟩, each⟩ := stream
  refine ⟨⟨segment, moves.trace, moves.receiver, moves.queue⟩, each, fun call receives => ?_⟩
  obtain ⟨answer, w', ran, -⟩ := wp_total (receiveStep_exec receiver callbacks receiving' receives)
  exact ⟨answer, w', ran⟩

namespace Board

theorem receiver : Receiver device Board.received where
  arrive byte s := rfl
  ready s := by
    show getFlag (withFlag (s.status.headD 0) (!s.received.isEmpty) Status.DR) Status.DR = true ↔ _
    rw [getFlag_withFlag _ _ (by decide : Status.DR < 32) Status.DR]
    simp
  data s byte rest front := by
    simp [device, Board.read, front]
  other r s other := by cases r <;> first | rfl | exact absurd rfl other
  written r value s := by cases r <;> rfl

theorem callbacks_harmless (queues : Set FifoRef) : Callbacks total env (Harmless queues) :=
  ⟨fun w => .refl queues w, fun _ _ w => .refl queues w⟩

/-- No queue is attached, and the one that may be is empty. -/
theorem world_receiving (board : Board) : Receiving {0} (world 2 board) := by
  have wf : (emptyFifo 2 0).WF := ⟨by decide, by decide, by decide, by decide, by decide⟩
  refine ⟨⟨?_, ?_⟩, fun q attached => ?_, fun q attached => ?_⟩
  · rintro q rfl
    exact wf
  · rintro q rfl r rfl apart
    exact absurd rfl apart
  · cases attached
  · cases attached

end Board

/-- A queue of two bytes is attached, two bytes arrive, and one goes through the queue. -/
theorem receive_conserved_two :
    let start := Board.world 2 ⟨1, [], []⟩
    ∃ calls w, Run Board.env (Receives {0}) start calls w ∧
      calls.map Taken.input = [.readAsync (some 0) defaultRxHandler, .arrive 65, .arrive 66, .handleInterrupt, .pull 0 0] ∧
      ∃ segment, w.trace = start.trace ++ segment ∧
        calls.flatMap (fun made => arrived made.input) = dataRead segment ++ w.hw.received ∧
        start.store.contents 0 ++ pushedTo 0 segment = pulledFrom 0 segment ++ w.store.contents 0 := by
  have attached : Run Board.env (Receives {0}) (Board.world 2 ⟨1, [], []⟩) _ _ :=
    .snoc (i := Call.readAsync (some 0) defaultRxHandler) .nil ⟨0, rfl, rfl, by decide⟩ rfl
  have arrived := (attached.snoc (i := Call.arrive 65) trivial rfl).snoc (i := Call.arrive 66) trivial rfl
  have run := (arrived.snoc (i := Call.handleInterrupt) trivial rfl).snoc (i := Call.pull 0 0) rfl rfl
  obtain ⟨⟨segment, trace, stream, queue⟩, -⟩ := receive_conserved Board.receiver (Board.callbacks_harmless {0})
    (Board.world_receiving _) run
  exact ⟨_, _, run, rfl, segment, trace, stream, queue 0 rfl (by decide)⟩

end Leon3Bsp.Uart
