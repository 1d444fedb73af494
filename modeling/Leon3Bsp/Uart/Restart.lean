import Leon3Bsp.Uart.Board
import Leon3Bsp.Uart.Frames
import Leon3Bsp.Uart.Trace
import Leon3Bsp.Uart.Twin

/-!
# Stopping with a queue attached

`init` clears the queue pointers and then shuts the device down; `shutdown`
resets the registers, the count and the error flags, but not the pointers. A
queue attached before is therefore served again once the device is restarted,
and keeps `write` or `read` refused. It is left alone, unread and unchanged, by
the calls that find no byte to move for it, and by no others.
-/

namespace Leon3Bsp.Uart
set_option autoImplicit false
open Wp Execution Coupling

variable {σ : Type}

/-- The calls from a shutdown on, and bytes arriving. -/
def Restarts : Call → Prop
  | .shutdown | .setConfig _ | .startup | .handleInterrupt | .write _ _ _ | .read _ _ _ | .arrive _ => True
  | _ => False

/-- The call meets no attached queue: `write` and `read` find no pointer, and the
handlers after `Uart_handleError` nothing to move. -/
def Dormant (env : Env σ) (w : World σ) : Call → Prop
  | .write _ _ _ => w.uart.txFifo = none
  | .read _ _ _ => w.uart.rxFifo = none
  | .handleInterrupt =>
    wp partially (handleError env) (fun _ w₁ => w₁.RxIdle env ∧ (w₁.afterIdle env Control.RE).TxIdle env) w
  | _ => True

/-- A `write` or `read` that assigned `*errCode` because of a queue. -/
def QueueRefused : Call → Answer → Prop
  | .write _ _ errCode, .written _ errCode' => errCode ≠ .txFifoNotNull ∧ errCode' = .txFifoNotNull
  | .read _ _ errCode, .received _ _ errCode' => errCode ≠ .rxFifoNotNull ∧ errCode' = .rxFifoNotNull
  | _, _ => False

/-- The byte a call was given to send. -/
def Call.byte : Call → Option Byte
  | .write data _ _ => some data
  | _ => none

/-- The queues are as they were, and at most `bytes` was sent. -/
structure Leaves (queues : Set FifoRef) (bytes : List Byte) (w w' : World σ) : Prop where
  store : Store.Same queues w.store w'.store
  sent : ∃ segment, w'.trace = w.trace ++ segment ∧ (dataWritten segment).Sublist bytes

section Leaves

variable {queues : Set FifoRef} {env : Env σ} {bytes bytes' : List Byte} {w w' w'' : World σ}

theorem Leaves.refl (queues : Set FifoRef) (bytes : List Byte) (w : World σ) : Leaves queues bytes w w :=
  ⟨.refl queues w.store, [], (List.append_nil _).symm, List.nil_sublist _⟩

theorem Leaves.trans (first : Leaves queues bytes w w') (second : Leaves queues bytes' w' w'') :
    Leaves queues (bytes ++ bytes') w w'' := by
  obtain ⟨segment, trace, sent⟩ := first.sent
  obtain ⟨segment', trace', sent'⟩ := second.sent
  refine ⟨first.store.trans second.store, segment ++ segment', ?_, ?_⟩
  · rw [trace', trace, List.append_assoc]
  · rw [dataWritten_append]
    exact sent.append sent'

/-- A step beside the queues that sends nothing. -/
theorem Leaves.beside {segment : List Event} (store : w'.store = w.store) (trace : w'.trace = w.trace ++ segment)
    (none : dataWritten segment = []) : Leaves queues [] w w' := by
  refine ⟨?_, segment, trace, none ▸ List.nil_sublist []⟩
  rw [store]
  exact .refl queues w.store

theorem accesses_leaves (queues : Set FifoRef) (env : Env σ) : Accesses env (Leaves queues []) where
  refl := .refl queues []
  trans := .trans
  afterRead _ _ := .beside rfl rfl rfl
  afterWrite {r} other value w := by
    cases r with
    | data => exact absurd rfl other
    | status | control | clkscl => exact .beside rfl rfl rfl

theorem absorbs_leaves (queues : Set FifoRef) (env : Env σ) : Absorbs env (Leaves queues []) (Leaves queues []) where
  refl := .refl queues []
  trans := .trans
  afterRead _ _ := .beside rfl rfl rfl
  withErrorFlags _ _ := .beside rfl (List.append_nil _).symm rfl
  called {hook callback arg w w'} _ left := by
    have called : Leaves queues [] w (w.calling hook callback arg) := .beside rfl rfl rfl
    exact called.trans left

theorem leaves_afterIdle (w : World σ) (enable : Nat) : Leaves queues [] w (w.afterIdle env enable) := by
  unfold World.afterIdle
  split
  · exact (absorbs_leaves queues env).afterStatus w
  · exact (absorbs_leaves queues env).afterControl w

theorem leaves_masked (w : World σ) (enabled : Bool) : Leaves queues [] w (w.masked enabled) :=
  .beside rfl (List.append_nil _).symm rfl

theorem leaves_writePoll (data : Byte) (limit : Word) (budget : Nat) (timeout : Word) (w : World σ) :
    wp partially (writePoll env data limit budget timeout) (fun _ w' => Leaves queues [data] w w') w := by
  induction budget generalizing timeout w with
  | zero => trivial
  | succ budget ih =>
    have read : Leaves queues [] w (w.afterRead env .status) := .beside rfl rfl rfl
    unfold writePoll
    simp only [wp_ite, wp_bind, wp_readRegister, wp_writeData, wp_vectorEnable, wp_pure]
    split
    · split
      · refine read.trans ⟨.refl queues _, _, rfl, ?_⟩
        rw [dataWritten_write]
        exact .refl [data]
      · exact wp_mono (ih _ _) fun _ w' left => read.trans left
    · exact .refl queues [data] w

/-- `Uart_write` with no queue attached leaves `*errCode` alone. -/
theorem leaves_write (absent : w.uart.txFifo = none) (data : Byte) (limit : Word) (errCode : ErrorCode) :
    wp partially (write env data limit errCode) (fun result w' => Leaves queues [data] w w' ∧ result.2 = errCode) w := by
  unfold write
  simp only [wp_bind, wp_vectorDisable, wp_descriptor, World.masked_uart, absent]
  apply wp_mono (leaves_writePoll data limit _ _ _)
  intro result w' (left : Leaves queues [data] (w.masked false) w')
  exact ⟨(leaves_masked w false).trans left, rfl⟩

/-- What the loop of `Uart_read` assigns to `*errCode`. -/
theorem wp_readPoll_errCode (data : Byte) (limit : Word) (errCode : ErrorCode) (budget : Nat) (timeout : Word)
    (w : World σ) :
    wp partially (readPoll env (pure ()) data limit errCode budget timeout)
      (fun polled _ => ∀ returned, polled = some returned → returned.2.2 = .rxFifoFull ∨ returned.2.2 = errCode) w := by
  induction budget generalizing timeout w with
  | zero => trivial
  | succ budget ih =>
    unfold readPoll
    simp only [wp_ite, wp_bind, wp_pure, wp_descriptor, wp_readRegister, wp_readData]
    split
    · rintro _ ⟨⟩
      exact .inl rfl
    · split
      · rintro _ ⟨⟩
        exact .inr rfl
      · split
        · exact ih _ _
        · rintro _ ⟨⟩

theorem leaves_read (absent : w.uart.rxFifo = none) (data : Byte) (limit : Word) (errCode : ErrorCode) :
    wp partially (read env data limit errCode) (fun result w' => Leaves queues [] w w' ∧
      (result.2.2 = errCode ∨ result.2.2 = .timeout ∨ result.2.2 = .rxFifoFull)) w := by
  have polled := wp_and ((accesses_leaves queues env).relates_readPoll trivial data limit errCode
    (pollBudget env limit) limit ((w.masked false).masked true)) (wp_readPoll_errCode data limit errCode _ _ _)
  unfold read readInterrupted
  simp only [wp_bind, wp_vectorDisable, wp_descriptor, World.masked_uart, absent, wp_vectorEnable]
  apply wp_mono polled
  rintro result w' ⟨left, assigned⟩
  have left := ((leaves_masked w false).trans (leaves_masked _ true)).trans left
  cases result with
  | none => exact ⟨left.trans (leaves_masked w' true), .inr (.inl rfl)⟩
  | some returned =>
    refine ⟨left, ?_⟩
    rcases assigned returned rfl with full | kept
    · exact .inr (.inr full)
    · exact .inl kept

end Leaves

section Calls

variable {queues : Set FifoRef} {env : Env σ} {w w' v : World σ} {call : Call} {answer : Answer}

theorem handleInterrupt_dormant (callbacks : Callbacks partially env (Leaves queues []))
    (dormant : Dormant env w .handleInterrupt) :
    wp partially (handleInterrupt env) (fun _ w' => Leaves queues [] w w') w := by
  unfold handleInterrupt
  simp only [wp_bind, wp_pure]
  apply wp_mono (wp_and (wp_handleError callbacks) dormant)
  rintro error w₁ ⟨outcome, rxIdle, txIdle⟩
  have error : Leaves queues [] w w₁ := outcome.absorbed (absorbs_leaves queues env)
  unfold wp
  rw [handleRx_idle rxIdle]
  dsimp only
  rw [handleTx_idle txIdle]
  exact (error.trans (leaves_afterIdle w₁ _)).trans (leaves_afterIdle _ _)

/-- What a call that meets no queue does. -/
theorem exec_dormant (callbacks : Callbacks partially env (Leaves queues [])) (restarts : Restarts call)
    (dormant : Dormant env w call) (run : exec env call w = .ok (answer, w')) :
    Leaves queues call.byte.toList w w' ∧ ¬ QueueRefused call answer := by
  have spec : wp partially (exec env call)
      (fun answer w' => Leaves queues call.byte.toList w w' ∧ ¬ QueueRefused call answer) w := by
    cases call with
    | startup => exact ⟨.beside rfl (List.append_nil _).symm rfl, not_false⟩
    | shutdown => exact ⟨.beside rfl (List.append_assoc _ _ _) rfl, not_false⟩
    | arrive data => exact ⟨.beside rfl (List.append_nil _).symm rfl, not_false⟩
    | setConfig config =>
      rw [exec, wp_bind]
      exact wp_mono ((accesses_leaves queues env).relates_setConfig config w) fun _ w' left => ⟨left, not_false⟩
    | handleInterrupt =>
      rw [exec, wp_bind]
      exact wp_mono (handleInterrupt_dormant callbacks dormant) fun _ w' left => ⟨left, not_false⟩
    | write data limit errCode =>
      rw [exec, wp_bind]
      apply wp_mono (leaves_write dormant data limit errCode)
      rintro result w' ⟨left, kept⟩
      exact ⟨left, fun refused => refused.1 (kept.symm.trans refused.2)⟩
    | read data limit errCode =>
      rw [exec, wp_bind]
      apply wp_mono (leaves_read dormant data limit errCode)
      rintro result w' ⟨left, assigned⟩
      refine ⟨left, fun refused => ?_⟩
      rcases assigned with kept | timeout | full
      · exact refused.1 (kept.symm.trans refused.2)
      · cases timeout.symm.trans refused.2
      · cases full.symm.trans refused.2
    | _ => exact restarts.elim
  have ended := wp_ended spec run
  exact ended

/-- A call that meets no queue does not look at one. -/
theorem exec_alike (blind : Blind queues env) (twin : Twin queues w v) (restarts : Restarts call)
    (dormant : Dormant env w call) : Alike (Twin queues) (exec env call) w v := by
  cases call with
  | startup => exact (respects_startup.bind fun _ => respects_pure _) w v twin
  | shutdown => exact (respects_shutdown.bind fun _ => respects_pure _) w v twin
  | setConfig config => exact ((respects_setConfig config).bind fun _ => respects_pure _) w v twin
  | arrive data =>
    refine alike_act rfl ⟨twin.uart, twin.store, twin.rtems, ?_, twin.trace⟩
    rw [World.afterArrival, World.afterArrival, twin.hw]
  | write data limit errCode =>
    exact (alike_write twin dormant data limit errCode).bind fun _ _ _ _ twin' => alike_pure twin' _
  | read data limit errCode =>
    exact (alike_read twin dormant data limit errCode).bind fun _ _ _ _ twin' => alike_pure twin' _
  | handleInterrupt =>
    have served : Alike (Twin queues) (handleInterrupt env) w v := by
      unfold handleInterrupt
      refine (respects_handleError blind w v twin).bind fun _ w₁ v₁ run twin₁ => ?_
      obtain ⟨rxIdle, txIdle⟩ := wp_ended dormant run
      refine (alike_handleRx twin₁ rxIdle).bind fun _ w₂ v₂ run twin₂ => ?_
      rw [handleRx_idle rxIdle] at run
      cases run
      exact (alike_handleTx twin₂ txIdle).bind fun _ _ _ _ twin₃ => alike_pure twin₃ _
    exact served.bind fun _ _ _ _ twin' => alike_pure twin' _
  | _ => exact restarts.elim

/-- `Uart_handleRx` deals with a byte for an attached queue: it is dropped, or
pushed to the queue attached when the callbacks have returned. -/
def TakesByte (env : Env σ) (w w' : World σ) : Prop :=
  ∃ q, w.uart.rxFifo = some q ∧ ((w.store.fifo q).isFull = true ∧ w'.uart.errorFlags.hasRxFifoFullErrorOccurred = true ∨
    ∃ (w₁ : World σ) (r : FifoRef), w₁.uart.rxFifo = some r ∧ w' = w₁.afterPush r (w.rxByte env))

/-- `Uart_handleTx` looks at an attached queue: it is empty, or a byte is sent. -/
def LooksForByte (env : Env σ) (E : World σ → World σ → Prop) (w w' : World σ) : Prop :=
  ∃ q, w.uart.txFifo = some q ∧ ((w.store.fifo q).isEmpty = true ∨ SendsByte env E q w w')

theorem RxOutcome.takesByte {E : World σ → World σ → Prop} {rx : Bool} (outcome : RxOutcome env E w rx w')
    (awake : ¬ w.RxIdle env) : TakesByte env w w' := by
  cases outcome with
  | disabled off => exact absurd (.inr fun ready => Bool.false_ne_true (off.symm.trans ready.1)) awake
  | nothing on clear => exact absurd (.inr fun ready => Bool.false_ne_true (clear.symm.trans ready.2)) awake
  | detached ready absent => exact absurd (.inl absent) awake
  | dropped ready attached full => exact ⟨_, attached, .inl ⟨full, rfl⟩⟩
  | accepted ready attached room matched counted attached' => exact ⟨_, attached, .inr ⟨_, _, attached', rfl⟩⟩

theorem TxOutcome.looksForByte {E : World σ → World σ → Prop} {tx : Bool} (outcome : TxOutcome env E w tx w')
    (awake : ¬ w.TxIdle env) : LooksForByte env E w w' := by
  cases outcome with
  | disabled off => exact absurd (.inr fun ready => Bool.false_ne_true (off.symm.trans ready.1)) awake
  | busy on clear => exact absurd (.inr fun ready => Bool.false_ne_true (clear.symm.trans ready.2)) awake
  | detached ready absent => exact absurd (.inl absent) awake
  | idle ready attached empty => exact ⟨_, attached, .inl empty⟩
  | sent ready attached held more => exact ⟨_, attached, .inr ⟨ready, attached, held, .inl ⟨more, rfl⟩⟩⟩
  | drained ready attached held last callback =>
    exact ⟨_, attached, .inr ⟨ready, attached, held, .inr ⟨last, callback⟩⟩⟩

/-- A call that meets a queue: `write` and `read` are refused, and one of the
handlers turns to the queue. -/
theorem exec_awake {E : World σ → World σ → Prop} (callbacks : Callbacks partially env E) (restarts : Restarts call)
    (awake : ¬ Dormant env w call) (run : exec env call w = .ok (answer, w')) :
    (∃ data limit errCode, call = .write data limit errCode ∧ answer = .written false .txFifoNotNull) ∨
    (∃ data limit errCode, call = .read data limit errCode ∧ answer = .received false data .rxFifoNotNull) ∨
    ∃ error w₁ rx w₂, call = .handleInterrupt ∧ handleError env w = .ok (error, w₁) ∧ handleRx env w₁ = .ok (rx, w₂) ∧
      (TakesByte env w₁ w₂ ∨ LooksForByte env E w₂ w') := by
  cases call with
  | startup | shutdown | setConfig | arrive => exact absurd trivial awake
  | write data limit errCode =>
    obtain ⟨q, attached⟩ := Option.ne_none_iff_exists'.1 awake
    have refused : wp partially (exec env (.write data limit errCode))
        (fun answer _ => answer = .written false .txFifoNotNull) w := by
      unfold exec write
      simp only [wp_bind, wp_vectorDisable, wp_descriptor, World.masked_uart, attached, wp_vectorEnable, wp_pure]
    have ended := wp_ended refused run
    exact .inl ⟨data, limit, errCode, rfl, ended⟩
  | read data limit errCode =>
    obtain ⟨q, attached⟩ := Option.ne_none_iff_exists'.1 awake
    have refused : wp partially (exec env (.read data limit errCode))
        (fun answer _ => answer = .received false data .rxFifoNotNull) w := by
      unfold exec read readInterrupted
      simp only [wp_bind, wp_vectorDisable, wp_descriptor, World.masked_uart, attached, wp_vectorEnable, wp_pure]
    have ended := wp_ended refused run
    exact .inr (.inl ⟨data, limit, errCode, rfl, ended⟩)
  | handleInterrupt =>
    have served : wp partially (exec env .handleInterrupt)
        (fun _ w' => ∃ error w₁ rx w₂, handleError env w = .ok (error, w₁) ∧ handleRx env w₁ = .ok (rx, w₂) ∧
          (TakesByte env w₁ w₂ ∨ LooksForByte env E w₂ w')) w := by
      unfold exec handleInterrupt
      simp only [wp_bind, wp_pure]
      apply wp_mono (wp_and (wp_handleError callbacks) (wp_ran _ _))
      rintro error w₁ ⟨-, errors⟩
      have awake₁ : ¬ (w₁.RxIdle env ∧ (w₁.afterIdle env Control.RE).TxIdle env) := by
        intro idle
        refine awake ?_
        unfold Dormant wp
        rw [errors]
        exact idle
      apply wp_mono (wp_and (wp_handleRx callbacks fun _ _ _ _ _ => trivial) (wp_ran _ _))
      rintro rx w₂ ⟨rxOutcome, received⟩
      apply wp_mono (wp_handleTx callbacks)
      intro tx w₃ txOutcome
      refine ⟨error, w₁, rx, w₂, errors, received, ?_⟩
      by_cases rxIdle : w₁.RxIdle env
      · cases (handleRx_idle rxIdle).symm.trans received
        exact .inr (txOutcome.looksForByte fun txIdle => awake₁ ⟨rxIdle, txIdle⟩)
      · exact .inl (rxOutcome.takesByte rxIdle)
    obtain ⟨error, w₁, rx, w₂, meets⟩ := wp_ended served run
    exact .inr (.inr ⟨error, w₁, rx, w₂, rfl, meets⟩)
  | _ => exact restarts.elim

end Calls

/-- **A run from a shutdown on whose calls meet no queue** sends nothing but what
`write` is given, refuses no `write` or `read` and leaves all queues as they
were; and it is the same run whatever the queues hold, or if they are gone. -/
theorem restart_dormant {env : Env σ} {queues : Set FifoRef} (callbacks : Callbacks partially env (Leaves queues []))
    (blind : Blind queues env) {start stopped w : World σ} (shut : exec env .shutdown start = .ok (.done, stopped))
    {calls : List (Made σ)} (run : Run env (fun w call => Restarts call ∧ Dormant env w call) stopped calls w) :
    Leaves queues (calls.filterMap fun made => made.input.byte) start w ∧
      (∀ made ∈ calls, ¬ QueueRefused made.input made.output) ∧
      ∀ v, Twin queues start v → ∃ stopped' calls' w', exec env .shutdown v = .ok (.done, stopped') ∧
        Run env (fun _ => Restarts) stopped' calls' w' ∧ calls'.map said = calls.map said ∧ Twin queues w w' := by
  have restarts : Restarts .shutdown := trivial
  have first : Leaves queues [] start stopped := (exec_dormant callbacks restarts trivial shut).1
  have unchanged : Leaves queues (calls.filterMap fun made => made.input.byte) start w ∧
      ∀ made ∈ calls, ¬ QueueRefused made.input made.output := by
    apply run.invariant_each (I := fun calls w => Leaves queues (calls.filterMap fun made => made.input.byte) start w) first
    intro calls w call answer w' left fits ran
    obtain ⟨step, accepted⟩ := exec_dormant callbacks fits.1 fits.2 ran
    refine ⟨?_, accepted⟩
    have left := left.trans step
    rw [List.filterMap_append]
    cases byte : call.byte <;> simpa [byte] using left
  refine ⟨unchanged.1, unchanged.2, fun v twin => ?_⟩
  cases exec_alike blind twin restarts trivial with
  | faulted left =>
    rw [shut] at left
    cases left
  | ended left right twin' =>
    rw [shut] at left
    cases left
    obtain ⟨calls', w', run', same, twin''⟩ := replay run (fun _ _ fits => fits.1)
      (fun _ _ _ twin fits => exec_alike blind twin fits.1 fits.2) twin'
    exact ⟨_, calls', w', right, run', same, twin''⟩

/-- A queue with a byte is attached, the driver shut down, started and interrupted
with the transmitter disabled: the byte stays. -/
theorem restart_dormant_disabled :
    ∃ initial filled start stopped calls w,
      exec Board.env (.init .id0) (Board.world 1 ⟨0, [], []⟩) = .ok (.done, initial) ∧
      exec Board.env (.push 0 0x41) initial = .ok (.flag true, filled) ∧
      exec Board.env (.writeAsync (some 0) defaultTxHandler) filled = .ok (.done, start) ∧
      exec Board.env .shutdown start = .ok (.done, stopped) ∧
      calls.map (fun made => made.input) = [.startup, .handleInterrupt, .read 0 1 .ok] ∧
      Run Board.env (fun w call => Restarts call ∧ Dormant Board.env w call) stopped calls w ∧ Leaves {0} [] start w := by
  obtain ⟨initial, filled, start, stopped, calls, w, initialise, push, attach, shut, inputs, run⟩ :
      ∃ initial filled start stopped calls w,
        exec Board.env (.init .id0) (Board.world 1 ⟨0, [], []⟩) = .ok (.done, initial) ∧
        exec Board.env (.push 0 0x41) initial = .ok (.flag true, filled) ∧
        exec Board.env (.writeAsync (some 0) defaultTxHandler) filled = .ok (.done, start) ∧
        exec Board.env .shutdown start = .ok (.done, stopped) ∧
        calls.map (fun made => made.input) = [.startup, .handleInterrupt, .read 0 1 .ok] ∧
        Run Board.env (fun w call => Restarts call ∧ Dormant Board.env w call) stopped calls w := by
    refine ⟨Board.initialised 1 ⟨0, [], []⟩, _, _, _, _, _, rfl, rfl, rfl, rfl, ?inputs,
      ((Run.snoc (i := .startup) .nil ⟨trivial, trivial⟩ rfl).snoc (i := .handleInterrupt) ?interrupt rfl).snoc
        (i := .read 0 1 .ok) ?read rfl⟩
    case inputs => rfl
    case interrupt => exact ⟨trivial, .inl rfl, .inr fun ready => by cases ready.1⟩
    case read => exact ⟨trivial, rfl⟩
  have callbacks : Callbacks partially Board.env (Leaves {0} []) := ⟨.refl {0} [], fun _ _ w => .refl {0} [] w⟩
  have blind : Blind {0} Board.env := fun _ _ => respects_pure ()
  have left := (restart_dormant callbacks blind shut run).1
  have none : calls.filterMap (fun made => made.input.byte) = [] := by
    have bytes : calls.filterMap (fun made => made.input.byte) = (calls.map fun made => made.input).filterMap Call.byte := by
      rw [List.filterMap_map]
      rfl
    rw [bytes, inputs]
    rfl
  rw [none] at left
  exact ⟨initial, filled, start, stopped, calls, w, initialise, push, attach, shut, inputs, run, left⟩

/-- The same with the transmitter enabled after the shutdown: the byte is sent, and
`write` is refused. -/
theorem restart_sends :
    ∃ initial filled start stopped calls w,
      exec Board.env (.init .id0) (Board.world 1 ⟨0, [0, 0, 2], []⟩) = .ok (.done, initial) ∧
      exec Board.env (.push 0 0x41) initial = .ok (.flag true, filled) ∧
      exec Board.env (.writeAsync (some 0) defaultTxHandler) filled = .ok (.done, start) ∧
      exec Board.env .shutdown start = .ok (.done, stopped) ∧
      calls.map (fun made => (made.input, made.output)) =
        [(.setConfig ⟨true, false, false, .none, .b9600, 0⟩, .done), (.startup, .done), (.handleInterrupt, .done),
          (.write 0x42 1 .ok, .written false .txFifoNotNull)] ∧
      Run Board.env (fun _ => Restarts) stopped calls w ∧
      dataWritten start.trace = [] ∧ start.store.contents 0 = [0x41] ∧
      dataWritten w.trace = [0x41] ∧ w.store.contents 0 = [] := by
  refine ⟨Board.initialised 1 ⟨0, [0, 0, 2], []⟩, _, _, _, _, _, rfl, rfl, rfl, rfl, ?inputs,
    (((Run.snoc (i := .setConfig ⟨true, false, false, .none, .b9600, 0⟩) .nil (by trivial) rfl).snoc
    (i := .startup) (by trivial) rfl).snoc (i := .handleInterrupt) (by trivial) rfl).snoc
    (i := .write 0x42 1 .ok) (by trivial) rfl, rfl, rfl, rfl, rfl⟩
  rfl

end Leon3Bsp.Uart
