import Leon3Bsp.Uart.Board
import Leon3Bsp.Uart.Frames

/-!
# Absent queues

`init` leaves both queue pointers `NULL`, and the handlers, `write` and `read`
test them. The four queries do not.
-/

namespace Leon3Bsp.Uart
set_option autoImplicit false
open Wp Execution

variable {σ : Type}

/-- An attachment is given a queue. -/
def GivesQueue : Call → Prop
  | .writeAsync fifo _ | .readAsync fifo _ => fifo ≠ none
  | _ => True

/-- The call is a query of a queue that is not attached. -/
def QueriesAbsent (w : World σ) : Call → Prop
  | .isTxEmpty | .getTxFifoCount => w.uart.txFifo = none
  | .isRxEmpty | .getRxFifoCount => w.uart.rxFifo = none
  | _ => False

/-- The functions of the caller do not detach the reception queue. -/
def KeepsReception (w w' : World σ) : Prop :=
  w.uart.rxFifo ≠ none → w'.uart.rxFifo ≠ none

/-- Any fault but the dereference of `NULL`. -/
abbrev notNull (fault : Fault) : Prop :=
  fault ≠ .nullDereference

section Calls

variable {env : Env σ} {w : World σ} {call : Call}

theorem keepsReception_detaching : Detaching notNull (KeepsReception (σ := σ)) :=
  fun _ _ kept attached absent => absurd absent (kept attached)

theorem exec_notNull (callbacks : Callbacks notNull env KeepsReception) (gives : GivesQueue call)
    (attached : ¬ QueriesAbsent w call) : wp notNull (exec env call) (fun _ _ => True) w := by
  have patience : notNull .outOfPatience := by decide
  have ends {α : Type} {m : Driver σ α} {Q : α → World σ → Prop} {answer : α → Answer} (spec : wp notNull m Q w) :
      wp notNull (do let a ← m; pure (answer a)) (fun _ _ => True) w := by
    rw [wp_bind]
    exact wp_mono spec fun _ _ _ => trivial
  cases call with
  | init | startup | shutdown | readAsync | registerErrorHandler | arrive | push | pull => trivial
  | setConfig config => exact ends (touches_setConfig config w)
  | getConfig => exact ends (touches_getConfig w)
  | write data limit errCode => exact ends (masks_write patience data limit errCode w)
  | read data limit errCode => exact ends (unmasks_read patience data limit errCode w)
  | writeAsync fifo handler => exact ends (wp_writeAsync (fun absent => absurd absent gives) handler w)
  | isTxEmpty | isRxEmpty =>
    exact ends (unmasks_query (masks_fifoIsEmpty (fun absent => absurd absent attached) _))
  | getTxFifoCount | getRxFifoCount =>
    exact ends (unmasks_query (masks_fifoGetCount (fun absent => absurd absent attached) _))
  | handleError => exact ends (wp_handleError callbacks)
  | handleRx => exact ends (wp_handleRx callbacks keepsReception_detaching)
  | handleTx => exact ends (wp_handleTx callbacks)
  | handleInterrupt => exact ends (wp_handleInterrupt callbacks keepsReception_detaching)

/-- A query of an absent queue dereferences it. -/
theorem exec_absent (absent : QueriesAbsent w call) : exec env call w = .error .nullDereference := by
  have null : wp (· = .nullDereference) (exec env call) (fun _ _ => False) w := by
    cases call with
    | isTxEmpty =>
      have absent : w.uart.txFifo = none := absent
      rw [exec, wp_bind, isTxEmpty, wp_query, absent]
      rfl
    | isRxEmpty =>
      have absent : w.uart.rxFifo = none := absent
      rw [exec, wp_bind, isRxEmpty, wp_query, absent]
      rfl
    | getTxFifoCount =>
      have absent : w.uart.txFifo = none := absent
      rw [exec, wp_bind, getTxFifoCount, wp_query, absent]
      rfl
    | getRxFifoCount =>
      have absent : w.uart.rxFifo = none := absent
      rw [exec, wp_bind, getRxFifoCount, wp_query, absent]
      rfl
    | _ => exact absent.elim
  obtain ⟨_, fault, rfl⟩ := wp_faults null
  exact fault

theorem exec_null_iff (callbacks : Callbacks notNull env KeepsReception) (gives : GivesQueue call) :
    exec env call w = .error .nullDereference ↔ QueriesAbsent w call := by
  refine ⟨fun fault => ?_, exec_absent⟩
  by_contra attached
  exact wp_faulted (exec_notNull callbacks gives attached) fault rfl

end Calls

/-- **No call dereferences `NULL`** exactly if no query is made of a queue that
is not attached. -/
theorem never_null_iff {env : Env σ} (callbacks : Callbacks notNull env KeepsReception) {calls : List Call}
    (gives : ∀ call ∈ calls, GivesQueue call) (id : Id) (start : World σ) :
    perform (exec env) (.init id :: calls) start ≠ .error .nullDereference ↔
      ∀ earlier call later w, calls = earlier ++ call :: later →
        perform (exec env) (.init id :: earlier) start = .ok (⟨⟩, w) → ¬ QueriesAbsent w call := by
  rw [ne_eq, perform_fault_iff]
  constructor
  · intro never earlier call later w split reached absent
    exact never ⟨.init id :: earlier, call, later, w, by rw [split]; rfl, reached, exec_absent absent⟩
  · rintro attached ⟨earlier, call, later, w, split, reached, fault⟩
    cases earlier with
    | nil =>
      -- `init` itself dereferences nothing
      cases split
      have given : GivesQueue (.init id) := trivial
      exact (exec_null_iff callbacks given).1 fault
    | cons first earlier =>
      cases split
      have given : GivesQueue call := gives call (by simp)
      exact attached earlier call later w rfl reached ((exec_null_iff callbacks given).1 fault)

/-- A queue is attached and then queried; another is not, and not queried. -/
theorem never_null_attached :
    perform (exec Board.env) [.init .id0, .writeAsync (some 0) defaultTxHandler, .handleInterrupt, .getTxFifoCount]
      (Board.world 1 ⟨0, [], []⟩) ≠ .error .nullDereference := by
  have callbacks : Callbacks notNull Board.env KeepsReception := ⟨fun _ kept => kept, fun _ _ _ kept => kept⟩
  refine (never_null_iff callbacks (by simp [GivesQueue]) .id0 _).2 ?_
  rintro earlier call later w split reached
  rcases earlier with _ | ⟨_, _ | ⟨_, _ | ⟨_, _⟩⟩⟩
  · cases split
    exact not_false
  · cases split
    exact not_false
  · cases split
    cases reached
    exact Option.some_ne_none 0
  · simp at split

/-- The driver is initialised and the transmission queue queried. -/
theorem null_dereferenced :
    perform (exec Board.env) [.init .id0, .isTxEmpty] (Board.world 1 ⟨0, [], []⟩) = .error .nullDereference :=
  rfl

end Leon3Bsp.Uart
