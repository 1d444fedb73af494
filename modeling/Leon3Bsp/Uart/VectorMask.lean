import Leon3Bsp.Uart.Board
import Leon3Bsp.Uart.Frames
import Leon3Bsp.Lib.Assignments

/-!
# The vector and its handler

`startup` installs the entry of the driver before it enables the vector, and
`shutdown` disables the vector before it removes the entry. Every other masking
section ends with the vector enabled, whatever it was before, except that of a
`write` that times out.
-/

namespace Leon3Bsp.Uart
set_option autoImplicit false
open Wp Execution

variable {σ : Type}

namespace World

variable (w : World σ)

/-- The vector of the device. -/
def vector : Nat :=
  interruptNumber w.uart.id

/-- The entry of the driver. -/
def entry : EntryRef :=
  w.uart.interruptData.rtemsInterruptEntry

/-- The vector is not enabled without the handler of the driver. -/
def Guarded : Prop :=
  w.rtems.enabled w.vector = true → w.rtems.installed w.vector = some w.entry

end World

/-- The calls of a driver that was initialised once, interrupts aside. -/
def Polls : Call → Prop
  | .startup | .shutdown | .setConfig _ | .getConfig | .registerErrorHandler _ => True
  | .readAsync _ _ | .writeAsync _ _ | .read _ _ _ | .write _ _ _ => True
  | .isTxEmpty | .isRxEmpty | .getTxFifoCount | .getRxFifoCount => True
  | _ => False

/-- One of the next `turns` reads of the status register shows `TS`. -/
def ShowsTs (device : Device σ) : Nat → σ → Prop
  | 0, _ => False
  | turns + 1, s => getFlag (device.read .status s).1 Status.TS = true ∨ ShowsTs device turns (device.read .status s).2

/-- The call opens a masking section that ends with the vector enabled. -/
def Unmasking (env : Env σ) (w : World σ) : Call → Prop
  | .registerErrorHandler _ | .readAsync _ _ | .writeAsync _ _ | .read _ _ _ => True
  | .isTxEmpty | .isRxEmpty | .getTxFifoCount | .getRxFifoCount => True
  | .write _ timeoutLimit _ => w.uart.txFifo ≠ none ∨ timeoutLimit = 0 ∨ ShowsTs env.device timeoutLimit.toNat w.hw
  | _ => False

/-- What a call says of the driver being started. -/
def Call.starts : Call → Option Bool
  | .startup => some true
  | .shutdown => some false
  | _ => none

/-- The driver was started, and not shut down since. -/
def Started (calls : List (Made σ)) : Prop :=
  Assignments.after (fun made => made.input.starts) false calls = true

/-- What a call does to the mask of the vector and the entry installed on it. -/
inductive VectorEffect (env : Env σ) (w w' : World σ) (call : Call) : Prop
  | started (start : call = .startup)
      (installed : w'.rtems.installed w.vector = (w.rtems.entryInstall w.vector w.entry).installed w.vector)
  | stopped (stop : call = .shutdown) (disabled : w'.rtems.enabled w.vector = false)
      (removed : w'.rtems.installed w.vector = (w.rtems.entryRemove w.vector w.entry).installed w.vector)
  | kept (starts : call.starts = none) (masking : ¬ Unmasking env w call)
      (enabled : w'.rtems.enabled w.vector = true → w.rtems.enabled w.vector = true)
      (installed : w'.rtems.installed w.vector = w.rtems.installed w.vector)
  | unmasked (starts : call.starts = none) (unmasking : Unmasking env w call) (enabled : w'.rtems.enabled w.vector = true)
      (installed : w'.rtems.installed w.vector = w.rtems.installed w.vector)

/-- The vector of the device and the entry of the driver stay the same. -/
structure Follows (env : Env σ) (w w' : World σ) (call : Call) : Prop where
  vector : w'.vector = w.vector
  entry : w'.entry = w.entry
  effect : VectorEffect env w w' call

section Calls

variable {env : Env σ} {w w' : World σ} {call : Call} {answer : Answer}

theorem Unmasks.follows (unmasks : Unmasks w w') (starts : call.starts = none) (unmasking : Unmasking env w call) :
    Follows env w w' call := by
  have vector : w'.vector = w.vector := congrArg (fun uart : Uart => interruptNumber uart.id) unmasks.uart
  refine ⟨vector, congrArg (fun uart : Uart => uart.interruptData.rtemsInterruptEntry) unmasks.uart, .unmasked starts unmasking ?_ ?_⟩
  · rw [← vector]
    exact unmasks.enabled
  · rw [unmasks.installed]

theorem Touches.follows (touches : Touches w w') (starts : call.starts = none) (masking : ¬ Unmasking env w call) :
    Follows env w w' call := by
  refine ⟨congrArg (fun uart : Uart => interruptNumber uart.id) touches.uart,
    congrArg (fun uart : Uart => uart.interruptData.rtemsInterruptEntry) touches.uart, .kept starts masking ?_ ?_⟩
  · rw [touches.rtems]
    exact fun enabled => enabled
  · rw [touches.rtems]

/-- A limit other than zero is the number of status reads. -/
theorem wp_writePoll_shows {data : Byte} {limit : Word} (limited : limit ≠ 0) (budget : Nat) (timeout : Word)
    (enough : timeout.toNat < budget) (w : World σ) :
    wp partially (writePoll env data limit budget timeout)
      (fun result _ => result = true ↔ ShowsTs env.device timeout.toNat w.hw) w := by
  induction budget generalizing timeout w with
  | zero => trivial
  | succ budget ih =>
    unfold writePoll
    simp only [wp_ite, wp_bind, wp_readRegister, wp_writeData, wp_vectorEnable, wp_pure, limited, false_or]
    split
    case isFalse spent =>
      have zero : timeout.toNat = 0 := by bv_omega
      simp [zero, ShowsTs]
    case isTrue left =>
      have fewer := toNat_decrement limited left
      rw [← fewer, ShowsTs]
      split
      case isTrue shown => exact iff_of_true trivial (.inl shown)
      case isFalse hidden =>
        apply wp_mono (ih _ (by omega) _)
        intro result _ shows
        rw [shows]
        exact (or_iff_right hidden).symm

/-- A poll without a limit returns only once it has sent. -/
theorem wp_writePoll_unlimited (data : Byte) (budget : Nat) (timeout : Word) (w : World σ) :
    wp partially (writePoll env data 0 budget timeout) (fun result _ => result = true) w := by
  induction budget generalizing timeout w with
  | zero => trivial
  | succ budget ih =>
    unfold writePoll
    simp only [wp_ite, wp_bind, wp_readRegister, wp_writeData, wp_vectorEnable, wp_pure, true_or, if_true]
    split
    · trivial
    · exact ih _ _

theorem write_follows (data : Byte) (limit : Word) (errCode : ErrorCode) (w : World σ) :
    wp partially (write env data limit errCode) (fun _ w' => Follows env w w' (.write data limit errCode)) w := by
  have masked := w.masked_masks false
  unfold write
  simp only [wp_bind, wp_vectorDisable, wp_descriptor, World.masked_uart]
  cases attached : w.uart.txFifo with
  | some q => exact masked.unmasked.follows rfl (.inl (by simp [attached]))
  | none =>
    simp only [wp_bind, wp_pure]
    have polled : wp partially (writePoll env data limit (pollBudget env limit) limit) (WritePolled (w.masked false))
        (w.masked false) := wp_writePoll trivial data limit _ limit _
    by_cases unlimited : limit = 0
    · subst unlimited
      apply wp_mono (wp_and polled (wp_writePoll_unlimited data _ 0 _))
      rintro _ w' ⟨polled, rfl⟩
      cases polled with
      | sent touches => exact (masked.trans touches.masks).unmasked.follows rfl (.inr (.inl rfl))
    · apply wp_mono (wp_and polled (wp_writePoll_shows unlimited _ limit (lt_pollBudget env unlimited) _))
      rintro _ w' ⟨polled, shows⟩
      cases polled with
      | sent touches => exact (masked.trans touches.masks).unmasked.follows rfl (.inr (.inr (shows.1 rfl)))
      | timedOut touches =>
        have masking : ¬ Unmasking env w (.write data limit errCode) := by
          rintro (queue | zero | shown)
          · exact queue attached
          · exact unlimited zero
          · cases shows.2 shown
        have after := masked.trans touches.masks
        refine ⟨congrArg (fun uart : Uart => interruptNumber uart.id) after.uart,
          congrArg (fun uart : Uart => uart.interruptData.rtemsInterruptEntry) after.uart, .kept rfl masking ?_ ?_⟩
        · intro enabled
          have disabled : (w.masked false).rtems.enabled w.vector = false := w.masked_enabled false
          rw [touches.rtems, disabled] at enabled
          cases enabled
        · rw [after.installed]

/-- Every call of a run. -/
theorem exec_follows (polls : Polls call) (run : exec env call w = .ok (answer, w')) : Follows env w w' call := by
  have spec : wp partially (exec env call) (fun _ w' => Follows env w w' call) w := by
    have pointer : ∀ p : Option FifoRef, p = none → partially Fault.nullDereference := fun _ _ => trivial
    cases call with
    | startup => exact ⟨rfl, rfl, .started rfl rfl⟩
    | shutdown =>
      refine ⟨rfl, rfl, .stopped rfl ?_ ?_⟩
      · have disabled : (w.masked false).rtems.enabled w.vector = false := w.masked_enabled false
        exact (congrFun (Rtems.entryRemove_enabled _ _ _) _).trans disabled
      · have masked : ((w.masked false).rtems.entryRemove w.vector w.entry).installed =
            (w.rtems.entryRemove w.vector w.entry).installed := by
          rw [Rtems.entryRemove_installed, Rtems.entryRemove_installed, w.masked_installed]
        exact congrFun masked w.vector
    | setConfig config =>
      rw [exec, wp_bind]
      exact wp_mono (touches_setConfig config w) fun _ w' touches => touches.follows rfl fun unmasking => unmasking
    | getConfig =>
      rw [exec, wp_bind]
      exact wp_mono (touches_getConfig w) fun _ w' touches => touches.follows rfl fun unmasking => unmasking
    | registerErrorHandler handler => exact ⟨rfl, rfl, .unmasked rfl trivial (Function.update_self _ _ _) rfl⟩
    | readAsync fifo handler => exact ⟨rfl, rfl, .unmasked rfl trivial (Function.update_self _ _ _) rfl⟩
    | writeAsync fifo handler =>
      rw [exec, wp_bind]
      apply wp_mono (wp_writeAsync (pointer fifo) handler w)
      rintro _ w' ⟨uart, installed, enabled⟩
      have vector : w'.vector = w.vector := by
        rw [World.vector, uart]
        rfl
      refine ⟨vector, ?_, .unmasked rfl trivial ?_ ?_⟩
      · rw [World.entry, uart]
        rfl
      · rw [← vector]
        exact enabled
      · rw [installed]
    | read data limit errCode =>
      rw [exec, wp_bind]
      exact wp_mono (unmasks_read trivial data limit errCode w) fun _ w' unmasks => unmasks.follows rfl trivial
    | write data limit errCode =>
      rw [exec, wp_bind]
      exact wp_mono (write_follows data limit errCode w) fun _ w' follows => follows
    | isTxEmpty | isRxEmpty =>
      rw [exec, wp_bind]
      exact wp_mono (unmasks_query (masks_fifoIsEmpty (pointer _) _)) fun _ w' unmasks => unmasks.follows rfl trivial
    | getTxFifoCount | getRxFifoCount =>
      rw [exec, wp_bind]
      exact wp_mono (unmasks_query (masks_fifoGetCount (pointer _) _)) fun _ w' unmasks => unmasks.follows rfl trivial
    | _ => exact polls.elim
  have ended := wp_ended spec run
  exact ended

end Calls

/-- What the calls so far have led to. -/
structure Tracked (calls : List (Made σ)) (w : World σ) : Prop where
  installed : Started calls ∧ w.rtems.installed w.vector = some w.entry ∨
    ¬ Started calls ∧ w.rtems.installed w.vector = none
  guarded : w.Guarded

section Run

variable {env : Env σ} {calls : List (Made σ)} {w w' : World σ} {call : Call} {answer : Answer}

theorem started_snoc {made : Made σ} :
    Started (calls ++ [made]) ↔ (made.input.starts).getD (Assignments.after (fun made => made.input.starts) false calls) = true := by
  rw [Started, Assignments.after_snoc]

theorem started_other {made : Made σ} (other : made.input.starts = none) : Started (calls ++ [made]) ↔ Started calls := by
  rw [started_snoc, other]
  rfl

/-- A start installs the entry on a vector that is free or the driver's own. -/
theorem Tracked.entryInstall (tracked : Tracked calls w) :
    (w.rtems.entryInstall w.vector w.entry).installed w.vector = some w.entry := by
  rcases tracked.installed with ⟨-, own⟩ | ⟨-, free⟩
  · rw [Rtems.entryInstall_occupied own, own]
  · exact Rtems.entryInstall_free free

theorem Tracked.entryRemove (tracked : Tracked calls w) :
    (w.rtems.entryRemove w.vector w.entry).installed w.vector = none := by
  rcases tracked.installed with ⟨-, own⟩ | ⟨-, free⟩
  · exact Rtems.entryRemove_own own
  · rw [Rtems.entryRemove_other (by simp [free]), free]

theorem Follows.guarded_iff (follows : Follows env w w' call) (tracked : Tracked calls w) :
    w'.Guarded ↔ (Unmasking env w call → Started calls) := by
  obtain ⟨vector, entry, effect⟩ := follows
  unfold World.Guarded
  rw [vector, entry]
  cases effect with
  | started start installed =>
    subst start
    rw [installed, tracked.entryInstall]
    exact iff_of_true (fun _ => rfl) False.elim
  | stopped stop disabled removed =>
    subst stop
    rw [disabled]
    exact iff_of_true (fun enabled => by cases enabled) False.elim
  | kept starts masking enabled installed =>
    rw [installed]
    exact iff_of_true (fun on => tracked.guarded (enabled on)) fun unmasking => absurd unmasking masking
  | unmasked starts unmasking enabled installed =>
    rw [installed]
    rcases tracked.installed with ⟨started, own⟩ | ⟨idle, free⟩
    · exact iff_of_true (fun _ => own) fun _ => started
    · exact iff_of_false (fun guarded => by simp [free] at guarded; simp [enabled] at guarded) fun started => idle (started unmasking)

theorem Follows.tracked (follows : Follows env w w' call) (tracked : Tracked calls w) (guarded : w'.Guarded) :
    Tracked (calls ++ [⟨w, call, answer, w'⟩]) w' := by
  obtain ⟨vector, entry, effect⟩ := follows
  refine ⟨?_, guarded⟩
  rw [vector, entry]
  cases effect with
  | started start installed =>
    subst start
    rw [installed, tracked.entryInstall]
    exact .inl ⟨started_snoc.2 rfl, rfl⟩
  | stopped stop disabled removed =>
    subst stop
    rw [removed, tracked.entryRemove]
    exact .inr ⟨fun started => Bool.false_ne_true (started_snoc.1 started), rfl⟩
  | kept starts masking enabled installed =>
    rw [installed, started_other starts]
    exact tracked.installed
  | unmasked starts unmasking enabled installed =>
    rw [installed, started_other starts]
    exact tracked.installed

end Run

theorem init_tracked {env : Env σ} {id : Id} {start initial : World σ}
    (free : start.rtems.installed (interruptNumber id) = none)
    (initialised : exec env (.init id) start = .ok (.done, initial)) : Tracked [] initial := by
  -- `init` sets up the descriptor and shuts the driver down; what it clears then is no mask
  obtain ⟨uart, shut, vector, shuts, cleared⟩ : ∃ uart shut, (start.withUart uart).vector = interruptNumber id ∧
      exec env .shutdown (start.withUart uart) = .ok (.done, shut) ∧
      initial = { shut with rtems := shut.rtems.interruptClear shut.vector } :=
    ⟨_, _, rfl, rfl, (Prod.mk.inj (Except.ok.inj initialised)).2.symm⟩
  have polls : Polls .shutdown := trivial
  obtain ⟨same, -, effect⟩ := exec_follows polls shuts
  subst cleared
  cases effect with
  | stopped stop disabled removed =>
    have other : (start.withUart uart).rtems.installed (interruptNumber id) ≠ some (start.withUart uart).entry := by
      simp [World.withUart, free]
    rw [← same] at disabled removed
    rw [same, vector, Rtems.entryRemove_other other] at removed
    refine ⟨.inr ⟨Bool.false_ne_true, ?_⟩, fun enabled => ?_⟩
    · show shut.rtems.installed shut.vector = none
      rw [same, vector]
      exact removed.trans free
    · have on : shut.rtems.enabled shut.vector = true := enabled
      rw [disabled] at on
      cases on
  | started install => cases install
  | kept starts | unmasked starts => cases starts

/-- **The vector is never enabled without its handler** exactly if no masking
section is opened while the driver is not started, but that of a timed out `write`. -/
theorem vector_guarded_iff {env : Env σ} {id : Id} {start initial w : World σ}
    (free : start.rtems.installed (interruptNumber id) = none)
    (initialised : exec env (.init id) start = .ok (.done, initial)) {calls : List (Made σ)}
    (run : Run env (fun _ => Polls) initial calls w) :
    (initial.Guarded ∧ AtEach (fun _ made => made.after.Guarded) calls) ↔
      AtEach (fun earlier made => Unmasking env made.before made.input → Started earlier) calls := by
  have first : Tracked [] initial := init_tracked free initialised
  rw [and_iff_right first.guarded]
  apply run.atEach_iff (I := Tracked) first
  intro calls w call answer w' tracked polls ran
  have follows := exec_follows polls ran
  have same := follows.guarded_iff tracked
  exact ⟨same, fun started => follows.tracked tracked (same.2 started)⟩

/-- The driver is started, polled and shut down; then a `write` times out. -/
theorem vector_guarded_started :
    ∃ initial calls w, exec Board.env (.init .id0) (Board.world 1 ⟨0, [], []⟩) = .ok (.done, initial) ∧
      calls.map (fun made => made.input) = [.startup, .read 0 1 .ok, .shutdown, .write 0x41 2 .ok] ∧
      Run Board.env (fun _ => Polls) initial calls w ∧ AtEach (fun _ made => made.after.Guarded) calls := by
  obtain ⟨initial, calls, w, initialised, inputs, run, started⟩ :
      ∃ initial calls w, exec Board.env (.init .id0) (Board.world 1 ⟨0, [], []⟩) = .ok (.done, initial) ∧
        calls.map (fun made => made.input) = [.startup, .read 0 1 .ok, .shutdown, .write 0x41 2 .ok] ∧
        Run Board.env (fun _ => Polls) initial calls w ∧
        AtEach (fun earlier made => Unmasking Board.env made.before made.input → Started earlier) calls := by
    refine ⟨Board.initialised 1 ⟨0, [], []⟩, _, _, rfl, ?inputs, (((Run.snoc (i := .startup) .nil (by trivial) rfl).snoc
      (i := .read 0 1 .ok) (by trivial) rfl).snoc (i := .shutdown) (by trivial) rfl).snoc
      (i := .write 0x41 2 .ok) (by trivial) rfl, ?started⟩
    case inputs => rfl
    case started =>
      simp only [atEach_snoc, atEach_nil, true_and]
      refine ⟨⟨⟨False.elim, fun _ => rfl⟩, False.elim⟩, ?_⟩
      rintro (queue | unlimited | shown | shown | none)
      · exact absurd rfl queue
      · cases unlimited
      · cases shown
      · cases shown
      · exact none.elim
  exact ⟨initial, calls, w, initialised, inputs, run, ((vector_guarded_iff rfl initialised run).2 started).2⟩

/-- The error handler is registered before the start: the vector is enabled and empty. -/
theorem vector_unguarded :
    ∃ initial calls w, exec Board.env (.init .id0) (Board.world 1 ⟨0, [], []⟩) = .ok (.done, initial) ∧
      calls.map (fun made => made.input) = [.registerErrorHandler ⟨.user 1, 0⟩] ∧
      Run Board.env (fun _ => Polls) initial calls w ∧
      w.rtems.enabled w.vector = true ∧ w.rtems.installed w.vector = none := by
  refine ⟨_, _, _, rfl, ?inputs, .snoc (i := .registerErrorHandler ⟨.user 1, 0⟩) .nil (by trivial) rfl, rfl, rfl⟩
  rfl

end Leon3Bsp.Uart
