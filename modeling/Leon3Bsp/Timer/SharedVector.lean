import Leon3Bsp.Timer.System

/-!
# Two timers on one vector

Both timers of `Apbctrl2` have vector 7, and each call treats it as its own: the
install is refused while the other timer's entry is there, and `stop` and
`shutdown` disable it for both. They do not disturb one another as long as a
timer is initialised while the other is shut down, and is stopped while the
other is not running.
-/

namespace Leon3Bsp.Timer
set_option autoImplicit false
open Execution

variable {σ : Type}

/-- Whether a call initialises its timer or shuts it down. -/
def Call.lives : Call → Option Bool
  | .init _ _ _ => some true
  | .shutdown _ => some false
  | _ => none

/-- Whether a call starts its timer or stops it. -/
def Call.runs : Call → Option Bool
  | .start _ => some true
  | .stop _ | .shutdown _ => some false
  | _ => none

/-- Timer `t` was initialised and not shut down since. -/
abbrev Live (t : Id) (calls : List (Made σ)) : Prop :=
  history Call.lives t calls = true

/-- Timer `t` was started and neither stopped nor shut down since. -/
abbrev Running (t : Id) (calls : List (Made σ)) : Prop :=
  history Call.runs t calls = true

/-- `Timer_Id_1` and `Timer_Id_2`. -/
def Pair (t : Id) : Prop :=
  t = .id1 ∨ t = .id2

/-- The vector of both. -/
def sharedVector : Nat := 7

/-- The entry of timer `t`, whose descriptor is `timer t`, is installed. -/
def Installed (timer : Id → TimerRef) (t : Id) (w : World σ) : Prop :=
  w.rtems.installed sharedVector = some (rtemsInterruptEntry (timer t))

def Enabled (w : World σ) : Prop :=
  w.rtems.enabled sharedVector = true

/-- A live timer has its entry installed, a running one its vector enabled. -/
structure Served (timer : Id → TimerRef) (t : Id) (calls : List (Made σ)) (w : World σ) : Prop where
  installed : Live t calls → Installed timer t w
  enabled : Running t calls → Enabled w

/-- A call for another timer changes neither fact. -/
structure Undisturbed (timer : Id → TimerRef) (t : Id) (earlier : List (Made σ)) (made : Made σ) : Prop where
  installed : Live t earlier → (Installed timer t made.after ↔ Installed timer t made.before)
  enabled : Running t earlier → (Enabled made.after ↔ Enabled made.before)

/-- What independence demands of a call. -/
structure Independent (timer : Id → TimerRef) (earlier : List (Made σ)) (made : Made σ) : Prop where
  served : ∀ t, Pair t → Served timer t (earlier ++ [made]) made.after
  undisturbed : ∀ t, Pair t → made.before.target made.input ≠ some t → Undisturbed timer t earlier made

/-- The calls of a run: each timer is used through its own descriptor. -/
def Uses (timer : Id → TimerRef) (w : World σ) (call : Call) : Prop :=
  ∀ ref, call.timer = some ref → ∃ t, Pair t ∧ ref = timer t ∧ w.target call = some t

/-- A timer is initialised while the other is not live, and stopped or shut down
while the other is not running. -/
def Considerate (earlier : List (Made σ)) (made : Made σ) : Prop :=
  ∀ t, Pair t → made.before.target made.input ≠ some t →
    (made.input.lives = some true → ¬ Live t earlier) ∧ (made.input.runs = some false → ¬ Running t earlier)

/-- What considerate calls keep: the timers are served, and the vector holds the
entry of a live timer or none. -/
structure Shared (timer : Id → TimerRef) (calls : List (Made σ)) (w : World σ) : Prop where
  served : ∀ t, Pair t → Served timer t calls w
  owner : ∀ entry, w.rtems.installed sharedVector = some entry →
    ∃ t, Pair t ∧ entry = rtemsInterruptEntry (timer t) ∧ Live t calls

section Step

variable {timer : Id → TimerRef} {earlier : List (Made σ)} {made : Made σ}

/-- A call for a timer of the pair leaves the mask of the vector as it says. -/
theorem enabled_after {t : Id} (pair : Pair t) (target : made.before.target made.input = some t)
    (rtems : made.after.rtems = apbctrl2.onRtems made.before made.input) :
    made.after.rtems.enabled sharedVector = made.input.leavesEnabled.getD (made.before.rtems.enabled sharedVector) := by
  have vector : apbctrl2.interruptNumber t = sharedVector := by rcases pair with rfl | rfl <;> rfl
  rw [rtems, apbctrl2.onRtems_enabled, target, Option.map_some, vector, if_pos rfl]

/-- What a call does to the entry of the vector. -/
inductive SlotStep (timer : Id → TimerRef) (t : Id) (made : Made σ) : Prop
  | taken (lives : made.input.lives = some true)
      (before : made.before.rtems.installed sharedVector = none ∨ Installed timer t made.before)
      (after : Installed timer t made.after)
  | refused (lives : made.input.lives = some true) (entry : EntryRef)
      (before : made.before.rtems.installed sharedVector = some entry) (other : entry ≠ rtemsInterruptEntry (timer t))
  | freed (lives : made.input.lives = some false) (before : Installed timer t made.before)
      (after : made.after.rtems.installed sharedVector = none)
  | foreign (lives : made.input.lives = some false) (before : ¬ Installed timer t made.before)
      (after : made.after.rtems.installed sharedVector = made.before.rtems.installed sharedVector)
  | kept (lives : made.input.lives = none)
      (after : made.after.rtems.installed sharedVector = made.before.rtems.installed sharedVector)

theorem slotStep {t : Id} (pair : Pair t) (uses : made.input.timer = some (timer t))
    (target : made.before.target made.input = some t)
    (rtems : made.after.rtems = apbctrl2.onRtems made.before made.input) : SlotStep timer t made := by
  have vector : apbctrl2.interruptNumber t = sharedVector := by rcases pair with rfl | rfl <;> rfl
  have after : made.after.rtems.installed = _ := (congrArg Rtems.installed rtems).trans (apbctrl2.onRtems_installed _ _)
  obtain ⟨w, call, answer, w'⟩ := made
  cases call with
  | init t' ref handler =>
    cases uses
    cases target
    simp only [vector] at after
    cases slot : w.rtems.installed sharedVector with
    | none =>
      refine .taken rfl (Or.inl slot) ?_
      rw [Installed, after, Rtems.entryInstall_free slot]
    | some entry =>
      by_cases own : entry = rtemsInterruptEntry (timer t)
      · subst own
        refine .taken rfl (Or.inr slot) ?_
        rw [Installed, after, Rtems.entryInstall_occupied slot, slot]
      · exact .refused rfl entry slot own
  | shutdown ref =>
    cases uses
    simp only [World.target, Call.timer, Option.map_some, Option.some.injEq] at target
    simp only [target, vector] at after
    by_cases own : w.rtems.installed sharedVector = some (rtemsInterruptEntry (timer t))
    · refine .freed rfl own ?_
      rw [after, Rtems.entryRemove_own own]
    · refine .foreign rfl own ?_
      rw [after, Rtems.entryRemove_other own]
  | _ => exact .kept rfl (by rw [after])

/-- The facts about a timer change with its own calls only. -/
theorem history_other (fact : Call → Option Bool) {t : Id} (other : made.before.target made.input ≠ some t) :
    history fact t (earlier ++ [made]) = history fact t earlier := by
  rw [history_snoc, if_neg other]

theorem history_own (fact : Call → Option Bool) {t : Id} (target : made.before.target made.input = some t) :
    history fact t (earlier ++ [made]) = (fact made.input).getD (history fact t earlier) := by
  rw [history_snoc, if_pos target]

theorem timer_injective (distinct : timer .id1 ≠ timer .id2) {t u : Id} (pair : Pair t) (pair' : Pair u)
    (same : timer t = timer u) : t = u := by
  rcases pair with rfl | rfl <;> rcases pair' with rfl | rfl
  · rfl
  · exact absurd same distinct
  · exact absurd same.symm distinct
  · rfl

theorem Installed.unique {t u : Id} {w : World σ} (distinct : timer .id1 ≠ timer .id2) (pair : Pair t) (pair' : Pair u)
    (first : Installed timer t w) (second : Installed timer u w) : t = u :=
  timer_injective distinct pair pair' (Option.some.inj (first.symm.trans second))

/-- A considerate `init` finds no entry in its way: that would be the entry of
the other timer, which is live. -/
theorem Shared.unopposed {t : Id} (shared : Shared timer earlier made.before) (considerate : Considerate earlier made)
    (target : made.before.target made.input = some t) (lives : made.input.lives = some true) {entry : EntryRef}
    (before : made.before.rtems.installed sharedVector = some entry) : entry = rtemsInterruptEntry (timer t) := by
  obtain ⟨u, pair', rfl, live⟩ := shared.owner entry before
  by_cases same : t = u
  · rw [same]
  · exact absurd live ((considerate u pair' (by simp [target, same])).1 lives)

/-- A call that treats the other timer well leaves its own timer served. -/
theorem Shared.own {t : Id} (shared : Shared timer earlier made.before) (considerate : Considerate earlier made)
    (pair : Pair t) (uses : made.input.timer = some (timer t)) (target : made.before.target made.input = some t)
    (rtems : made.after.rtems = apbctrl2.onRtems made.before made.input) :
    Served timer t (earlier ++ [made]) made.after := by
  constructor
  · intro live
    rw [Live, history_own _ target] at live
    cases slotStep pair uses target rtems with
    | taken lives before after => exact after
    | refused lives entry before other => exact absurd (shared.unopposed considerate target lives before) other
    | freed lives | foreign lives =>
      rw [lives] at live
      cases live
    | kept lives after =>
      rw [lives] at live
      exact after.trans ((shared.served t pair).installed live)
  · intro running
    rw [Running, history_own _ target] at running
    rw [Enabled, enabled_after pair target rtems]
    cases input : made.input with
    | init | setConfigRegisters | start => rfl
    | stop | shutdown =>
      rw [input] at running
      cases running
    | setBaseScalerReloadValue | getConfigRegisters | getCounterValue | hasFinished | tick =>
      rw [input] at running
      exact (shared.served t pair).enabled running

/-- It leaves the other timer served as well. -/
theorem Shared.other {t u : Id} (distinct : timer .id1 ≠ timer .id2) (shared : Shared timer earlier made.before)
    (considerate : Considerate earlier made) (pair : Pair t) (uses : made.input.timer = some (timer t))
    (target : made.before.target made.input = some t)
    (rtems : made.after.rtems = apbctrl2.onRtems made.before made.input) (pair' : Pair u) (apart : t ≠ u) :
    Served timer u (earlier ++ [made]) made.after := by
  have elsewhere : made.before.target made.input ≠ some u := by simp [target, apart]
  constructor
  · intro live
    rw [Live, history_other _ elsewhere] at live
    have before := (shared.served u pair').installed live
    cases slotStep pair uses target rtems with
    | taken lives | refused lives => exact absurd live ((considerate u pair' elsewhere).1 lives)
    | freed lives own after => exact absurd (own.unique distinct pair pair' before) apart
    | foreign lives own after | kept lives after => exact after.trans before
  · intro running
    rw [Running, history_other _ elsewhere] at running
    have before := (shared.served u pair').enabled running
    have spares := (considerate u pair' elsewhere).2
    rw [Enabled, enabled_after pair target rtems]
    cases input : made.input with
    | init | setConfigRegisters | start => rfl
    | stop | shutdown =>
      rw [input] at spares
      exact absurd running (spares rfl)
    | setBaseScalerReloadValue | getConfigRegisters | getCounterValue | hasFinished | tick => exact before

theorem Shared.ownerAfter {t : Id} (shared : Shared timer earlier made.before) (considerate : Considerate earlier made)
    (pair : Pair t) (uses : made.input.timer = some (timer t)) (target : made.before.target made.input = some t)
    (rtems : made.after.rtems = apbctrl2.onRtems made.before made.input) {entry : EntryRef}
    (installed : made.after.rtems.installed sharedVector = some entry) :
    ∃ u, Pair u ∧ entry = rtemsInterruptEntry (timer u) ∧ Live u (earlier ++ [made]) := by
  cases slotStep pair uses target rtems with
  | taken lives before after =>
    refine ⟨t, pair, Option.some.inj (installed.symm.trans after), ?_⟩
    rw [Live, history_own _ target, lives]
    rfl
  | refused lives entry' before other => exact absurd (shared.unopposed considerate target lives before) other
  | freed lives before after =>
    rw [after] at installed
    cases installed
  | foreign lives before after =>
    rw [after] at installed
    obtain ⟨u, pair', rfl, live⟩ := shared.owner entry installed
    refine ⟨u, pair', rfl, ?_⟩
    have apart : t ≠ u := by
      rintro rfl
      exact before installed
    rw [Live, history_other _ (by simp [target, apart])]
    exact live
  | kept lives after =>
    rw [after] at installed
    obtain ⟨u, pair', rfl, live⟩ := shared.owner entry installed
    refine ⟨u, pair', rfl, ?_⟩
    rw [Live, history_snoc, lives]
    split <;> exact live

/-- The calls that are for no timer change nothing here. -/
theorem Shared.tick (shared : Shared timer earlier made.before) (input : made.input = .tick)
    (rtems : made.after.rtems = apbctrl2.onRtems made.before made.input) :
    Shared timer (earlier ++ [made]) made.after := by
  have same : made.after.rtems = made.before.rtems := by rw [rtems, input]; rfl
  have elsewhere (t : Id) : made.before.target made.input ≠ some t := by rw [input]; exact nofun
  constructor
  · intro t pair
    obtain ⟨installed, enabled⟩ := shared.served t pair
    constructor
    · rw [Live, history_other _ (elsewhere t), Installed, same]
      exact installed
    · rw [Running, history_other _ (elsewhere t), Enabled, same]
      exact enabled
  · rw [same]
    intro entry installed
    obtain ⟨t, pair, own, live⟩ := shared.owner entry installed
    refine ⟨t, pair, own, ?_⟩
    rwa [Live, history_other _ (elsewhere t)]

/-- Considerate calls keep the vector shared. -/
theorem Shared.step (distinct : timer .id1 ≠ timer .id2) (shared : Shared timer earlier made.before)
    (uses : Uses timer made.before made.input) (rtems : made.after.rtems = apbctrl2.onRtems made.before made.input)
    (considerate : Considerate earlier made) : Shared timer (earlier ++ [made]) made.after := by
  cases given : made.input.timer with
  | none =>
    have input : made.input = .tick := by cases input : made.input <;> simp_all [Call.timer]
    exact shared.tick input rtems
  | some ref =>
    obtain ⟨t, pair, rfl, target⟩ := uses ref given
    refine ⟨fun u pair' => ?_, fun entry installed => shared.ownerAfter considerate pair given target rtems installed⟩
    by_cases same : t = u
    · subst same
      exact shared.own considerate pair given target rtems
    · exact shared.other distinct considerate pair given target rtems pair' same

theorem Shared.independent (before : Shared timer earlier made.before)
    (after : Shared timer (earlier ++ [made]) made.after) : Independent timer earlier made := by
  refine ⟨after.served, fun t pair elsewhere => ⟨fun live => ?_, fun running => ?_⟩⟩
  · refine iff_of_true ((after.served t pair).installed ?_) ((before.served t pair).installed live)
    rwa [Live, history_other _ elsewhere]
  · refine iff_of_true ((after.served t pair).enabled ?_) ((before.served t pair).enabled running)
    rwa [Running, history_other _ elsewhere]

/-- Independence forces a call to be considerate. -/
theorem Independent.considerate (distinct : timer .id1 ≠ timer .id2) (independent : Independent timer earlier made)
    (uses : Uses timer made.before made.input) (rtems : made.after.rtems = apbctrl2.onRtems made.before made.input) :
    Considerate earlier made := by
  intro u pair' elsewhere
  cases given : made.input.timer with
  | none =>
    have input : made.input = .tick := by cases input : made.input <;> simp_all [Call.timer]
    simp [input, Call.lives, Call.runs]
  | some ref =>
    obtain ⟨t, pair, rfl, target⟩ := uses ref given
    constructor
    · intro lives live
      have own : Live t (earlier ++ [made]) := by rw [Live, history_own _ target, lives]; rfl
      have its : Live u (earlier ++ [made]) := by rwa [Live, history_other _ elsewhere]
      have same := ((independent.served t pair).installed own).unique distinct pair pair'
        ((independent.served u pair').installed its)
      exact elsewhere (same ▸ target)
    · intro stops running
      have its : Running u (earlier ++ [made]) := by rwa [Running, history_other _ elsewhere]
      have enabled := (independent.served u pair').enabled its
      rw [Enabled, enabled_after pair target rtems] at enabled
      cases input : made.input <;> simp_all [Call.runs, Call.leavesEnabled]

end Step

/-- **The two timers are independent** exactly in the runs whose calls are
considerate. -/
theorem independent_iff {device : Device σ} {timer : Id → TimerRef} (distinct : timer .id1 ≠ timer .id2) {start w : World σ}
    (empty : start.rtems.installed sharedVector = none) {calls : List (Made σ)}
    (run : Run apbctrl2 device (Uses timer) start calls w) :
    AtEach (Independent timer) calls ↔ AtEach Considerate calls := by
  have init : Shared timer [] start := by
    refine ⟨fun t _ => ⟨fun live => ?_, fun running => ?_⟩, fun entry installed => ?_⟩
    · cases live
    · cases running
    · rw [empty] at installed
      cases installed
  apply run.atEach_iff (I := Shared timer) init
  intro earlier w call answer w' shared uses ran
  have rtems := exec_rtems ran
  have step : Considerate earlier ⟨w, call, answer, w'⟩ → Shared timer (earlier ++ [⟨w, call, answer, w'⟩]) w' :=
    shared.step distinct uses rtems
  exact ⟨⟨fun independent => independent.considerate distinct uses rtems,
    fun considerate => shared.independent (step considerate)⟩, step⟩

/-- Descriptor 0 is for timer 1 and descriptor 1 for timer 2. -/
def twoDescriptors (t : Id) : TimerRef :=
  if t = .id1 then 0 else 1

/-- Timer 1 is shut down before timer 2 is initialised and started. -/
theorem independent_successive :
    ∃ calls w, calls.map (fun made => made.input) = [.init .id1 0 ⟨0, 0⟩, .shutdown 0, .init .id2 1 ⟨0, 0⟩, .start 1] ∧
      Run apbctrl2 registerFile (Uses twoDescriptors) (World.blank fun _ => 0) calls w ∧
      AtEach (Independent twoDescriptors) calls := by
  have first (w : World (Register → Word)) (call : Call) (given : call.timer = some 0) (target : w.target call = some .id1) :
      Uses twoDescriptors w call := by
    intro ref same
    cases given.symm.trans same
    exact ⟨.id1, Or.inl rfl, rfl, target⟩
  have second (w : World (Register → Word)) (call : Call) (given : call.timer = some 1) (target : w.target call = some .id2) :
      Uses twoDescriptors w call := by
    intro ref same
    cases given.symm.trans same
    exact ⟨.id2, Or.inr rfl, rfl, target⟩
  have run₁ : Run apbctrl2 registerFile (Uses twoDescriptors) (World.blank fun _ => 0) _ _ :=
    .snoc (i := .init .id1 0 ⟨0, 0⟩) .nil (first _ _ rfl rfl) rfl
  have run₂ := run₁.snoc (i := .shutdown 0) (first _ _ rfl rfl) rfl
  have run₃ := run₂.snoc (i := .init .id2 1 ⟨0, 0⟩) (second _ _ rfl rfl) rfl
  have run₄ := run₃.snoc (i := .start 1) (second _ _ rfl rfl) rfl
  refine ⟨_, _, rfl, run₄, (independent_iff (by decide) rfl run₄).2 ?_⟩
  simp only [atEach_snoc, atEach_nil, true_and]
  refine ⟨⟨⟨?_, ?_⟩, ?_⟩, ?_⟩ <;> rintro t (rfl | rfl) elsewhere <;> constructor <;> intro _ facts <;>
    first | exact absurd facts (by decide) | exact absurd rfl elsewhere

/-- Both timers are initialised: the install of the second was refused. -/
theorem independent_refused :
    ∃ calls w, calls.map (fun made => made.input) = [.init .id1 0 ⟨0, 0⟩, .init .id2 1 ⟨0, 0⟩] ∧
      Run apbctrl2 registerFile (Uses twoDescriptors) (World.blank fun _ => 0) calls w ∧
      Live .id2 calls ∧ ¬ Installed twoDescriptors .id2 w := by
  have run₁ : Run apbctrl2 registerFile (Uses twoDescriptors) (World.blank fun _ => 0) _ _ :=
    .snoc (i := .init .id1 0 ⟨0, 0⟩) .nil (by rintro _ ⟨⟩; exact ⟨.id1, Or.inl rfl, rfl, rfl⟩) rfl
  have run₂ := run₁.snoc (i := .init .id2 1 ⟨0, 0⟩) (by rintro _ ⟨⟩; exact ⟨.id2, Or.inr rfl, rfl, rfl⟩) rfl
  refine ⟨_, _, rfl, run₂, rfl, ?_⟩
  show some 0 ≠ some 1
  decide

end Leon3Bsp.Timer
