import Leon3Bsp.Timer.System

/-!
# The vector of a stopped timer

`stop` and `shutdown` leave the vector of their timer disabled. Of the calls that
neither start nor initialise it again, only `setConfigRegisters` touches the
mask, and that enables the vector whatever it was.
-/

namespace Leon3Bsp.Timer
set_option autoImplicit false
open Execution

variable {σ : Type}

/-- Whether a call stops its timer, or ends that. -/
def Call.stops : Call → Option Bool
  | .stop _ | .shutdown _ => some true
  | .start _ | .init _ _ _ => some false
  | _ => none

/-- Timer `t` was stopped or shut down, and neither started nor initialised since. -/
abbrev Stopped (t : Id) (calls : List (Made σ)) : Prop :=
  history Call.stops t calls = true

/-- The vector of a timer that is stopped after a call is disabled after it. -/
def StaysMasked (group : Group) (t : Id) (earlier : List (Made σ)) (made : Made σ) : Prop :=
  Stopped t (earlier ++ [made]) → made.after.rtems.enabled (group.interruptNumber t) = false

/-- The call is `setConfigRegisters` for timer `t`. -/
def Reconfigures (t : Id) (made : Made σ) : Prop :=
  made.before.target made.input = some t ∧ ∃ timer config, made.input = .setConfigRegisters timer config

/-- A call that finds a stopped timer masked leaves it so, unless it configures it. -/
theorem staysMasked_iff {group : Group} {t : Id} (own : ∀ u, group.interruptNumber u = group.interruptNumber t → u = t)
    {earlier : List (Made σ)} {made : Made σ} (rtems : made.after.rtems = group.onRtems made.before made.input)
    (masked : Stopped t earlier → made.before.rtems.enabled (group.interruptNumber t) = false) :
    StaysMasked group t earlier made ↔ (Stopped t earlier → ¬ Reconfigures t made) := by
  have vector : (made.before.target made.input).map group.interruptNumber = some (group.interruptNumber t) ↔
      made.before.target made.input = some t := by
    rw [Option.map_eq_some_iff]
    exact ⟨fun ⟨u, target, same⟩ => own u same ▸ target, fun target => ⟨t, target, rfl⟩⟩
  unfold StaysMasked Stopped
  rw [rtems, group.onRtems_enabled, history_snoc]
  simp only [vector]
  by_cases mine : made.before.target made.input = some t
  · simp only [Reconfigures, mine, true_and]
    cases made.input with
    | init | start | stop | shutdown => simp [Call.stops, Call.leavesEnabled]
    | setConfigRegisters timer config => simp [Call.stops, Call.leavesEnabled]
    | setBaseScalerReloadValue | getConfigRegisters | getCounterValue | hasFinished | tick =>
      simpa [Call.stops, Call.leavesEnabled] using masked
  · simpa [mine, Reconfigures] using masked

/-- **The vector of a stopped timer stays disabled** exactly as long as the timer
is not configured. -/
theorem stopped_masked_iff {device : Device σ} {t : Id} (four : t ∈ [Id.id1, .id2, .id3, .id4]) {start w : World σ}
    {calls : List (Made σ)} (run : Run apbctrl1 device (fun _ _ => True) start calls w) :
    AtEach (StaysMasked apbctrl1 t) calls ↔ AtEach (fun earlier made => Stopped t earlier → ¬ Reconfigures t made) calls := by
  have own : ∀ u, apbctrl1.interruptNumber u = apbctrl1.interruptNumber t → u = t := by
    intro u
    simp only [List.mem_cons, List.not_mem_nil, or_false] at four
    rcases four with rfl | rfl | rfl | rfl <;> cases u <;> decide
  apply run.atEach_iff (I := fun calls w => Stopped t calls → w.rtems.enabled (apbctrl1.interruptNumber t) = false)
  · intro stopped
    cases stopped
  · intro earlier w call answer w' masked _ ran
    have same : StaysMasked apbctrl1 t earlier ⟨w, call, answer, w'⟩ ↔
        (Stopped t earlier → ¬ Reconfigures t ⟨w, call, answer, w'⟩) := staysMasked_iff own (exec_rtems ran) masked
    exact ⟨same, same.2⟩

/-- Timer 1 is stopped, then timer 2 is configured. -/
theorem stopped_masked_two :
    ∃ calls w, calls.map (fun made => made.input) = [.init .id1 0 ⟨0, 0⟩, .init .id2 1 ⟨0, 0⟩, .stop 0,
        .setConfigRegisters 1 ⟨true, true, false, false, 5⟩] ∧
      Run apbctrl1 registerFile (fun _ _ => True) (World.blank fun _ => 0) calls w ∧
      AtEach (StaysMasked apbctrl1 .id1) calls := by
  have run₁ : Run apbctrl1 registerFile (fun _ _ => True) (World.blank fun _ => 0) _ _ :=
    .snoc (i := .init .id1 0 ⟨0, 0⟩) .nil trivial rfl
  have run₂ := run₁.snoc (i := .init .id2 1 ⟨0, 0⟩) trivial rfl
  have run₃ := run₂.snoc (i := .stop 0) trivial rfl
  have run₄ := run₃.snoc (i := .setConfigRegisters 1 ⟨true, true, false, false, 5⟩) trivial rfl
  refine ⟨_, _, rfl, run₄, (stopped_masked_iff (by decide) run₄).2 ?_⟩
  simp only [atEach_snoc, atEach_nil, true_and]
  refine ⟨⟨⟨?_, ?_⟩, ?_⟩, ?_⟩
  · rintro - ⟨-, _, _, other⟩
    cases other
  · rintro - ⟨-, _, _, other⟩
    cases other
  · rintro - ⟨-, _, _, other⟩
    cases other
  · rintro - ⟨other, -⟩
    cases other

/-- Timer 1 is stopped and configured: its vector is enabled, no start between. -/
theorem stopped_unmasked :
    ∃ calls w, calls.map (fun made => made.input) = [.init .id1 0 ⟨0, 0⟩, .stop 0,
        .setConfigRegisters 0 ⟨true, false, false, false, 5⟩] ∧
      Run apbctrl1 registerFile (fun _ _ => True) (World.blank fun _ => 0) calls w ∧
      Stopped .id1 calls ∧ w.rtems.enabled (apbctrl1.interruptNumber .id1) = true := by
  have run₁ : Run apbctrl1 registerFile (fun _ _ => True) (World.blank fun _ => 0) _ _ :=
    .snoc (i := .init .id1 0 ⟨0, 0⟩) .nil trivial rfl
  have run₂ := run₁.snoc (i := .stop 0) trivial rfl
  have run₃ := run₂.snoc (i := .setConfigRegisters 0 ⟨true, false, false, false, 5⟩) trivial rfl
  exact ⟨_, _, rfl, run₃, rfl, rfl⟩

end Leon3Bsp.Timer
