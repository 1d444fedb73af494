import Leon3Bsp.Timer.Clocked

/-!
# What a timer tells while the clock goes on

A timer counts on while it is read, and while calls for other timers are under
way, whether these are divided by the clocks or not. What the driver reads off it
is right for a moment between the beginning and the end of the call.
-/

namespace Leon3Bsp.Timer
set_option autoImplicit false
open Wp Execution Coupling Interruption Movers Cascade

section Accesses

variable {group : Group} {timers : List TimerRef} {first count : Nat} {J : Nat → World Gptimers → Prop}
variable {w w' : World Gptimers} {passed : Nat}

/-- The invariant with what a call under way knows of the descriptors. -/
def Under (J : Nat → World Gptimers → Prop) (P : (TimerRef → Timer) → Prop) (passed : Nat) (w : World Gptimers) : Prop :=
  J passed w ∧ P w.timers

variable {P : (TimerRef → Timer) → Prop} (lasts : Lasts timers first count J)
include lasts

theorem carries_act {α : Type} {g : World Gptimers → α × World Gptimers} (kept : ∀ w, (g w).2.timers = w.timers)
    (scaler : ∀ w, (g w).2.hw.scaler = w.hw.scaler) (scalerReload : ∀ w, (g w).2.hw.scalerReload = w.hw.scalerReload)
    (part : ∀ w, (g w).2.hw.part first count = w.hw.part first count) :
    Carries (Under J P) (Steps.once (act g : Driver Gptimers α)) := by
  refine carries_once fun passed w a w' under ran => ?_
  have ended : (g w).2 = w' := congrArg Prod.snd (Except.ok.inj ran)
  rw [← ended]
  refine ⟨lasts.besides _ _ _ under.1 (fun timer _ => congrFun (kept w) timer) (scaler w) (scalerReload w) (part w), ?_⟩
  rw [kept]
  exact under.2

theorem carries_rtems (f : Rtems → Rtems) :
    Carries (Under J P) (Steps.once (rtems f : Driver Gptimers Unit)) :=
  carries_act lasts (fun _ => rfl) (fun _ => rfl) (fun _ => rfl) fun _ => rfl

theorem carries_readRegister (r : Register) :
    Carries (Under J P) (Steps.once (readRegister group.gptimers r)) :=
  carries_act lasts (fun _ => rfl) (fun _ => rfl) (fun _ => rfl) fun _ => rfl

/-- A register of another timer is written. -/
theorem carries_writeRegister {pointer : Nat} {field : Field} (own : field = .counter ∨ field = .reload ∨ field = .control)
    (outside : Outside first count (Gptimers.slot group.addressBase pointer)) (value : Word) :
    Carries (Under J P) (Steps.once (writeRegister group.gptimers ⟨pointer, field⟩ value)) := by
  have written (w : World Gptimers) : (w.afterWrite group.gptimers ⟨pointer, field⟩ value).hw =
      w.hw.change (Gptimers.slot group.addressBase pointer) fun timer => timer.write value field :=
    Gptimers.write_timer group.addressBase pointer value w.hw own
  refine carries_act lasts (fun _ => rfl) (fun w => ?_) (fun w => ?_) fun w => ?_
  · exact (congrArg Gptimers.scaler (written w)).trans (Gptimers.change_scaler _ _ _)
  · exact (congrArg Gptimers.scalerReload (written w)).trans (Gptimers.change_scalerReload _ _ _)
  · exact (congrArg (Gptimers.part first count) (written w)).trans (Gptimers.part_change outside _ _)

theorem carries_configuration (value : Word) : Carries (Under J P)
    (Steps.once (writeRegister group.gptimers ⟨group.addressBase, .configuration⟩ value)) := by
  have written (w : World Gptimers) : (w.afterWrite group.gptimers ⟨group.addressBase, .configuration⟩ value).hw =
      { w.hw with configuration := value } := if_pos rfl
  refine carries_act lasts (fun _ => rfl) (fun w => ?_) (fun w => ?_) fun w => ?_
  · exact (congrArg Gptimers.scaler (written w)).trans rfl
  · exact (congrArg Gptimers.scalerReload (written w)).trans rfl
  · exact (congrArg (Gptimers.part first count) (written w)).trans rfl

theorem carries_setFlagSteps {pointer : Nat} (outside : Outside first count (Gptimers.slot group.addressBase pointer)) (isSet : Bool)
    (flag : Nat) : Carries (Under J P) (setFlagSteps group.gptimers ⟨pointer, .control⟩ isSet flag) :=
  (carries_readRegister lasts _).bind fun _ => carries_writeRegister lasts (.inr (.inr rfl)) outside _

omit lasts in
/-- The descriptor is the one the call began with. -/
theorem carries_descriptor {α : Type} {timer : TimerRef} {t : Timer} {f : Timer → Steps Empty (World Gptimers) α}
    (rest : Carries (Under J fun timers => timers timer = t) (f t)) :
    Carries (Under J fun timers => timers timer = t) (Steps.once (descriptor timer) >>= f) := by
  intro passed w read w' under ran
  cases ran
  refine ⟨under, ?_⟩
  rw [under.2]
  exact rest

/-- The descriptor of another timer is assigned. -/
theorem carries_modifyDescriptor {timer : TimerRef} (other : timer ∉ timers) (f : Timer → Timer) :
    Carries (Under J fun _ => True) (Steps.once (modifyDescriptor timer f : Driver Gptimers Unit)) := by
  refine carries_once fun passed w _ w' under ran => ⟨?_, trivial⟩
  cases ran
  exact lasts.besides _ _ _ under.1 (fun mine member => Function.update_of_ne (ne_of_mem_of_not_mem member other) _ _) rfl rfl rfl

end Accesses

section Calls

variable {group : Group} {order : Call → Order} {timers : List TimerRef} {first count : Nat} {J : Nat → World Gptimers → Prop}
variable {w w' : World Gptimers} {passed k : Nat} {call : Call} {answer : Answer}

theorem carries_pure {α : Type} {P : (TimerRef → Timer) → Prop} (a : α) :
    Carries (Under J P) (pure a : Steps Empty (World Gptimers) α) := trivial

theorem carries_answer {α : Type} {P : (TimerRef → Timer) → Prop} {p : Steps Empty (World Gptimers) α} (f : α → Answer)
    (carries : Carries (Under J P) p) : Carries (Under J P) (p >>= fun a => pure (f a)) :=
  carries.bind fun _ => carries_pure _

theorem carries_lookSteps {P : (TimerRef → Timer) → Prop} (lasts : Lasts timers first count J) (order : Order)
    (control other : Register) : Carries (Under J P) (lookSteps group.gptimers order control other) := by
  cases order with
  | controlFirst | controlLast =>
    exact (carries_readRegister lasts _).bind fun _ => (carries_readRegister lasts _).bind fun _ => carries_pure _

/-- What lasts is not ended by the calls for others. -/
theorem Lasts.paced (lasts : Lasts timers first count J) (holds : J passed w) (apart : Apart group timers first count w call)
    (still : call ≠ .tick)
    (paced : Paced (Timer.clocked group.addressBase) (steps group group.gptimers order call) w k answer w') :
    J (passed + k) w' := by
  have ticks (P : (TimerRef → Timer) → Prop) (n : Nat) (w : World Gptimers) (under : Under J P n w) :
      Under J P (n + 1) (Timer.clocked group.addressBase w) := ⟨lasts.clock _ _ under.1, under.2⟩
  have carried (P : (TimerRef → Timer) → Prop) (known : P w.timers)
      (carries : Carries (Under J P) (steps group group.gptimers order call)) : J (passed + k) w' :=
    (paced.carries carries (ticks P) ⟨holds, known⟩).1
  -- the call goes on with the descriptor it began with
  have known (timer : TimerRef) : Carries (Under J fun timers => timers timer = w.timers timer)
      (steps group group.gptimers order call) → J (passed + k) w' := carried _ rfl
  cases call with
  | init id timer handler =>
    obtain ⟨other, outside⟩ := apart
    have flag (n : Nat) : Carries (Under J fun _ => True)
        (setFlagSteps group.gptimers ⟨group.addressBase, .configuration⟩ true n) :=
      (carries_readRegister lasts _).bind fun _ => carries_configuration lasts _
    exact carried (fun _ => True) trivial (carries_answer _ ((carries_modifyDescriptor lasts other _).bind fun _ =>
      ((flag _).bind fun _ => flag _).bind fun _ => (carries_modifyDescriptor lasts other _).bind fun _ =>
      (carries_writeRegister lasts (.inr (.inr rfl)) outside _).bind fun _ =>
      (carries_writeRegister lasts (.inl rfl) outside _).bind fun _ =>
      (carries_writeRegister lasts (.inr (.inl rfl)) outside _).bind fun _ =>
      (carries_rtems lasts _).bind fun _ => (carries_rtems lasts _).bind fun _ => carries_rtems lasts _))
  | setBaseScalerReloadValue => exact apart.elim
  | setConfigRegisters timer config =>
    exact known timer (carries_answer _ (carries_descriptor ((carries_rtems lasts _).bind fun _ =>
      ((carries_setFlagSteps lasts apart _ _).bind fun _ => (carries_setFlagSteps lasts apart _ _).bind fun _ =>
      (carries_setFlagSteps lasts apart _ _).bind fun _ => (carries_setFlagSteps lasts apart _ _).bind fun _ =>
      carries_writeRegister lasts (.inr (.inl rfl)) apart _).bind fun _ => carries_rtems lasts _)))
  | getConfigRegisters timer =>
    exact known timer (carries_answer _ (carries_descriptor ((carries_lookSteps lasts _ _ _).bind fun _ => carries_pure _)))
  | start timer =>
    exact known timer (carries_answer _ (carries_descriptor ((carries_rtems lasts _).bind fun _ =>
      ((carries_setFlagSteps lasts apart _ _).bind fun _ => carries_setFlagSteps lasts apart _ _).bind fun _ =>
      carries_rtems lasts _)))
  | stop timer =>
    exact known timer (carries_answer _ (carries_descriptor ((carries_rtems lasts _).bind fun _ =>
      carries_setFlagSteps lasts apart _ _)))
  | shutdown timer =>
    exact known timer (carries_answer _ (carries_descriptor ((carries_rtems lasts _).bind fun _ =>
      (carries_setFlagSteps lasts apart _ _).bind fun _ => (carries_rtems lasts _).bind fun _ => carries_rtems lasts _)))
  | getCounterValue timer => exact known timer (carries_answer _ (carries_descriptor (carries_readRegister lasts _)))
  | hasFinished timer =>
    exact known timer (carries_answer _ (carries_descriptor ((carries_lookSteps lasts _ _ _).bind fun _ => carries_pure _)))
  | tick => exact absurd rfl still

/-- Through any number of them, with the clocks in between. -/
theorem Lasts.timed {made : List (Call × Answer)} (lasts : Lasts timers first count J) (holds : J passed w)
    (timed : Timed (Timer.clocked group.addressBase) (steps group group.gptimers order)
      (fun w call => Apart group timers first count w call ∧ call ≠ .tick) w made k w') : J (passed + k) w' :=
  timed.invariant (J := fun k w => J (passed + k) w) holds (fun _ _ holds => lasts.clock _ _ holds)
    fun n _ _ k _ _ holds fits paced => Nat.add_assoc passed n k ▸ lasts.paced holds fits.1 fits.2 paced

/-- Calls for other timers, divided by clocks. -/
def MeanwhileDivided (group : Group) (order : Call → Order) (timers : List TimerRef) (first count : Nat) (w w' : World Gptimers) :
    Prop :=
  ∃ made k, Timed (clocked group.addressBase) (steps group group.gptimers order)
    (fun w call => Apart group timers first count w call ∧ call ≠ .tick) w made k w'

theorem meanwhileDivided_passes : Passes timers first count (MeanwhileDivided group order timers first count) :=
  fun _ lasts _ _ _ holds ⟨_, _, timed⟩ => ⟨_, lasts.timed holds timed⟩

theorem Lasts.iterate (lasts : Lasts timers first count J) (holds : J passed w) (base n : Nat) :
    J (passed + n) ((Timer.clocked base)^[n] w) := by
  induction n with
  | zero => exact holds
  | succ n ih =>
    rw [Function.iterate_succ_apply']
    exact lasts.clock _ _ ih

end Calls

namespace Config

variable (config : Config) (ticks : Nat)

/-- What the counter shows so many ticks after the start. -/
def shown : Nat :=
  if config.isAutoReloaded then config.reloadValue.toNat - ticks % (config.reloadValue.toNat + 1)
  else if config.reloadValue.toNat < ticks then 0xFFFFFFFF else config.reloadValue.toNat - ticks

/-- How many interrupts the timer has raised by then. -/
def raised : Nat :=
  if !config.isInterruptEnabled then 0
  else if config.isAutoReloaded then ticks / (config.reloadValue.toNat + 1)
  else if config.reloadValue.toNat < ticks then 1 else 0

theorem stepped_ready {g : Gptimer} (ready : Gptimer.Ready config g) :
    (Gptimer.stage.stepped ticks g).counter.toNat = config.shown ticks ∧
    (Gptimer.stage.stepped ticks g).log.count (.underflowed true) =
      g.log.count (.underflowed true) + config.raised ticks := by
  rw [shown, raised]
  cases reloaded : config.isAutoReloaded with
  | true =>
    obtain ⟨counter, interrupts⟩ := ready.periodic reloaded ticks
    rw [interrupts]
    refine ⟨counter, ?_⟩
    cases config.isInterruptEnabled <;> rfl
  | false =>
    obtain ⟨-, counter, interrupts⟩ := ready.once reloaded ticks
    rw [interrupts]
    refine ⟨counter, ?_⟩
    cases config.isInterruptEnabled <;> simp

end Config

/-- **A timer tells the time of the call**: set up and left to count, while calls
for other timers are made and clocks come before any of their accesses, a timer
shows the driver what its counter was at some clock of the look at it, has
finished or not as at some clock of the question, in whichever order that looks,
and raised its interrupts at the clocks they were due. -/
theorem answers_on_time (group : Group) (order : Call → Order) {id : Id} {n : Nat} {timer : TimerRef}
    {handler : InterruptHandler} {scalerReloadValue : Word} {config : Config} {start ready w : World Gptimers}
    {made : List (Call × Answer)} {passed : Nat} (placed : group.place id = some n) (present : n < start.hw.timers.length)
    (unchained : config.isChained = false)
    (setUp : SetUp (exec group group.gptimers) (fun call => call) (MeanwhileDivided group order [timer] n 1) id timer handler
      scalerReloadValue config start ready)
    (timed : Timed (clocked group.addressBase) (steps group group.gptimers order)
      (fun w call => Apart group [timer] n 1 w call ∧ call ≠ .tick) ready made passed w) :
    let s := (group.scalerValue scalerReloadValue).toNat
    let ticks (clocks : Nat) := (clocks + (s - ready.hw.scaler.toNat)) / (s + 1)
    ready.hw.scaler.toNat ≤ s ∧
    (∀ k value w', Paced (clocked group.addressBase) (Group.getCounterValueSteps group.gptimers timer) w k value w' →
      ∃ j ≤ k, value.toNat = config.shown (ticks (passed + j))) ∧
    (config.isAutoReloaded = false → ∀ looks k finished w',
      Paced (clocked group.addressBase) (Group.hasFinishedSteps group.gptimers looks timer) w k finished w' →
      ∃ j ≤ k, finished = decide (config.reloadValue.toNat < ticks (passed + j))) ∧
    w.hw.interrupts n = ready.hw.interrupts n + config.raised (ticks passed) := by
  intro s ticks
  obtain ⟨stands, scaled⟩ := setUp.ready meanwhileDivided_passes placed present
  have since := lasts_since.timed (stands.begins scaled unchained) timed
  rw [Nat.zero_add] at since
  -- the timer some clocks further on
  have later (j : Nat) : let w' := (clocked group.addressBase)^[j] w
      (w'.timers timer).regs = group.addressById id ∧ ∃ g, Gptimer.Ready config g ∧ ready.hw.timers[n]? = some g ∧
        w'.hw.timers[n]? = some (Gptimer.stage.stepped (ticks (passed + j)) g) :=
    stands.counts scaled unchained (lasts_since.iterate since group.addressBase j)
  refine ⟨scaled.below, fun k value w' paced => ?_, fun once looks k finished w' paced => ?_, ?_⟩
  · obtain ⟨j, l, t, sum, ran, -⟩ := whole_getCounterValue timer k value w' paced
    obtain ⟨place, g, begun, -, stepped⟩ := later j
    have read := (getCounterValue_gptimers place placed stepped).symm.trans ran
    cases read
    exact ⟨j, by omega, (config.stepped_ready _ begun).1⟩
  · obtain ⟨j, l, t, sum, ran, -⟩ := whole_hasFinished looks timer k finished w' paced
    obtain ⟨place, g, begun, -, stepped⟩ := later j
    rw [hasFinishedSteps_atomic] at ran
    have read := (hasFinished_gptimers place placed stepped).symm.trans ran
    cases read
    exact ⟨j, by omega, (begun.once once _).1⟩
  · obtain ⟨-, g, begun, before, after⟩ := later 0
    have now : w.hw.timers[n]? = some (Gptimer.stage.stepped (ticks passed) g) := after
    rw [Gptimers.interrupts, Gptimers.interrupts, now, before]
    exact (config.stepped_ready _ begun).2

/-- A clock inside `init` of another timer during the set-up and one inside it after
the start, and one between the two looks of `hasFinished`, at the counter first. -/
theorem answers_on_time_init :
    let order : Call → Order := fun _ => .controlLast
    ∃ ready made w finished w',
      SetUp (exec apbctrl1 apbctrl1.gptimers) (fun call => call) (MeanwhileDivided apbctrl1 order [0] 0 1) .id1 0 ⟨0, 0⟩ 0
        ⟨true, false, false, false, 1⟩ Gptimers.blank ready ∧
      Timed (clocked apbctrl1.addressBase) (steps apbctrl1 apbctrl1.gptimers order)
        (fun w call => Apart apbctrl1 [0] 0 1 w call ∧ call ≠ .tick) ready made 1 w ∧
      made.map (fun taken => taken.1) = [.init .id2 1 ⟨0, 0⟩] ∧
      Paced (clocked apbctrl1.addressBase) (Group.hasFinishedSteps apbctrl1.gptimers .controlLast 0) w 1 finished w' ∧
      ∃ j ≤ 1, finished = decide (1 < 1 + j) := by
  intro order
  have called (call : Call) (w : World Gptimers) : ∃ w', Gives (exec apbctrl1 apbctrl1.gptimers) call w w' := by
    obtain ⟨answer, w', ran⟩ := exec_returns apbctrl1 apbctrl1.gptimers call w
    exact ⟨w', answer, ran⟩
  have apart (w : World Gptimers) : Apart apbctrl1 [0] 0 1 w (.init .id2 1 ⟨0, 0⟩) ∧ Call.init .id2 1 ⟨0, 0⟩ ≠ .tick := by
    refine ⟨⟨by decide, fun place here => ?_⟩, by simp⟩
    cases here
    exact .inr (Nat.le_refl _)
  have other (w : World Gptimers) : ∃ w', Timed (clocked apbctrl1.addressBase) (steps apbctrl1 apbctrl1.gptimers order)
      (fun w call => Apart apbctrl1 [0] 0 1 w call ∧ call ≠ .tick) w [(.init .id2 1 ⟨0, 0⟩, .done)] (0 + 1) w' :=
    ⟨_, .made .nil (apart w) <| .stepped rfl <| .stepped rfl <| .stepped rfl <| .stepped rfl <| .stepped rfl <| .stepped rfl <|
      .stepped rfl <| .ticked <| .stepped rfl <| .stepped rfl <| .stepped rfl <| .stepped rfl <| .stepped rfl <| .done _ _⟩
  have nothing (w : World Gptimers) : MeanwhileDivided apbctrl1 order [0] 0 1 w w := ⟨[], 0, .nil⟩
  obtain ⟨w₁, init⟩ := called (.init .id1 0 ⟨0, 0⟩) Gptimers.blank
  obtain ⟨w₂, scaled⟩ := called (.setBaseScalerReloadValue 0 0) w₁
  obtain ⟨w₃, configured⟩ := called (.setConfigRegisters 0 ⟨true, false, false, false, 1⟩) w₂
  obtain ⟨set, early⟩ := other w₃
  obtain ⟨ready, started⟩ : ∃ ready, exec apbctrl1 apbctrl1.gptimers (.start 0) set = .ok (.done, ready) := ⟨_, rfl⟩
  obtain ⟨w, timed⟩ := other ready
  obtain ⟨finished, w', looked⟩ : ∃ finished w', Paced (clocked apbctrl1.addressBase)
      (Group.hasFinishedSteps apbctrl1.gptimers .controlLast 0) w 1 finished w' :=
    ⟨_, _, .stepped rfl <| .stepped rfl <| .ticked <| .stepped rfl <| .done _ _⟩
  have setUp : SetUp (exec apbctrl1 apbctrl1.gptimers) (fun call => call) (MeanwhileDivided apbctrl1 order [0] 0 1) .id1 0 ⟨0, 0⟩ 0
      ⟨true, false, false, false, 1⟩ Gptimers.blank ready :=
    ⟨set, ⟨_, w₁, nothing _, init, _, w₂, nothing _, scaled, _, w₃, nothing _, configured, _, 1, early⟩, started⟩
  obtain ⟨-, -, told, -⟩ := answers_on_time apbctrl1 order (n := 0) rfl (by decide) rfl setUp timed
  obtain ⟨j, inside, answer⟩ := told rfl _ _ _ _ looked
  have zero : (apbctrl1.scalerValue 0).toNat = 0 := rfl
  simp only [zero, Nat.zero_sub, Nat.add_zero, Nat.zero_add, Nat.div_one] at answer
  exact ⟨ready, _, w, finished, w', setUp, timed, rfl, looked, j, inside, answer⟩

end Leon3Bsp.Timer
