import Leon3Bsp.Timer.Gptimers

/-!
# Setting a timer up

A timer is initialised, its scaler is set, it is configured and started, and
clocks and calls for other timers may come in between. What these cannot end, the
calls of the set-up establish one after the other.
-/

namespace Leon3Bsp.Timer
set_option autoImplicit false
open Wp Execution Cascade

/-- No place from `first` on, `count` of them, is meant. -/
def Outside (first count : Nat) (slot : Option Nat) : Prop :=
  ∀ n ∈ slot, n < first ∨ first + count ≤ n

/-- The call is for other timers of the group, and not for their scaler. -/
def Apart (group : Group) (timers : List TimerRef) (first count : Nat) (w : World Gptimers) : Call → Prop
  | .init id timer _ => timer ∉ timers ∧ Outside first count (Gptimers.slot group.addressBase (group.addressById id))
  | .setBaseScalerReloadValue _ _ => False
  | .setConfigRegisters timer _ | .start timer | .stop timer | .shutdown timer =>
    Outside first count (Gptimers.slot group.addressBase (w.timers timer).regs)
  | _ => True

theorem toNat_eq_zero (value : Word) : value.toNat = 0 ↔ value = 0 :=
  @BitVec.toNat_inj _ value 0

theorem toNat_sub_one {value : Word} (positive : value ≠ 0) : (value - 1).toNat = value.toNat - 1 := by
  have one : (1 : Word).toNat = 1 := rfl
  have above : 0 < value.toNat := Nat.pos_of_ne_zero (mt (toNat_eq_zero value).1 positive)
  rw [BitVec.toNat_sub_of_le (by rw [BitVec.le_def, one]; exact above), one]

/-- `count` timers of the row, from `first` on. -/
def Gptimers.part (first count : Nat) (g : Gptimers) : List Gptimer :=
  (g.timers.drop first).take count

theorem Gptimers.part_change {first count : Nat} {slot : Option Nat} (outside : Outside first count slot)
    (f : Gptimer → Gptimer) (g : Gptimers) : (g.change slot f).part first count = g.part first count := by
  apply List.ext_getElem?
  intro k
  rw [part, part, List.getElem?_take, List.getElem?_take, List.getElem?_drop, List.getElem?_drop, change_timers]
  split
  · rename_i inside
    rw [if_neg]
    intro same
    have apart := outside _ same
    omega
  · rfl

theorem Gptimers.getElem?_part {first count k : Nat} (inside : k < count) (g : Gptimers) :
    (g.part first count)[k]? = g.timers[first + k]? := by
  rw [part, List.getElem?_take, if_pos inside, List.getElem?_drop]

/-- What neither a clock ends nor an access besides the timers, so many clocks on. -/
structure Lasts (timers : List TimerRef) (first count : Nat) (J : Nat → World Gptimers → Prop) : Prop where
  clock : ∀ passed w, J passed w → J (passed + 1) { w with hw := w.hw.clock }
  besides : ∀ passed w w', J passed w → (∀ timer ∈ timers, w'.timers timer = w.timers timer) → w'.hw.scaler = w.hw.scaler →
    w'.hw.scalerReload = w.hw.scalerReload → w'.hw.part first count = w.hw.part first count → J passed w'

/-- What lasts is not ended on the way from `w` to `w'`. -/
def Passes (timers : List TimerRef) (first count : Nat) (between : World Gptimers → World Gptimers → Prop) : Prop :=
  ∀ J, Lasts timers first count J → ∀ passed w w', J passed w → between w w' → ∃ passed', J passed' w'

section Lasts

variable {group : Group} {timers : List TimerRef} {first count passed : Nat} {J : Nat → World Gptimers → Prop}
variable {w w' : World Gptimers} {call : Call} {answer : Answer}

/-- A call for other timers. -/
theorem Lasts.does (lasts : Lasts timers first count J) (holds : J passed w) (apart : Apart group timers first count w call)
    (does : group.Does call w w') : J (passed + if call = .tick then 1 else 0) w' := by
  obtain ⟨descriptors, hw⟩ := does
  cases call with
  | tick =>
    have clock := lasts.clock passed w holds
    refine lasts.besides _ _ _ clock (fun _ _ => congrFun descriptors _) ?_ ?_ ?_ <;> rw [hw] <;> rfl
  | setBaseScalerReloadValue => exact apart.elim
  | init id timer handler =>
    refine lasts.besides _ _ _ holds (fun mine member => ?_) ?_ ?_ ?_
    · rw [descriptors]
      exact Function.update_of_ne (ne_of_mem_of_not_mem member apart.1) _ _
    · exact (congrArg Gptimers.scaler hw).trans (Gptimers.change_scaler _ _ _)
    · exact (congrArg Gptimers.scalerReload hw).trans (Gptimers.change_scalerReload _ _ _)
    · exact (congrArg (Gptimers.part first count) hw).trans (Gptimers.part_change apart.2 _ _)
  | setConfigRegisters | start | stop | shutdown =>
    refine lasts.besides _ _ _ holds (fun _ _ => congrFun descriptors _) ?_ ?_ ?_
    · exact (congrArg Gptimers.scaler hw).trans (Gptimers.change_scaler _ _ _)
    · exact (congrArg Gptimers.scalerReload hw).trans (Gptimers.change_scalerReload _ _ _)
    · exact (congrArg (Gptimers.part first count) hw).trans (Gptimers.part_change apart _ _)
  | getConfigRegisters | getCounterValue | hasFinished =>
    exact lasts.besides _ _ _ holds (fun _ _ => congrFun descriptors _) (congrArg Gptimers.scaler hw)
      (congrArg Gptimers.scalerReload hw) (congrArg (Gptimers.part first count) hw)

/-- How many clocks have passed. -/
def clocks (calls : List (Made Gptimers)) : Nat :=
  calls.countP fun made => made.input = .tick

theorem clocks_snoc (calls : List (Made Gptimers)) (made : Made Gptimers) :
    clocks (calls ++ [made]) = clocks calls + if made.input = .tick then 1 else 0 := by
  rw [clocks, List.countP_append, List.countP_singleton, clocks]
  simp

/-- Any number of calls for other timers. -/
theorem Lasts.run {calls : List (Made Gptimers)} (lasts : Lasts timers first count J) (holds : J passed w)
    (run : Run group group.gptimers (Apart group timers first count) w calls w') : J (passed + clocks calls) w' := by
  apply run.invariant (I := fun calls w => J (passed + clocks calls) w)
  · exact holds
  · intro calls w call answer w' holds apart ran
    rw [clocks_snoc, ← Nat.add_assoc]
    exact lasts.does holds apart (exec_does ran)

variable (group timers first count) in
/-- Calls for other timers, and clocks. -/
def Meanwhile (w w' : World Gptimers) : Prop :=
  ∃ calls, Run group group.gptimers (Apart group timers first count) w calls w'

theorem meanwhile_passes : Passes timers first count (Meanwhile group timers first count) :=
  fun _ lasts _ _ _ holds ⟨_, run⟩ => ⟨_, lasts.run holds run⟩

/-- What does not speak of the clocks is kept. -/
theorem Passes.keeps {between : World Gptimers → World Gptimers → Prop} (passes : Passes timers first count between)
    {P : World Gptimers → Prop} (lasts : Lasts timers first count fun _ => P) (holds : P w) (later : between w w') : P w' := by
  obtain ⟨_, kept⟩ := passes _ lasts 0 w w' holds later
  exact kept

end Lasts

namespace Gptimer

/-- Every turn keeps `P`. -/
def Steady (P : Gptimer → Prop) : Prop :=
  ∀ carry g, P g → P (stage.turn carry g).2

/-- No load is under way. -/
def Plain (g : Gptimer) : Prop :=
  getFlag g.control Control.LD = false

theorem steady_plain : Steady Plain :=
  fun carry g plain => (g.turn_flag carry (by decide)).trans plain

/-- `setConfigRegisters` has set all of it but `EN`, which a tick may clear. -/
structure Configured (config : Config) (g : Gptimer) : Prop where
  plain : g.Plain
  interrupt : getFlag g.control Control.IE = config.isInterruptEnabled
  reloaded : getFlag g.control Control.RS = config.isAutoReloaded
  chained : getFlag g.control Control.CH = config.isChained
  reload : g.reload = config.reloadValue

theorem steady_configured (config : Config) : Steady (Configured config) := fun carry g configured =>
  { plain := steady_plain carry g configured.plain
    interrupt := (g.turn_flag carry (by decide)).trans configured.interrupt
    reloaded := (g.turn_flag carry (by decide)).trans configured.reloaded
    chained := (g.turn_flag carry (by decide)).trans configured.chained
    reload := (g.turn_reload carry).trans configured.reload }

/-- An enabled timer counts as it was told. -/
structure Counting (config : Config) (g : Gptimer) : Prop extends Configured config g where
  enabled : getFlag g.control Control.EN = true
  below : g.counter.toNat ≤ config.reloadValue.toNat

/-- It was started, and has not counted yet. -/
structure Ready (config : Config) (g : Gptimer) : Prop extends Counting config g where
  full : g.counter = config.reloadValue

variable (g : Gptimer) (config : Config)

theorem cleared_plain : g.cleared.Plain := by
  have plain : getFlag 0 Control.LD = false := by decide
  simp only [cleared, write, writeControl_plain plain]
  exact plain

variable {g} {config}

theorem configured_eq (plain : g.Plain) : g.configured config =
    { g with
      control := withFlag (withFlag (withFlag (withFlag g.control config.isEnabled Control.EN) config.isInterruptEnabled
        Control.IE) config.isAutoReloaded Control.RS) config.isChained Control.CH
      reload := config.reloadValue } := by
  have still (control : Word) (isSet : Bool) {flag : Nat} (unset : getFlag control Control.LD = false) (inside : flag < 32)
      (other : Control.LD ≠ flag) : getFlag (withFlag control isSet flag) Control.LD = false := by
    rw [getFlag_withFlag _ _ inside, if_neg other, unset]
  have assigned (control : Word) (isSet : Bool) {flag : Nat} (unset : getFlag control Control.LD = false) (inside : flag < 32)
      (other : flag ≠ Control.LD) : ({ g with control } : Gptimer).assign isSet flag =
        { g with control := withFlag control isSet flag } := assign_plain { g with control } unset inside other isSet
  have enabled := still g.control config.isEnabled plain (by decide : Control.EN < 32) (by decide)
  have interrupt := still _ config.isInterruptEnabled enabled (by decide : Control.IE < 32) (by decide)
  have restarted := still _ config.isAutoReloaded interrupt (by decide : Control.RS < 32) (by decide)
  rw [configured, assigned _ config.isEnabled plain (by decide) (by decide),
    assigned _ config.isInterruptEnabled enabled (by decide) (by decide),
    assigned _ config.isAutoReloaded interrupt (by decide) (by decide),
    assigned _ config.isChained restarted (by decide) (by decide), write]

theorem configured_flag (plain : g.Plain) (flag : Nat) : getFlag (g.configured config).control flag =
    if flag = Control.CH then config.isChained else if flag = Control.RS then config.isAutoReloaded
    else if flag = Control.IE then config.isInterruptEnabled else if flag = Control.EN then config.isEnabled
    else getFlag g.control flag := by
  rw [configured_eq plain]
  simp only [getFlag_withFlag _ _ (by decide : Control.CH < 32), getFlag_withFlag _ _ (by decide : Control.RS < 32),
    getFlag_withFlag _ _ (by decide : Control.IE < 32), getFlag_withFlag _ _ (by decide : Control.EN < 32)]

/-- `setConfigRegisters` on a timer, whether it runs or not. -/
theorem Plain.configured (plain : g.Plain) : Configured config (g.configured config) where
  plain := (configured_flag plain Control.LD).trans plain
  interrupt := configured_flag plain Control.IE
  reloaded := configured_flag plain Control.RS
  chained := configured_flag plain Control.CH
  reload := congrArg Gptimer.reload (configured_eq plain)

/-- And `start`. -/
theorem Configured.started (configured : Configured config g) : Ready config g.started where
  plain := g.started_flag Control.LD
  interrupt := (g.started_flag Control.IE).trans configured.interrupt
  reloaded := (g.started_flag Control.RS).trans configured.reloaded
  chained := (g.started_flag Control.CH).trans configured.chained
  reload := (congrArg Gptimer.reload g.started_eq).trans configured.reload
  enabled := g.started_flag Control.EN
  below := by rw [g.started_counter, configured.reload]
  full := g.started_counter.trans configured.reload

/-- An enabled timer that is reloaded. -/
def Periodic (g : Gptimer) : Prop :=
  getFlag g.control Control.EN = true ∧ getFlag g.control Control.RS = true

theorem tick_periodic {g : Gptimer} (periodic : g.Periodic) : g.tick =
    { g with
      counter := if g.counter = 0 then g.reload else g.counter - 1
      log := g.log ++ [if g.counter = 0 then .underflowed (getFlag g.control Control.IE) else .ticked] } := by
  obtain ⟨enabled, reloads⟩ := periodic
  by_cases zero : g.counter = 0
  · rw [tick_expired enabled zero, underflow, if_pos reloads, if_pos zero, if_pos zero]
  · rw [tick_counting enabled zero, if_neg zero, if_neg zero]

/-- A timer that is reloaded goes on counting. -/
theorem steady_counting (reloaded : config.isAutoReloaded = true) : Steady (Counting config) := by
  intro carry g counting
  have configured := steady_configured config carry g counting.toConfigured
  have periodic : g.Periodic := ⟨counting.enabled, counting.reloaded.trans reloaded⟩
  refine ⟨configured, ?_, ?_⟩ <;> unfold Stage.turn <;> split
  · exact counting.enabled
  · show getFlag g.tick.control Control.EN = true
    rw [tick_periodic periodic]
    exact counting.enabled
  · exact counting.below
  · show g.tick.counter.toNat ≤ _
    rw [tick_periodic periodic]
    dsimp only
    split
    · rw [counting.reload]
    · rename_i positive
      have below := counting.below
      rw [toNat_sub_one positive]
      omega

end Gptimer

theorem Gptimers.clock_timer (n : Nat) (g : Gptimers) : g.clock.timers[n]? = g.timers[n]? ∨
    ∃ carry, g.clock.timers[n]? = g.timers[n]?.map fun timer => (Gptimer.stage.turn carry timer).2 := by
  unfold clock
  split
  · exact .inr (Gptimer.stage.getElem?_round false g.timers n)
  · exact .inl rfl

/-- The timer is in its place, and `P` holds of it. -/
structure Stands (timer : TimerRef) (descriptor : Timer) (n : Nat) (P : Gptimer → Prop) (w : World Gptimers) : Prop where
  mine : w.timers timer = descriptor
  there : ∃ g, w.hw.timers[n]? = some g ∧ P g

/-- The scaler starts over at `reload`. -/
structure Scaled (reload : Word) (w : World Gptimers) : Prop where
  reloads : w.hw.scalerReload = reload
  below : w.hw.scaler.toNat ≤ reload.toNat

section Lasts

variable {timers : List TimerRef} {timer : TimerRef} {first count n : Nat} {P : Gptimer → Prop}

theorem lasts_stands (steady : Gptimer.Steady P) (member : timer ∈ timers) (low : first ≤ n) (high : n < first + count)
    (descriptor : Timer) : Lasts timers first count fun _ => Stands timer descriptor n P where
  clock _ w stands := by
    obtain ⟨mine, g, there, holds⟩ := stands
    rcases w.hw.clock_timer n with same | ⟨carry, turned⟩
    · exact ⟨mine, g, same.trans there, holds⟩
    · rw [there] at turned
      exact ⟨mine, _, turned, steady carry g holds⟩
  besides _ w w' stands descriptors _ _ part := by
    obtain ⟨mine, g, there, holds⟩ := stands
    obtain ⟨k, rfl⟩ := Nat.exists_eq_add_of_le low
    have inside : k < count := by omega
    refine ⟨(descriptors timer member).trans mine, g, ?_, holds⟩
    rw [← Gptimers.getElem?_part inside, part, Gptimers.getElem?_part inside, there]

theorem lasts_scaled (reload : Word) : Lasts timers first count fun _ => Scaled reload where
  clock _ w scaled := by
    obtain ⟨reloads, below⟩ := scaled
    by_cases zero : w.hw.scaler = 0
    · refine ⟨?_, ?_⟩ <;> dsimp only <;> rw [Gptimers.clock, if_pos zero]
      · exact reloads
      · exact (congrArg BitVec.toNat reloads).le
    · refine ⟨?_, ?_⟩ <;> dsimp only <;> rw [Gptimers.clock, if_neg zero]
      · exact reloads
      · rw [toNat_sub_one zero]
        omega
  besides _ _ _ scaled _ scaler scalerReload _ := ⟨scalerReload.trans scaled.reloads, by rw [scaler]; exact scaled.below⟩

end Lasts

section Does

variable {group : Group} {call : Call} {w w' : World Gptimers} {timer : TimerRef} {descriptor descriptor' : Timer} {n : Nat}
variable {P Q : Gptimer → Prop} {reload : Word}

/-- A call for the timer in place `n`. -/
theorem Stands.does (stands : Stands timer descriptor n P w) (does : group.Does call w w') (still : call ≠ .tick)
    (own : group.placeOf w call = some n) (descriptors : group.onTimers w call timer = descriptor')
    (establishes : ∀ g, P g → Q (call.onTimer g)) : Stands timer descriptor' n Q w' := by
  obtain ⟨-, g, there, holds⟩ := stands
  refine ⟨(congrFun does.timers timer).trans descriptors, call.onTimer g, ?_, establishes g holds⟩
  rw [does.timer still, if_pos own, there]
  rfl

/-- A call for another one. -/
theorem Stands.spared (stands : Stands timer descriptor n P w) (does : group.Does call w w') (still : call ≠ .tick)
    (other : group.placeOf w call ≠ some n) (descriptors : group.onTimers w call timer = w.timers timer) :
    Stands timer descriptor n P w' := by
  obtain ⟨mine, g, there, holds⟩ := stands
  refine ⟨((congrFun does.timers timer).trans descriptors).trans mine, g, ?_, holds⟩
  rw [does.timer still, if_neg other, there]

theorem Scaled.does (scaled : Scaled reload w) (does : group.Does call w w') (still : call ≠ .tick)
    (other : ∀ timer value, call ≠ .setBaseScalerReloadValue timer value) : Scaled reload w' := by
  have kept : (group.onGptimers w call).scaler = w.hw.scaler ∧ (group.onGptimers w call).scalerReload = w.hw.scalerReload := by
    cases call with
    | tick => exact absurd rfl still
    | setBaseScalerReloadValue => exact absurd rfl (other _ _)
    | init | setConfigRegisters | start | stop | shutdown =>
      exact ⟨Gptimers.change_scaler _ _ _, Gptimers.change_scalerReload _ _ _⟩
    | _ => exact ⟨rfl, rfl⟩
  refine ⟨?_, ?_⟩ <;> rw [does.hw]
  · exact kept.2.trans scaled.reloads
  · rw [kept.1]
    exact scaled.below

/-- `setBaseScalerReloadValue` sets both registers of the scaler. -/
theorem scaled_does {value : Word} (does : group.Does (.setBaseScalerReloadValue timer value) w w')
    (mine : (w.timers timer).base = group.addressBase) : Scaled (group.scalerValue value) w' := by
  obtain ⟨scaler, scalerReload⟩ := group.onGptimers_scaler value mine
  refine ⟨?_, ?_⟩ <;> rw [does.hw]
  · exact scalerReload
  · rw [scaler]

end Does

/-- The descriptor of a timer that was initialised. -/
def Group.initialised (group : Group) (id : Id) (handler : InterruptHandler) : Timer :=
  ⟨id, group.addressBase, group.addressById id, handler⟩

section SetUp

variable {group : Group} {id : Id} {timer : TimerRef} {handler : InterruptHandler} {config : Config} {scalerReloadValue : Word}
variable {n : Nat}

/-- `init`, `setBaseScalerReloadValue`, `setConfigRegisters` and `start`, and something
else before each of them; `call` says how they are called. -/
def SetUp {σ ι : Type} (exec : ι → Program Empty σ Answer) (call : Call → ι) (between : σ → σ → Prop) (id : Id)
    (timer : TimerRef) (handler : InterruptHandler) (scalerReloadValue : Word) (config : Config) (start ready : σ) : Prop :=
  ∃ set, Amid (Gives exec) between [call (.init id timer handler), call (.setBaseScalerReloadValue timer scalerReloadValue),
    call (.setConfigRegisters timer config)] start set ∧ exec (call (.start timer)) set = .ok (.done, ready)

/-- A timer that was set up is about to count. -/
theorem ready_of_amid {between : World Gptimers → World Gptimers → Prop} (passes : Passes [timer] n 1 between)
    {start set ready : World Gptimers} (placed : group.place id = some n) (present : n < start.hw.timers.length)
    (amid : Amid group.Does between [.init id timer handler, .setBaseScalerReloadValue timer scalerReloadValue,
      .setConfigRegisters timer config] start set) (started : group.Does (.start timer) set ready) :
    Stands timer (group.initialised id handler) n (Gptimer.Ready config) ready ∧ Scaled (group.scalerValue scalerReloadValue) ready := by
  obtain ⟨v₁, w₁, later₁, initialised, v₂, w₂, later₂, scaled, v₃, w₃, later₃, configured, later₄⟩ := amid
  have member : timer ∈ [timer] := List.mem_singleton_self timer
  have stays {P : Gptimer → Prop} (steady : Gptimer.Steady P) (descriptor : Timer) {v w : World Gptimers} (later : between v w)
      (stands : Stands timer descriptor n P v) : Stands timer descriptor n P w :=
    passes.keeps (lasts_stands steady member (Nat.le_refl n) (Nat.lt_succ_self n) descriptor) stands later
  have place {w : World Gptimers} (mine : w.timers timer = group.initialised id handler) :
      Gptimers.slot group.addressBase (w.timers timer).regs = some n := by
    rw [mine]
    exact placed
  have before : Stands timer (start.timers timer) n (fun _ => True) v₁ :=
    stays (fun _ _ _ => trivial) _ later₁ ⟨rfl, _, List.getElem?_eq_getElem present, trivial⟩
  have cleared : Stands timer (group.initialised id handler) n Gptimer.Plain v₂ :=
    stays Gptimer.steady_plain _ later₂
      (before.does initialised (by simp) placed (Function.update_self _ _ _) fun g _ => g.cleared_plain)
  have told : Stands timer (group.initialised id handler) n Gptimer.Plain v₃ :=
    stays Gptimer.steady_plain _ later₃ (cleared.spared scaled (by simp) (by simp [Group.placeOf]) rfl)
  have set : Stands timer (group.initialised id handler) n (Gptimer.Configured config) set :=
    stays (Gptimer.steady_configured config) _ later₄
      (told.does configured (by simp) (place told.mine) told.mine fun g plain => plain.configured)
  refine ⟨set.does started (by simp) (place set.mine) set.mine fun g configured => configured.started, ?_⟩
  have scaler : Scaled (group.scalerValue scalerReloadValue) v₃ :=
    passes.keeps (lasts_scaled _) (scaled_does scaled (by rw [cleared.mine]; rfl)) later₃
  exact (passes.keeps (lasts_scaled _) (scaler.does configured (by simp) (by simp)) later₄).does started (by simp) (by simp)

theorem SetUp.ready {between : World Gptimers → World Gptimers → Prop} (passes : Passes [timer] n 1 between)
    {start ready : World Gptimers} (placed : group.place id = some n) (present : n < start.hw.timers.length)
    (setUp : SetUp (exec group group.gptimers) (fun call => call) between id timer handler scalerReloadValue config start ready) :
    Stands timer (group.initialised id handler) n (Gptimer.Ready config) ready ∧ Scaled (group.scalerValue scalerReloadValue) ready := by
  obtain ⟨set, amid, started⟩ := setUp
  exact ready_of_amid passes placed present
    (amid.map (fun w => w) (fun call => call) (fun _ _ _ ⟨_, ran⟩ => exec_does ran) (fun _ _ later => later) _) (exec_does started)

/-- Two timers in a row, of which the second was started last: the first has
counted since its start. -/
theorem pair_of_amid {between : World Gptimers → World Gptimers → Prop} {id' : Id} {timer' : TimerRef}
    {handler' : InterruptHandler} {config' : Config} (passes : Passes [timer, timer'] n 2 between)
    {start set ready : World Gptimers} (other : timer ≠ timer') (placed : group.place id = some n)
    (placed' : group.place id' = some (n + 1)) (present : n + 1 < start.hw.timers.length) (reloaded : config.isAutoReloaded = true)
    (amid : Amid group.Does between [.init id timer handler, .init id' timer' handler',
      .setBaseScalerReloadValue timer scalerReloadValue, .setConfigRegisters timer config, .setConfigRegisters timer' config',
      .start timer] start set) (started' : group.Does (.start timer') set ready) :
    Stands timer (group.initialised id handler) n (Gptimer.Counting config) ready ∧
      Stands timer' (group.initialised id' handler') (n + 1) (Gptimer.Ready config') ready ∧
      Scaled (group.scalerValue scalerReloadValue) ready := by
  obtain ⟨v₁, w₁, later₁, initialised, v₂, w₂, later₂, initialised', v₃, w₃, later₃, scaled, v₄, w₄, later₄, configured,
    v₅, w₅, later₅, configured', v₆, w₆, later₆, started, later₇⟩ := amid
  have first {P : Gptimer → Prop} (steady : Gptimer.Steady P) {descriptor : Timer} {v w : World Gptimers} (later : between v w)
      (stands : Stands timer descriptor n P v) : Stands timer descriptor n P w :=
    passes.keeps (lasts_stands steady (by simp) (Nat.le_refl n) (by omega) descriptor) stands later
  have second {P : Gptimer → Prop} (steady : Gptimer.Steady P) {descriptor : Timer} {v w : World Gptimers} (later : between v w)
      (stands : Stands timer' descriptor (n + 1) P v) : Stands timer' descriptor (n + 1) P w :=
    passes.keeps (lasts_stands steady (by simp) n.le_succ (by omega) descriptor) stands later
  have scales {v w : World Gptimers} (later : between v w) (scaled : Scaled (group.scalerValue scalerReloadValue) v) :
      Scaled (group.scalerValue scalerReloadValue) w := passes.keeps (lasts_scaled _) scaled later
  have anything : Gptimer.Steady fun _ => True := fun _ _ _ => trivial
  have slot {w : World Gptimers} (mine : w.timers timer = group.initialised id handler) :
      Gptimers.slot group.addressBase (w.timers timer).regs = some n := by
    rw [mine]
    exact placed
  have slot' {w : World Gptimers} (mine : w.timers timer' = group.initialised id' handler') :
      Gptimers.slot group.addressBase (w.timers timer').regs = some (n + 1) := by
    rw [mine]
    exact placed'
  have ne {place : Option Nat} (here : place = some n) : place ≠ some (n + 1) := by simp [here]
  have ne' {place : Option Nat} (here : place = some (n + 1)) : place ≠ some n := by simp [here]
  -- both as they are before the first call, and then call by call
  have a₁ : Stands timer (start.timers timer) n (fun _ => True) v₁ :=
    first anything later₁ ⟨rfl, _, List.getElem?_eq_getElem (Nat.lt_of_succ_lt present), trivial⟩
  have b₁ : Stands timer' (start.timers timer') (n + 1) (fun _ => True) v₁ :=
    second anything later₁ ⟨rfl, _, List.getElem?_eq_getElem present, trivial⟩
  have a₂ : Stands timer (group.initialised id handler) n Gptimer.Plain v₂ := first Gptimer.steady_plain later₂
    (a₁.does initialised (by simp) placed (Function.update_self _ _ _) fun g _ => g.cleared_plain)
  have b₂ := second anything later₂ (b₁.spared initialised (by simp) (ne placed) (Function.update_of_ne other.symm _ _))
  have a₃ := first Gptimer.steady_plain later₃
    (a₂.spared initialised' (by simp) (ne' placed') (Function.update_of_ne other _ _))
  have b₃ : Stands timer' (group.initialised id' handler') (n + 1) Gptimer.Plain v₃ := second Gptimer.steady_plain later₃
    (b₂.does initialised' (by simp) placed' (Function.update_self _ _ _) fun g _ => g.cleared_plain)
  have a₄ := first Gptimer.steady_plain later₄ (a₃.spared scaled (by simp) (by simp [Group.placeOf]) rfl)
  have b₄ := second Gptimer.steady_plain later₄ (b₃.spared scaled (by simp) (by simp [Group.placeOf]) rfl)
  have c₄ := scales later₄ (scaled_does scaled (by rw [a₃.mine]; rfl))
  have a₅ : Stands timer _ n (Gptimer.Configured config) v₅ := first (Gptimer.steady_configured config) later₅
    (a₄.does configured (by simp) (slot a₄.mine) a₄.mine fun g plain => plain.configured)
  have b₅ := second Gptimer.steady_plain later₅ (b₄.spared configured (by simp) (ne (slot a₄.mine)) rfl)
  have c₅ := scales later₅ (c₄.does configured (by simp) (by simp))
  have a₆ := first (Gptimer.steady_configured config) later₆ (a₅.spared configured' (by simp) (ne' (slot' b₅.mine)) rfl)
  have b₆ : Stands timer' _ (n + 1) (Gptimer.Configured config') v₆ := second (Gptimer.steady_configured config') later₆
    (b₅.does configured' (by simp) (slot' b₅.mine) b₅.mine fun g plain => plain.configured)
  have c₆ := scales later₆ (c₅.does configured' (by simp) (by simp))
  have a₇ : Stands timer _ n (Gptimer.Counting config) set := first (Gptimer.steady_counting reloaded) later₇
    (a₆.does started (by simp) (slot a₆.mine) a₆.mine fun g configured => configured.started.toCounting)
  have b₇ := second (Gptimer.steady_configured config') later₇ (b₆.spared started (by simp) (ne (slot a₆.mine)) rfl)
  have c₇ := scales later₇ (c₆.does started (by simp) (by simp))
  exact ⟨a₇.spared started' (by simp) (ne' (slot' b₇.mine)) rfl,
    b₇.does started' (by simp) (slot' b₇.mine) b₇.mine fun g configured => configured.started,
    c₇.does started' (by simp) (by simp)⟩

end SetUp

end Leon3Bsp.Timer
