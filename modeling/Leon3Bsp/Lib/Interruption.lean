import Mathlib.Logic.Relation
import Leon3Bsp.Lib.Coupling

/-!
# Programs interrupted between their steps

A program that is given step by step may be interrupted before each of them,
as often as the state allows. What runs while the state is closed to interrupts
is not divided by them; and what interrupts do not look like to a program does
not change what it does.
-/

namespace Interruption
set_option autoImplicit false
open Wp Execution Coupling Relation

universe u

variable {ε σ ι ω α β : Type u}

/-- A program as its steps. -/
inductive Steps (ε σ : Type u) (α : Type u) : Type (u + 1)
  | done (a : α) : Steps ε σ α
  | step {β : Type u} (act : Program ε σ β) (next : β → Steps ε σ α) : Steps ε σ α

namespace Steps

def bind : Steps ε σ α → (α → Steps ε σ β) → Steps ε σ β
  | .done a, f => f a
  | .step act next, f => .step act fun b => (next b).bind f

instance : Monad (Steps ε σ) where
  pure := .done
  bind := bind

/-- A single step. -/
def once (act : Program ε σ α) : Steps ε σ α :=
  .step act .done

/-- All steps at once. -/
def atomic : Steps ε σ α → Program ε σ α
  | .done a => pure a
  | .step act next => act >>= fun b => (next b).atomic

@[simp] theorem atomic_pure (a : α) : (pure a : Steps ε σ α).atomic = pure a := rfl

@[simp] theorem atomic_once (act : Program ε σ α) : (once act).atomic = act :=
  bind_pure act

@[simp] theorem atomic_bind (p : Steps ε σ α) (f : α → Steps ε σ β) :
    (p >>= f).atomic = p.atomic >>= fun a => (f a).atomic := by
  induction p with
  | done a => exact (pure_bind a fun a => (f a).atomic).symm
  | step act next ih =>
    show (act >>= fun b => (next b >>= f).atomic) = (act >>= fun b => (next b).atomic) >>= fun a => (f a).atomic
    rw [bind_assoc]
    congr 1
    funext b
    exact ih b

@[simp] theorem atomic_ite (c : Prop) [Decidable c] (p q : Steps ε σ α) :
    (if c then p else q).atomic = if c then p.atomic else q.atomic := by
  split <;> rfl

theorem atomic_ok {act : Program ε σ β} {next : β → Steps ε σ α} {b : β} {s s' : σ} (ran : act s = .ok (b, s')) :
    (step act next).atomic s = (next b).atomic s' := by
  rw [atomic, bind_run, ran]

theorem atomic_error {act : Program ε σ β} {next : β → Steps ε σ α} {e : ε} {s : σ} (ran : act s = .error e) :
    (step act next).atomic s = .error e := by
  rw [atomic, bind_run, ran]

end Steps

/-- What a program that may be interrupted before each step, and at its end,
comes to: a result and a state, or the fault of a step. -/
inductive Runs (interrupt : σ → σ → Prop) : Steps ε σ α → σ → Except ε (α × σ) → Prop
  | done (a : α) (s : σ) : Runs interrupt (.done a) s (.ok (a, s))
  | interrupted {p : Steps ε σ α} {s s' : σ} {r : Except ε (α × σ)} (interrupts : interrupt s s') (rest : Runs interrupt p s' r) :
      Runs interrupt p s r
  | stepped {β : Type u} {act : Program ε σ β} {next : β → Steps ε σ α} {b : β} {s s' : σ} {r : Except ε (α × σ)}
      (ran : act s = .ok (b, s')) (rest : Runs interrupt (next b) s' r) : Runs interrupt (.step act next) s r
  | faulted {β : Type u} {act : Program ε σ β} {next : β → Steps ε σ α} {s : σ} {e : ε} (ran : act s = .error e) :
      Runs interrupt (.step act next) s (.error e)

/-- No interrupt need come. -/
theorem Runs.atomic {interrupt : σ → σ → Prop} (p : Steps ε σ α) (s : σ) : Runs interrupt p s (p.atomic s) := by
  induction p generalizing s with
  | done a => exact .done a s
  | step act next ih =>
    cases ran : act s with
    | error e =>
      rw [Steps.atomic_error ran]
      exact .faulted ran
    | ok result =>
      obtain ⟨b, s'⟩ := result
      rw [Steps.atomic_ok ran]
      exact .stepped ran (ih b s')

/-- What comes of a program that is not divided: interrupts may follow it. -/
inductive Followed (interrupt : σ → σ → Prop) : Except ε (α × σ) → Except ε (α × σ) → Prop
  | ended {a : α} {s s' : σ} (served : ReflTransGen interrupt s s') : Followed interrupt (.ok (a, s)) (.ok (a, s'))
  | faulted (e : ε) : Followed interrupt (.error e) (.error e)

section Closed

variable {interrupt : σ → σ → Prop} {closed : σ → Prop} {p : Steps ε σ α} {s : σ} {r : Except ε (α × σ)}

/-- Every step leaves the state closed. -/
def Inside (closed : σ → Prop) : Steps ε σ α → Prop
  | .done _ => True
  | .step act next => ∀ s, closed s → wp partially act (fun b s' => closed s' ∧ Inside closed (next b)) s

/-- Every step but the last one does. -/
def Held (closed : σ → Prop) : Steps ε σ α → Prop
  | .done _ => True
  | .step act next => ∀ s, closed s → wp partially act (fun b s' => (∃ a, next b = .done a) ∨ closed s' ∧ Held closed (next b)) s

theorem inside_once {act : Program ε σ α} (keeps : ∀ s, closed s → wp partially act (fun _ s' => closed s') s) :
    Inside closed (.once act) :=
  fun s shut => wp_mono (keeps s shut) fun _ _ shut' => ⟨shut', trivial⟩

theorem Inside.bind {f : α → Steps ε σ β} (inside : Inside closed p) (then_ : ∀ a, Inside closed (f a)) :
    Inside closed (p >>= f) := by
  induction p with
  | done a => exact then_ a
  | step act next ih =>
    intro s shut
    apply wp_mono (inside s shut)
    rintro b s' ⟨shut', rest⟩
    exact ⟨shut', ih b rest⟩

theorem Inside.held {f : α → Steps ε σ β} (inside : Inside closed p) (then_ : ∀ a, Held closed (f a)) :
    Held closed (p >>= f) := by
  induction p with
  | done a => exact then_ a
  | step act next ih =>
    intro s shut
    apply wp_mono (inside s shut)
    rintro b s' ⟨shut', rest⟩
    exact Or.inr ⟨shut', ih b rest⟩

/-- The last step may open the state. -/
theorem held_last (act : Program ε σ β) (a : α) : Held closed (Steps.once act >>= fun _ => pure a) :=
  fun _ _ => wp_of_ended fun _ _ _ => Or.inl ⟨a, rfl⟩

theorem held_once (act : Program ε σ α) : Held closed (.once act) :=
  fun _ _ => wp_of_ended fun a _ _ => Or.inl ⟨a, rfl⟩

theorem map_last {a : α} (last : p = .done a) (f : α → β) : (p >>= fun a => pure (f a)) = .done (f a) := by
  rw [last]
  rfl

/-- A result for the caller is no step. -/
theorem Held.map (held : Held closed p) (f : α → β) : Held closed (p >>= fun a => pure (f a)) := by
  induction p with
  | done a => trivial
  | step act next ih =>
    intro s shut
    apply wp_mono (held s shut)
    rintro b s' (⟨a, last⟩ | ⟨shut', rest⟩)
    · exact Or.inl ⟨f a, map_last last f⟩
    · exact Or.inr ⟨shut', ih b rest⟩

/-- After the last step there are only interrupts. -/
theorem Runs.ended {a : α} (runs : Runs interrupt (.done a) s r) : Followed interrupt (.ok (a, s)) r := by
  generalize last : Steps.done a = p at runs
  induction runs with
  | done b s =>
    cases last
    exact .ended .refl
  | interrupted interrupts rest ih =>
    cases ih last with
    | ended served => exact .ended (.head interrupts served)
  | stepped ran rest => cases last
  | faulted ran => cases last

/-- From a closed state there is no interrupt before the last step. -/
theorem Runs.held (masks : ∀ s s', interrupt s s' → ¬ closed s) (runs : Runs interrupt p s r) (held : Held closed p)
    (shut : closed s) : Followed interrupt (p.atomic s) r := by
  induction runs with
  | done a s => exact .ended .refl
  | interrupted interrupts rest => exact absurd shut (masks _ _ interrupts)
  | faulted ran =>
    rw [Steps.atomic_error ran]
    exact .faulted _
  | stepped ran rest ih =>
    rw [Steps.atomic_ok ran]
    rcases wp_ended (held _ shut) ran with ⟨a, last⟩ | ⟨shut', held'⟩
    · rw [last] at rest ⊢
      exact rest.ended
    · exact ih held' shut'

/-- The first step closes the state, which is then held; or it is the only one. -/
def Critical (closed : σ → Prop) : Steps ε σ α → Prop
  | .done _ => True
  | .step act next => ∀ s, wp partially act (fun b s' => (∃ a, next b = .done a) ∨ closed s' ∧ Held closed (next b)) s

theorem critical_once (act : Program ε σ α) : Critical closed (.once act) :=
  fun _ => wp_of_ended fun a _ _ => Or.inl ⟨a, rfl⟩

theorem critical_section {lock : Program ε σ β} {body : β → Steps ε σ α} (locks : ∀ s, wp partially lock (fun _ s' => closed s') s)
    (held : ∀ b, Held closed (body b)) : Critical closed (Steps.once lock >>= body) :=
  fun s => wp_mono (locks s) fun b _ shut => Or.inr ⟨shut, held b⟩

theorem Critical.map (critical : Critical closed p) (f : α → β) : Critical closed (p >>= fun a => pure (f a)) := by
  cases p with
  | done a => trivial
  | step act next =>
    intro s
    apply wp_mono (critical s)
    rintro b s' (⟨a, last⟩ | ⟨shut, held⟩)
    · exact Or.inl ⟨f a, map_last last f⟩
    · exact Or.inr ⟨shut, held.map f⟩

/-- **A critical section** is not divided by interrupts. -/
theorem Runs.critical (masks : ∀ s s', interrupt s s' → ¬ closed s) (runs : Runs interrupt p s r) (critical : Critical closed p) :
    ∃ s₁, ReflTransGen interrupt s s₁ ∧ Followed interrupt (p.atomic s₁) r := by
  induction runs with
  | done a s => exact ⟨s, .refl, .ended .refl⟩
  | interrupted interrupts rest ih =>
    obtain ⟨s₁, served, followed⟩ := ih critical
    exact ⟨s₁, .head interrupts served, followed⟩
  | faulted ran =>
    rename_i s e
    refine ⟨s, .refl, ?_⟩
    rw [Steps.atomic_error ran]
    exact .faulted e
  | stepped ran rest ih =>
    refine ⟨_, .refl, ?_⟩
    rw [Steps.atomic_ok ran]
    rcases wp_ended (critical _) ran with ⟨a, last⟩ | ⟨shut, held⟩
    · rw [last] at rest ⊢
      exact rest.ended
    · exact rest.held masks held shut

end Closed

section Unseen

variable {interrupt : σ → σ → Prop} {R : σ → σ → Prop} {p : Steps ε σ α} {s t : σ} {r : Except ε (α × σ)}

/-- Every step respects `R`. -/
def Respectful (R : σ → σ → Prop) : Steps ε σ α → Prop
  | .done _ => True
  | .step act next => Respects R act ∧ ∀ b, Respectful R (next b)

/-- The same result in related states, or the same fault. -/
inductive Agrees (R : σ → σ → Prop) : Except ε (α × σ) → Except ε (α × σ) → Prop
  | ended {a : α} {s t : σ} (related : R s t) : Agrees R (.ok (a, s)) (.ok (a, t))
  | faulted (e : ε) : Agrees R (.error e) (.error e)

theorem respectful_once {act : Program ε σ α} (respects : Respects R act) : Respectful R (.once act) :=
  ⟨respects, fun _ => trivial⟩

theorem respectful_pure (a : α) : Respectful R (pure a : Steps ε σ α) := trivial

theorem Respectful.bind {f : α → Steps ε σ β} (first : Respectful R p) (second : ∀ a, Respectful R (f a)) :
    Respectful R (p >>= f) := by
  induction p with
  | done a => exact second a
  | step act next ih => exact ⟨first.1, fun b => ih b (first.2 b)⟩

theorem Respectful.ite {c : Prop} [Decidable c] {q : Steps ε σ α} (yes : Respectful R p) (no : Respectful R q) :
    Respectful R (if c then p else q) := by
  split
  · exact yes
  · exact no

/-- **Interrupts that are not seen**: where every step respects `R`, and an
interrupt leads to a related state, a program does what it does uninterrupted. -/
theorem Runs.unseen (unseen : ∀ s s' t, interrupt s s' → R s t → R s' t) (respectful : Respectful R p)
    (runs : Runs interrupt p s r) (related : R s t) : Agrees R r (p.atomic t) := by
  induction runs generalizing t with
  | done a s => exact .ended related
  | interrupted interrupts rest ih => exact ih respectful (unseen _ _ t interrupts related)
  | stepped ran rest ih =>
    cases respectful.1 _ t related with
    | ended left right related' =>
      rw [ran] at left
      cases left
      rw [Steps.atomic_ok right]
      exact ih (respectful.2 _) related'
    | faulted left =>
      rw [ran] at left
      cases left
  | faulted ran =>
    cases respectful.1 _ t related with
    | ended left =>
      rw [ran] at left
      cases left
    | faulted left right =>
      rw [ran] at left
      cases left
      rw [Steps.atomic_error right]
      exact .faulted _

end Unseen

section Tasks

variable {exec : ι → Program ε σ ω} {allowed : σ → ι → Prop} {serve : ι}

/-- The input `serve` comes by itself, where it is allowed. -/
def Served (exec : ι → Program ε σ ω) (allowed : σ → ι → Prop) (serve : ι) (s s' : σ) : Prop :=
  allowed s serve ∧ ∃ o, exec serve s = .ok (o, s')

/-- The inputs of a task step by step, with what they gave. -/
inductive Tasks (steps : ι → Steps ε σ ω) (task : ι → Prop) (interrupt : σ → σ → Prop) (start : σ) : List (ι × ω) → σ → Prop
  | nil : Tasks steps task interrupt start [] start
  | snoc {tasks : List (ι × ω)} {s s' : σ} {i : ι} {o : ω} (earlier : Tasks steps task interrupt start tasks s) (asks : task i)
      (runs : Runs interrupt (steps i) s (.ok (o, s'))) : Tasks steps task interrupt start (tasks ++ [(i, o)]) s'

variable [DecidableEq ι] {steps : ι → Steps ε σ ω} {task : ι → Prop} {start s s' : σ} {taken : List (Taken σ ι ω)}
variable {tasks : List (ι × ω)}

/-- What was said besides `serve`. -/
def besides (serve : ι) (taken : List (Taken σ ι ω)) : List (ι × ω) :=
  (taken.map said).filter fun pair => pair.1 ≠ serve

theorem run_served (run : Run exec allowed start taken s) (served : ReflTransGen (Served exec allowed serve) s s') :
    ∃ taken', Run exec allowed start taken' s' ∧ besides serve taken' = besides serve taken := by
  induction served with
  | refl => exact ⟨taken, run, rfl⟩
  | tail earlier last ih =>
    obtain ⟨taken', run', same⟩ := ih
    obtain ⟨fits, o, ran⟩ := last
    refine ⟨_, run'.snoc fits ran, ?_⟩
    rw [← same]
    simp [besides, said]

/-- The inputs of a task are not divided, and may come at any time. -/
structure Undivided (exec : ι → Program ε σ ω) (steps : ι → Steps ε σ ω) (allowed : σ → ι → Prop) (serve : ι)
    (task : ι → Prop) : Prop where
  other : ∀ i, task i → i ≠ serve
  free : ∀ s i, task i → allowed s i
  whole : ∀ i s r, task i → Runs (Served exec allowed serve) (steps i) s r →
    ∃ s₁, ReflTransGen (Served exec allowed serve) s s₁ ∧ Followed (Served exec allowed serve) (exec i s₁) r

/-- **Tasks and interrupts are a run**: where the inputs are not divided, what
tasks give with interrupts between their steps they give in a run of whole
inputs with the interrupts between them. -/
theorem Undivided.run (undivided : Undivided exec steps allowed serve task)
    (tasked : Tasks steps task (Served exec allowed serve) start tasks s) :
    ∃ taken, Run exec allowed start taken s ∧ besides serve taken = tasks := by
  induction tasked with
  | nil => exact ⟨[], .nil, rfl⟩
  | snoc earlier asks runs ih =>
    rename_i i o
    obtain ⟨taken, run, same⟩ := ih
    obtain ⟨s₁, before, followed⟩ := undivided.whole _ _ _ asks runs
    obtain ⟨taken₁, run₁, same₁⟩ := run_served run before
    generalize ran : exec i s₁ = outcome at followed
    cases followed with
    | ended after =>
      have run₂ := run₁.snoc (undivided.free s₁ i asks) ran
      obtain ⟨taken₃, run₃, same₃⟩ := run_served run₂ after
      refine ⟨taken₃, run₃, ?_⟩
      rw [same₃, ← same, ← same₁]
      simp [besides, said, undivided.other i asks]

/-- And where an input faults there it faults after such a run. -/
theorem Undivided.fault (undivided : Undivided exec steps allowed serve task)
    (tasked : Tasks steps task (Served exec allowed serve) start tasks s) {i : ι} {e : ε} (asks : task i)
    (runs : Runs (Served exec allowed serve) (steps i) s (.error e)) :
    ∃ taken s₁, Run exec allowed start taken s₁ ∧ besides serve taken = tasks ∧ exec i s₁ = .error e := by
  obtain ⟨taken, run, same⟩ := undivided.run tasked
  obtain ⟨s₁, before, followed⟩ := undivided.whole _ _ _ asks runs
  obtain ⟨taken₁, run₁, same₁⟩ := run_served run before
  generalize ran : exec i s₁ = outcome at followed
  cases followed with
  | faulted => exact ⟨taken₁, s₁, run₁, same₁.trans same, ran⟩

end Tasks

end Interruption
