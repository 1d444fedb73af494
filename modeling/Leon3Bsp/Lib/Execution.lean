import Mathlib.Data.List.Induction
import Leon3Bsp.Lib.Wp

/-!
# Runs of a machine whose steps may fault

The inputs of a machine are programs on its state. A run lists the steps it
took, each with the states around it and its output. What every step keeps of
the steps before it holds after every run.
-/

namespace Execution
set_option autoImplicit false
open Wp

universe u

variable {ε σ ι ω : Type u}

/-- A step that was taken. -/
structure Taken (σ ι ω : Type u) where
  before : σ
  input : ι
  output : ω
  after : σ

/-- The runs from `start` whose inputs are allowed in the state they meet. -/
inductive Run (exec : ι → Program ε σ ω) (allowed : σ → ι → Prop) (start : σ) : List (Taken σ ι ω) → σ → Prop
  | nil : Run exec allowed start [] start
  | snoc {steps : List (Taken σ ι ω)} {s s' : σ} {i : ι} {o : ω} (earlier : Run exec allowed start steps s)
      (fits : allowed s i) (run : exec i s = .ok (o, s')) : Run exec allowed start (steps ++ [⟨s, i, o, s'⟩]) s'

variable {exec : ι → Program ε σ ω} {allowed : σ → ι → Prop} {start s : σ} {steps : List (Taken σ ι ω)}

theorem Run.one {s' : σ} {i : ι} {o : ω} (fits : allowed start i) (run : exec i start = .ok (o, s')) :
    Run exec allowed start [⟨start, i, o, s'⟩] s' :=
  .snoc .nil fits run

/-- The invariant rule: `I` speaks about the steps taken and the state reached. -/
theorem Run.invariant (run : Run exec allowed start steps s) {I : List (Taken σ ι ω) → σ → Prop} (init : I [] start)
    (step : ∀ steps s i o s', I steps s → allowed s i → exec i s = .ok (o, s') → I (steps ++ [⟨s, i, o, s'⟩]) s') :
    I steps s := by
  induction run with
  | nil => exact init
  | snoc earlier fits run ih => exact step _ _ _ _ _ ih fits run

/-- The invariant rule, with what is met at each step. -/
theorem Run.invariant_each (run : Run exec allowed start steps s) {I : List (Taken σ ι ω) → σ → Prop}
    {P : Taken σ ι ω → Prop} (init : I [] start)
    (step : ∀ steps s i o s', I steps s → allowed s i → exec i s = .ok (o, s') →
      I (steps ++ [⟨s, i, o, s'⟩]) s' ∧ P ⟨s, i, o, s'⟩) : I steps s ∧ ∀ taken ∈ steps, P taken := by
  apply run.invariant (I := fun steps s => I steps s ∧ ∀ taken ∈ steps, P taken)
  · exact ⟨init, by simp⟩
  · rintro steps s i o s' ⟨holds, each⟩ fits run
    obtain ⟨holds', last⟩ := step steps s i o s' holds fits run
    refine ⟨holds', ?_⟩
    rw [List.forall_mem_append, List.forall_mem_singleton]
    exact ⟨each, last⟩

/-- Where an element of a list that grew at its end stands. -/
theorem snoc_split {α : Type*} {items before after : List α} {item x : α} (split : items ++ [item] = before ++ x :: after) :
    (before = items ∧ x = item ∧ after = []) ∨ ∃ rest, after = rest ++ [item] ∧ items = before ++ x :: rest := by
  rcases List.eq_nil_or_concat after with rfl | ⟨rest, last, rfl⟩
  · obtain ⟨rfl, same⟩ := List.append_inj' split rfl
    cases same
    exact Or.inl ⟨rfl, rfl, rfl⟩
  · rw [List.concat_eq_append, ← List.cons_append, ← List.append_assoc] at split
    obtain ⟨rfl, same⟩ := List.append_inj' split rfl
    cases same
    exact Or.inr ⟨rest, List.concat_eq_append, rfl⟩

/-- `P` holds of each step and the steps before it. -/
def AtEach (P : List (Taken σ ι ω) → Taken σ ι ω → Prop) (steps : List (Taken σ ι ω)) : Prop :=
  ∀ earlier taken later, steps = earlier ++ taken :: later → P earlier taken

theorem atEach_nil (P : List (Taken σ ι ω) → Taken σ ι ω → Prop) : AtEach P [] := by
  intro earlier taken later split
  cases earlier <;> cases split

theorem atEach_snoc {P : List (Taken σ ι ω) → Taken σ ι ω → Prop} {taken : Taken σ ι ω} :
    AtEach P (steps ++ [taken]) ↔ AtEach P steps ∧ P steps taken := by
  constructor
  · intro each
    refine ⟨fun earlier t later split => each earlier t (later ++ [taken]) ?_, each steps taken [] rfl⟩
    rw [split, List.append_assoc, List.cons_append]
  · rintro ⟨each, last⟩ earlier t later split
    rcases snoc_split split with ⟨rfl, rfl, rfl⟩ | ⟨rest, rfl, inside⟩
    · exact last
    · exact each earlier t rest inside

/-- Two properties of the steps of a run agree on it if they agree on each step
that follows steps with the second one; `I` is what those steps lead to. -/
theorem Run.atEach_iff (run : Run exec allowed start steps s) {P Q : List (Taken σ ι ω) → Taken σ ι ω → Prop}
    {I : List (Taken σ ι ω) → σ → Prop} (init : I [] start)
    (step : ∀ steps s i o s', I steps s → allowed s i → exec i s = .ok (o, s') →
      (P steps ⟨s, i, o, s'⟩ ↔ Q steps ⟨s, i, o, s'⟩) ∧ (Q steps ⟨s, i, o, s'⟩ → I (steps ++ [⟨s, i, o, s'⟩]) s')) :
    AtEach P steps ↔ AtEach Q steps := by
  have both : (AtEach P steps ↔ AtEach Q steps) ∧ (AtEach Q steps → I steps s) := by
    induction run with
    | nil => exact ⟨iff_of_true (atEach_nil P) (atEach_nil Q), fun _ => init⟩
    | snoc earlier fits run ih =>
      obtain ⟨same, leads⟩ := ih
      rw [atEach_snoc, atEach_snoc]
      refine ⟨?_, fun ⟨each, last⟩ => (step _ _ _ _ _ (leads each) fits run).2 last⟩
      rw [same]
      exact and_congr_right fun each => (step _ _ _ _ _ (leads each) fits run).1
  exact both.1

/-- The same where the steps before do not matter. -/
theorem Run.forall_iff (run : Run exec allowed start steps s) {P Q : Taken σ ι ω → Prop} {I : σ → Prop} (init : I start)
    (step : ∀ s i o s', I s → allowed s i → exec i s = .ok (o, s') →
      (P ⟨s, i, o, s'⟩ ↔ Q ⟨s, i, o, s'⟩) ∧ (Q ⟨s, i, o, s'⟩ → I s')) :
    (∀ taken ∈ steps, P taken) ↔ ∀ taken ∈ steps, Q taken := by
  have each {P : Taken σ ι ω → Prop} : AtEach (fun _ taken => P taken) steps ↔ ∀ taken ∈ steps, P taken := by
    constructor
    · intro each taken member
      obtain ⟨earlier, later, split⟩ := List.append_of_mem member
      exact each earlier taken later split
    · rintro all earlier taken later rfl
      exact all taken (by simp)
  rw [← each, ← each]
  exact run.atEach_iff (I := fun _ s => I s) init fun _ s i o s' => step s i o s'

/-- The input brings `s` to `s'`. -/
def Gives (exec : ι → Program ε σ ω) (i : ι) (s s' : σ) : Prop :=
  ∃ o, exec i s = .ok (o, s')

/-- The inputs in their order, with something else before each and after the last. -/
def Amid (step : ι → σ → σ → Prop) (between : σ → σ → Prop) : List ι → σ → σ → Prop
  | [], s, s' => between s s'
  | i :: rest, s, s' => ∃ s₁ s₂, between s s₁ ∧ step i s₁ s₂ ∧ Amid step between rest s₂ s'

/-- A part of the state has gone the same way. -/
theorem Amid.map {τ κ : Type u} {step : ι → σ → σ → Prop} {between : σ → σ → Prop} {step' : κ → τ → τ → Prop}
    {between' : τ → τ → Prop} (view : σ → τ) (input : κ → ι)
    (steps : ∀ i s s', step (input i) s s' → step' i (view s) (view s'))
    (betweens : ∀ s s', between s s' → between' (view s) (view s')) (inputs : List κ) {s s' : σ}
    (amid : Amid step between (inputs.map input) s s') : Amid step' between' inputs (view s) (view s') := by
  induction inputs generalizing s with
  | nil => exact betweens s s' amid
  | cons i rest ih =>
    obtain ⟨s₁, s₂, before, given, later⟩ := amid
    exact ⟨view s₁, view s₂, betweens s s₁ before, steps i s₁ s₂ given, ih later⟩

/-- The inputs one after the other, up to the first fault. -/
def perform (exec : ι → Program ε σ ω) : List ι → Program ε σ PUnit
  | [] => pure ⟨⟩
  | i :: rest => do
    let _ ← exec i
    perform exec rest

theorem perform_cons {i : ι} {rest : List ι} {s s' : σ} : perform exec (i :: rest) s = .ok (⟨⟩, s') ↔
    ∃ o s₁, exec i s = .ok (o, s₁) ∧ perform exec rest s₁ = .ok (⟨⟩, s') := by
  rw [perform, bind_run]
  cases ran : exec i s with
  | error e => simp
  | ok result =>
    obtain ⟨o, s₁⟩ := result
    simp

theorem perform_append {first rest : List ι} {s s' : σ} : perform exec (first ++ rest) s = .ok (⟨⟩, s') ↔
    ∃ s₁, perform exec first s = .ok (⟨⟩, s₁) ∧ perform exec rest s₁ = .ok (⟨⟩, s') := by
  induction first generalizing s with
  | nil =>
    constructor
    · intro performed
      exact ⟨s, rfl, performed⟩
    · rintro ⟨_, ⟨⟩, performed⟩
      exact performed
  | cons i others ih =>
    rw [List.cons_append, perform_cons]
    simp only [ih, perform_cons]
    constructor
    · rintro ⟨o, s₁, ran, s₂, performed, later⟩
      exact ⟨s₂, ⟨o, s₁, ran, performed⟩, later⟩
    · rintro ⟨s₂, ⟨o, s₁, ran, performed⟩, later⟩
      exact ⟨o, s₁, ran, s₂, performed, later⟩

/-- Inputs that are performed are a run. -/
theorem perform_run {inputs : List ι} (fits : ∀ i ∈ inputs, ∀ s, allowed s i)
    (performed : perform exec inputs start = .ok (⟨⟩, s)) :
    ∃ steps, Run exec allowed start steps s ∧ steps.map Taken.input = inputs := by
  induction inputs using List.reverseRecOn generalizing s with
  | nil =>
    cases performed
    exact ⟨[], .nil, rfl⟩
  | append_singleton earlier i ih =>
    obtain ⟨s₁, before, last⟩ := perform_append.1 performed
    obtain ⟨o, _, ran, ⟨⟩⟩ := perform_cons.1 last
    obtain ⟨steps, run, inputs⟩ := ih (fun j member => fits j (List.mem_append_left [i] member)) before
    refine ⟨_, run.snoc (fits i (List.mem_append_right earlier (List.mem_singleton_self i)) s₁) ran, ?_⟩
    rw [List.map_append, inputs]
    rfl

theorem perform_rest {i : ι} {rest : List ι} {o : ω} {s s₁ s' : σ} (performed : perform exec (i :: rest) s = .ok (⟨⟩, s'))
    (ran : exec i s = .ok (o, s₁)) : perform exec rest s₁ = .ok (⟨⟩, s') := by
  obtain ⟨_, _, ran', later⟩ := perform_cons.1 performed
  cases ran.symm.trans ran'
  exact later

/-- A fault is that of an input in the state which the earlier ones led to. -/
theorem perform_fault_iff {inputs : List ι} {e : ε} {s : σ} : perform exec inputs s = .error e ↔
    ∃ earlier i later s', inputs = earlier ++ i :: later ∧ perform exec earlier s = .ok (⟨⟩, s') ∧ exec i s' = .error e := by
  induction inputs generalizing s with
  | nil =>
    refine iff_of_false (fun fault => by cases fault) ?_
    rintro ⟨earlier, i, later, s', split, -⟩
    cases earlier <;> cases split
  | cons i rest ih =>
    rw [perform, bind_run]
    cases ran : exec i s with
    | error e' =>
      constructor
      · rintro ⟨⟩
        exact ⟨[], i, rest, s, rfl, rfl, ran⟩
      · rintro ⟨earlier, j, later, s', split, reached, fault⟩
        cases earlier with
        | nil =>
          cases split
          cases reached
          rw [ran] at fault
          cases fault
          rfl
        | cons first others =>
          cases split
          rw [perform, bind_run, ran] at reached
          cases reached
    | ok result =>
      obtain ⟨o, s₁⟩ := result
      rw [ih]
      constructor
      · rintro ⟨earlier, j, later, s', rfl, reached, fault⟩
        refine ⟨i :: earlier, j, later, s', rfl, ?_, fault⟩
        rw [perform, bind_run, ran]
        exact reached
      · rintro ⟨earlier, j, later, s', split, reached, fault⟩
        cases earlier with
        | nil =>
          cases split
          cases reached
          rw [ran] at fault
          cases fault
        | cons first others =>
          cases split
          rw [perform, bind_run, ran] at reached
          exact ⟨others, j, later, s', rfl, reached, fault⟩

end Execution
