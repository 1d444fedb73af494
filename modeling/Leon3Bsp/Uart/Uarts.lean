import Leon3Bsp.Lib.Interleaving
import Leon3Bsp.Uart.Board
import Leon3Bsp.Uart.Mirror

/-!
# Several UARTs in one program

Each device has a descriptor and callbacks of its own; the queues lie in one
memory and the vectors belong to one RTEMS. As long as the calls for different
devices name different queues and identifiers, each device goes the way it would
go alone.
-/

namespace Leon3Bsp.Uart
set_option autoImplicit false
open Wp Execution Coupling

variable {σ κ : Type}

/-- The program: for each device `k` its descriptor, its state and what could be
observed of it, and what they share. -/
structure Uarts (κ σ : Type) where
  uart : κ → Uart
  hw : κ → σ
  trace : κ → List Event
  store : Store
  rtems : Rtems

namespace Uarts

variable [DecidableEq κ]

/-- The world of device `k`. -/
def world (s : Uarts κ σ) (k : κ) : World σ :=
  ⟨s.uart k, s.store, s.rtems, s.hw k, s.trace k⟩

/-- Device `k` left `w`. -/
def update (s : Uarts κ σ) (k : κ) (w : World σ) : Uarts κ σ where
  uart := Function.update s.uart k w.uart
  hw := Function.update s.hw k w.hw
  trace := Function.update s.trace k w.trace
  store := w.store
  rtems := w.rtems

/-- A call for one of the devices. -/
def exec (env : κ → Env σ) (call : κ × Call) : Program Fault (Uarts κ σ) Answer := fun s =>
  match Uart.exec (env call.1) call.2 (s.world call.1) with
  | .ok (answer, w) => .ok (answer, s.update call.1 w)
  | .error e => .error e

theorem world_update (s : Uarts κ σ) (k : κ) (w : World σ) : (s.update k w).world k = w := by
  simp [update, world]

theorem world_update_other (s : Uarts κ σ) {j k : κ} (other : k ≠ j) (w : World σ) :
    (s.update j w).world k = { s.world k with store := w.store, rtems := w.rtems } := by
  simp [update, world, Function.update_of_ne other]

theorem exec_ok {env : κ → Env σ} {k : κ} {call : Call} {s s' : Uarts κ σ} {answer : Answer}
    (ran : exec env (k, call) s = .ok (answer, s')) :
    ∃ w, Uart.exec (env k) call (s.world k) = .ok (answer, w) ∧ s' = s.update k w := by
  unfold exec at ran
  dsimp only at ran
  split at ran
  · rename_i w inside
    cases ran
    exact ⟨_, inside, rfl⟩
  · cases ran

end Uarts

/-- The vectors of other identifiers are left alone. -/
def VectorsBeside (scope : Scope) (rtems rtems' : Rtems) : Prop :=
  ∀ vector, (∀ id ∈ scope.ids, interruptNumber id ≠ vector) →
    rtems'.vector vector = rtems.vector vector

/-- The descriptor and the queues are in order. -/
structure Tidy (queues : Set FifoRef) (scope : Scope) (w : World σ) : Prop where
  named : Named scope w.uart
  separate : Store.Separate queues w.store

/-- What keeps order and leaves alone what lies outside the scope. -/
def Confined (queues : Set FifoRef) (scope : Scope) (w w' : World σ) : Prop :=
  Tidy queues scope w → Tidy queues scope w' ∧ Store.Same (queues \ scope.fifos) w.store w'.store ∧
    VectorsBeside scope w.rtems w'.rtems

section Confined

variable {env : Env σ} {queues : Set FifoRef} {scope : Scope} {w w' w'' : World σ}

/-- Queues and vectors left alone. -/
theorem Confined.of_same (named : Named scope w.uart → Named scope w'.uart) (store : w'.store = w.store)
    (rtems : w'.rtems = w.rtems) : Confined queues scope w w' := by
  intro tidy
  refine ⟨⟨named tidy.named, ?_⟩, ?_, ?_⟩
  · rw [store]
    exact tidy.separate
  · rw [store]
    exact .refl _ _
  · rw [rtems]
    exact fun _ _ => rfl

theorem Confined.refl (w : World σ) : Confined queues scope w w :=
  .of_same (fun named => named) rfl rfl

theorem Confined.trans (first : Confined queues scope w w') (second : Confined queues scope w' w'') :
    Confined queues scope w w'' := by
  intro tidy
  obtain ⟨tidy', store, rtems⟩ := first tidy
  obtain ⟨tidy'', store', rtems'⟩ := second tidy'
  exact ⟨tidy'', store.trans store', fun vector apart => (rtems' vector apart).trans (rtems vector apart)⟩

/-- One queue of the scope moved. -/
theorem Confined.stored (named : Named scope w.uart → Named scope w'.uart) (rtems : w'.rtems = w.rtems)
    (separate : Tidy queues scope w → Store.Separate queues w'.store)
    (store : Tidy queues scope w → Store.Same (queues \ scope.fifos) w.store w'.store) : Confined queues scope w w' := by
  intro tidy
  refine ⟨⟨named tidy.named, separate tidy⟩, store tidy, ?_⟩
  rw [rtems]
  exact fun _ _ => rfl

theorem Primitive.confined (among : scope.fifos ⊆ queues) (primitive : Primitive env (Confined queues scope) scope w w') :
    Confined queues scope w w' := by
  have outside {q : FifoRef} (member : q ∈ scope.fifos) : q ∉ queues \ scope.fifos := fun inside => inside.2 member
  have others : queues \ scope.fifos ⊆ queues := fun q inside => inside.1
  cases primitive with
  | look other w | put other own value w | take ready => exact .of_same (fun named => named) rfl rfl
  | send ready fetched byte =>
    rcases fetched with rfl | ⟨q, data, attached, rfl⟩
    · exact .of_same (fun named => named) rfl rfl
    · refine .stored (fun named => named) rfl (fun tidy => ?_) fun tidy => ?_
      · exact Store.separate_pull tidy.separate (among (tidy.named.txFifo q attached)) data
      · exact Store.pull_elsewhere (outside (tidy.named.txFifo q attached)) data
  | assign assigns registers => exact .of_same (fun named => named.assigns assigns) rfl rfl
  | service own =>
    intro tidy
    refine ⟨⟨tidy.named, tidy.separate⟩, .refl _ _, fun vector apart => own vector ?_⟩
    exact fun here => apart _ tidy.named.id here.symm
  | push member data =>
    rename_i q
    have own (tidy : Tidy queues scope w) : q ∈ scope.fifos := member.elim (tidy.named.rxFifo q) fun own => own
    refine .stored ?_ ?_ ?_ ?_
    · rw [World.afterPush_uart]
      exact fun named => named
    · unfold World.afterPush
      split <;> rfl
    · rw [World.afterPush_store]
      exact fun tidy => Store.separate_push tidy.separate (among (own tidy)) data
    · rw [World.afterPush_store]
      exact fun tidy => Store.push_elsewhere tidy.separate (among (own tidy)) others (outside (own tidy)) data
  | pull member data w =>
    refine .stored ?_ ?_ ?_ ?_
    · rw [World.afterPull_uart]
      exact fun named => named
    · unfold World.afterPull
      split <;> rfl
    · rw [World.afterPull_store]
      exact fun tidy => Store.separate_pull tidy.separate (among member) data
    · rw [World.afterPull_store]
      exact fun _ => Store.pull_elsewhere (outside member) data
  | call registered returned =>
    rename_i hook callback arg
    have called : Confined queues scope w (w.calling hook callback arg) := .of_same (fun named => named) rfl rfl
    exact called.trans returned

/-- A call leaves alone what lies outside its scope. -/
theorem confined_exec (callbacks : Callbacks partially env (Confined queues scope)) (among : scope.fifos ⊆ queues) {call : Call}
    (within : call.Within scope) : Relates partially (Confined queues scope) (Uart.exec env call) := by
  by_cases silent : ∀ byte, call ≠ .arrive byte
  · intro w
    apply wp_mono (driven_exec callbacks within silent w)
    intro _ w' driven
    induction driven with
    | refl => exact .refl w
    | tail earlier last ih => exact ih.trans (last.confined among)
  · push Not at silent
    obtain ⟨byte, rfl⟩ := silent
    exact fun w => .of_same (fun named => named) rfl rfl

end Confined

/-- Functions of the caller that keep to the scope of their device. -/
structure Local (queues : Set FifoRef) (scope : Scope) (env : Env σ) : Prop where
  blind : ∀ function arg, Respects (Mirrors scope (Store.Copied scope.fifos)) (env.callback function arg)
  confined : Callbacks partially env (Confined queues scope)

/-- Different devices have different queues and vectors. -/
structure Disjoint (scope : κ → Scope) : Prop where
  fifos : ∀ j k, j ≠ k → ∀ q ∈ (scope j).fifos, q ∉ (scope k).fifos
  vectors : ∀ j k, j ≠ k → ∀ id ∈ (scope j).ids, ∀ id' ∈ (scope k).ids, interruptNumber id ≠ interruptNumber id'

section Uarts

variable [DecidableEq κ] {env : κ → Env σ} {scope : κ → Scope} {queues : Set FifoRef}

/-- The world of `k` in the program and one in which `k` is alone agree, and all devices are in order. -/
structure Agree (queues : Set FifoRef) (scope : κ → Scope) (k : κ) (s : Uarts κ σ) (v : World σ) : Prop where
  mirrors : Mirrors (scope k) (Store.Copied (scope k).fifos) (s.world k) v
  tidy : ∀ j, Tidy queues (scope j) (s.world j)

/-- The order of all devices is kept by a call for one. -/
theorem tidy_update {s : Uarts κ σ} (tidy : ∀ j, Tidy queues (scope j) (s.world j)) {k : κ} {w : World σ}
    (tidy' : Tidy queues (scope k) w) (j : κ) : Tidy queues (scope j) ((s.update k w).world j) := by
  by_cases here : j = k
  · subst here
    rw [Uarts.world_update]
    exact tidy'
  · rw [Uarts.world_update_other s here]
    exact ⟨(tidy j).named, tidy'.separate⟩

/-- A device is alone as far as it can tell. -/
theorem alone_exec (disjoint : Disjoint scope) (among : ∀ k, (scope k).fifos ⊆ queues)
    (callbacks : ∀ k, Local queues (scope k) (env k)) (k : κ) :
    Interleaving.Alone (Uarts.exec env) (Uart.exec (env k)) (fun _ call => call.2.Within (scope call.1)) k
      (Agree queues scope k) where
  own := by
    rintro s v call answer s' ⟨mirrors, tidy⟩ within ran
    obtain ⟨w, inside, rfl⟩ := Uarts.exec_ok ran
    obtain ⟨tidy', -⟩ := wp_ended (confined_exec (callbacks k).confined (among k) within (s.world k)) inside (tidy k)
    cases mirrors_exec (Store.indistinct_copied _) (callbacks k).blind within (s.world k) v mirrors with
    | faulted left right =>
      rw [inside] at left
      cases left
    | ended left right mirrors' =>
      rename_i v'
      rw [inside] at left
      cases left
      refine ⟨v', right, ⟨?_, tidy_update tidy tidy'⟩⟩
      rw [Uarts.world_update]
      exact mirrors'
  other := by
    rintro s v j call answer s' ⟨mirrors, tidy⟩ apart within ran
    obtain ⟨w, inside, rfl⟩ := Uarts.exec_ok ran
    have confined := wp_ended (confined_exec (callbacks j).confined (among j) within (s.world j)) inside
    obtain ⟨tidy', store, rtems⟩ := confined (tidy j)
    refine ⟨?_, tidy_update tidy tidy'⟩
    rw [Uarts.world_update_other s apart.symm]
    have mine : (scope k).fifos ⊆ queues \ (scope j).fifos :=
      fun q member => ⟨among k member, disjoint.fifos k j apart.symm q member⟩
    have vectors (id : Id) (own : id ∈ (scope k).ids) := rtems (interruptNumber id)
      fun id' own' => disjoint.vectors j k apart id' own' id own
    have kept : Store.Same (scope k).fifos s.store w.store :=
      ⟨fun q member => store.fifo q (mine member), fun q member => store.mem q (mine member)⟩
    exact
      { named := mirrors.named
        uart := mirrors.uart
        hw := mirrors.hw
        store := ⟨tidy'.separate.mono (among k), kept.symm.trans mirrors.store.same⟩
        vectors := fun id own => (mirrors.vectors id own).trans (vectors id own).symm
        trace := mirrors.trace }

theorem Tidy.mirrors {w : World σ} {scope : Scope} (tidy : Tidy queues scope w) (among : scope.fifos ⊆ queues) :
    Mirrors scope (Store.Copied scope.fifos) w w where
  named := tidy.named
  uart := rfl
  hw := rfl
  store := ⟨tidy.separate.mono among, .refl _ _⟩
  vectors _ _ := rfl
  trace := List.forall₂_same.2 fun event _ => .same event

end Uarts

namespace Board

/-- The first device has the first queue, the other one the second. -/
def scopes : Bool → Scope
  | false => ⟨{0}, {.id0}, Set.univ, Set.univ⟩
  | true => ⟨{1}, {.id1}, Set.univ, Set.univ⟩

def two : Uarts Bool Board where
  uart second := { descriptor with id := if second then .id1 else .id0 }
  hw _ := ⟨3, [2, 2, 2, 2], [65]⟩
  trace _ := []
  store := ⟨fun _ => 0, emptyFifo 2⟩
  rtems := .idle

theorem scopes_disjoint : Disjoint scopes := by
  refine ⟨fun j k apart q member member' => ?_, fun j k apart id own id' own' => ?_⟩
  · cases j <;> cases k <;> cases member <;> cases member' <;> exact apart rfl
  · cases j <;> cases k <;> cases own <;> cases own' <;> first | exact absurd rfl apart | decide

theorem env_local (queues : Set FifoRef) (scope : Scope) : Local queues scope env :=
  ⟨fun _ _ => respects_pure (), fun w => .refl w, fun _ _ w => .refl w⟩

theorem two_tidy (second : Bool) : Tidy {0, 1} (scopes second) (two.world second) := by
  have wf (q : FifoRef) (member : q ∈ ({0, 1} : Set FifoRef)) : (emptyFifo 2 q).WF := by
    rcases member with rfl | rfl <;> exact ⟨by decide, by decide, by decide, by decide, by decide⟩
  refine ⟨⟨?_, fun q attached => ?_, fun q attached => ?_⟩, wf, fun q member r member' apart => ?_⟩
  · cases second <;> exact rfl
  · cases attached
  · cases attached
  · show (emptyFifo 2 q).end_ ≤ (emptyFifo 2 r).begin ∨ (emptyFifo 2 r).end_ ≤ (emptyFifo 2 q).begin
    rcases member with rfl | rfl <;> rcases member' with rfl | rfl <;> first | exact absurd rfl apart | decide

end Board

end Leon3Bsp.Uart
