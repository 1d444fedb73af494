import Leon3Bsp.Uart.Board
import Leon3Bsp.Uart.Mirror

/-!
# The layout of the queues

To the driver a queue is the bytes it holds and the room it has. Where the block
lies, how far its pointers have turned and what the free cells hold are the
library's own: the driver goes the same way over two stores with the same bytes.
-/

namespace Leon3Bsp

namespace Store
set_option autoImplicit false

/-- The queues hold the same bytes and have the same room in both stores. -/
structure SameBytes (fifos : Set FifoRef) (s t : Store) : Prop where
  left : Separate fifos s
  right : Separate fifos t
  contents : ∀ q ∈ fifos, t.contents q = s.contents q
  capacity : ∀ q ∈ fifos, t.capacity q = s.capacity q
  small : ∀ q ∈ fifos, s.capacity q ≤ PTRDIFF_MAX

section SameBytes

variable {fifos : Set FifoRef} {s s' t t' : Store} {q : FifoRef}

theorem SameBytes.isEmpty (sameBytes : SameBytes fifos s t) (member : q ∈ fifos) : (t.fifo q).isEmpty = (s.fifo q).isEmpty := by
  have contents : (t.fifo q).contents t.mem = (s.fifo q).contents s.mem := sameBytes.contents q member
  rw [ByteFifo.isEmpty_eq (sameBytes.right.wf q member) t.mem, ByteFifo.isEmpty_eq (sameBytes.left.wf q member) s.mem, contents]

theorem SameBytes.isFull (sameBytes : SameBytes fifos s t) (member : q ∈ fifos) : (t.fifo q).isFull = (s.fifo q).isFull := by
  have contents : (t.fifo q).contents t.mem = (s.fifo q).contents s.mem := sameBytes.contents q member
  have capacity : (t.fifo q).capacity = (s.fifo q).capacity := sameBytes.capacity q member
  rw [ByteFifo.isFull_eq (sameBytes.right.wf q member) t.mem, ByteFifo.isFull_eq (sameBytes.left.wf q member) s.mem, contents,
    capacity]

theorem SameBytes.getCount (sameBytes : SameBytes fifos s t) (member : q ∈ fifos) : (t.fifo q).getCount = (s.fifo q).getCount := by
  have contents : (t.fifo q).contents t.mem = (s.fifo q).contents s.mem := sameBytes.contents q member
  have length := congrArg List.length contents
  have small : (t.fifo q).capacity ≤ PTRDIFF_MAX := (sameBytes.capacity q member).trans_le (sameBytes.small q member)
  rw [ByteFifo.contents_length, ByteFifo.contents_length] at length
  apply BitVec.eq_of_toNat_eq
  rw [ByteFifo.getCount_toNat (sameBytes.right.wf q member) small,
    ByteFifo.getCount_toNat (sameBytes.left.wf q member) (sameBytes.small q member), length]

/-- One queue comes to hold the same bytes in both stores. -/
theorem SameBytes.becomes {items : List Byte} (sameBytes : SameBytes fifos s t) (left : Becomes fifos s s' q items)
    (right : Becomes fifos t t' q items) : SameBytes fifos s' t' := by
  refine ⟨left.separate, right.separate, fun r member => ?_, fun r member => ?_, fun r member => ?_⟩
  · by_cases here : r = q
    · subst here
      rw [left.here, right.here]
    · rw [left.elsewhere r member here, right.elsewhere r member here, sameBytes.contents r member]
  · rw [left.capacity r member, right.capacity r member, sameBytes.capacity r member]
  · rw [left.capacity r member]
    exact sameBytes.small r member

theorem SameBytes.push (sameBytes : SameBytes fifos s t) (member : q ∈ fifos) (data : Byte) :
    (t.push q data).1 = (s.push q data).1 ∧ SameBytes fifos (s.push q data).2 (t.push q data).2 := by
  have same := sameBytes.isFull member
  cases full : (s.fifo q).isFull with
  | true =>
    rw [full] at same
    rw [push_full full, push_full same]
    exact ⟨rfl, sameBytes⟩
  | false =>
    rw [full] at same
    refine ⟨(push_accepted same data).trans (push_accepted full data).symm, ?_⟩
    have right := push_room sameBytes.right member same data
    rw [sameBytes.contents q member] at right
    exact sameBytes.becomes (push_room sameBytes.left member full data) right

/-- The oldest byte is the same one, and so are the rest. -/
theorem SameBytes.pull (sameBytes : SameBytes fifos s t) (member : q ∈ fifos) (data : Byte) :
    (t.pull q data).1 = (s.pull q data).1 ∧ (t.pull q data).2.1 = (s.pull q data).2.1 ∧
      SameBytes fifos (s.pull q data).2.2 (t.pull q data).2.2 := by
  have same := sameBytes.isEmpty member
  cases empty : (s.fifo q).isEmpty with
  | true =>
    rw [empty] at same
    rw [pull_empty empty, pull_empty same]
    exact ⟨rfl, rfl, sameBytes⟩
  | false =>
    rw [empty] at same
    obtain ⟨rest, held, left⟩ := pull_held sameBytes.left member empty data
    obtain ⟨rest', held', right⟩ := pull_held sameBytes.right member same data
    rw [sameBytes.contents q member, held] at held'
    obtain ⟨byte, rests⟩ := List.cons.inj held'
    rw [← rests] at right
    exact ⟨(pull_delivered same data).trans (pull_delivered empty data).symm, byte.symm, sameBytes.becomes left right⟩

theorem indistinct_sameBytes (fifos : Set FifoRef) : Indistinct fifos (SameBytes fifos) where
  isEmpty _ _ sameBytes _ member := sameBytes.isEmpty member
  isFull _ _ sameBytes _ member := sameBytes.isFull member
  getCount _ _ sameBytes _ member := sameBytes.getCount member
  push _ _ sameBytes _ member data := sameBytes.push member data
  pull _ _ sameBytes _ member data := sameBytes.pull member data

end SameBytes

end Store

namespace Uart
set_option autoImplicit false
open Wp Coupling Execution

section Run

variable {σ : Type} {env : Env σ} {scope : Scope}

/-- Functions of the caller that use queues through the library alone. -/
def LayoutBlind (env : Env σ) (scope : Scope) : Prop :=
  ∀ function arg, Respects (Mirrors scope (Store.SameBytes scope.fifos)) (env.callback function arg)

/-- Queues laid out in another way. -/
theorem mirrors_withStore {w : World σ} {store : Store} (named : Named scope w.uart)
    (sameBytes : Store.SameBytes scope.fifos w.store store) :
    Mirrors scope (Store.SameBytes scope.fifos) w (w.withStore store) where
  named := named
  uart := rfl
  hw := rfl
  store := sameBytes
  vectors _ _ := rfl
  trace := List.forall₂_same.2 fun event _ => .same event

/-- **The layout of the queues is unseen**: every run of whole calls can be repeated
with queues that hold the same bytes and have the same room, laid out in any way.
The calls have the same answers, the accesses, bytes and callbacks are the same, at
the end the descriptor, the device and the contents are, and a call faults in both
worlds or in neither. -/
theorem layout_unseen (blind : LayoutBlind env scope) {w w' : World σ} {store : Store} (named : Named scope w.uart)
    (sameBytes : Store.SameBytes scope.fifos w.store store) {calls : List (Made σ)}
    (run : Run env (fun _ call => call.Within scope) w calls w') :
    ∃ calls' v, Run env (fun _ call => call.Within scope) (w.withStore store) calls' v ∧
      calls'.map said = calls.map said ∧ Mirrors scope (Store.SameBytes scope.fifos) w' v ∧
      ∀ call e, call.Within scope → (exec env call w' = .error e ↔ exec env call v = .error e) := by
  have indistinct := Store.indistinct_sameBytes scope.fifos
  have alike (w v : World σ) (call : Call) (mirrors : Mirrors scope (Store.SameBytes scope.fifos) w v) (within : call.Within scope) :=
    mirrors_exec indistinct blind within w v mirrors
  obtain ⟨calls', v, run', same, mirrors⟩ :=
    replay run (fun _ _ within => within) alike (mirrors_withStore named sameBytes)
  refine ⟨calls', v, run', same, mirrors, fun call e within => ?_⟩
  cases alike w' v call mirrors within with
  | ended left right mirrors' => simp [left, right]
  | faulted left right => simp [left, right]

end Run

namespace Board

/-- A queue of three bytes whose pointers have turned once. -/
def turned : Store :=
  ⟨Function.update (fun _ => 0) 0x50000002 7, fun q => ⟨0x50000000 + q, 0x50000003 + q, 0x50000002 + q, 0x50000000 + q⟩⟩

/-- The same byte at the beginning of another block. -/
def fresh : Store :=
  ⟨Function.update (fun _ => 9) 0x60000000 7, fun q => ⟨0x60000000 + q, 0x60000003 + q, 0x60000000 + q, 0x60000001 + q⟩⟩

/-- The callbacks answer with a byte. -/
def answering : Env Board :=
  { env with callback := fun _ _ => do let _ ← fifoPush (some 0) 1 }

def one : Scope :=
  ⟨{0}, {.id0}, Set.univ, Set.univ⟩

theorem one_separate {s : Store} (wf : (s.fifo 0).WF) : Store.Separate {0} s := by
  refine ⟨fun q member => ?_, fun q member r member' apart => ?_⟩
  · cases member
    exact wf
  · cases member
    cases member'
    exact absurd rfl apart

theorem turned_fresh : Store.SameBytes {0} turned fresh where
  left := one_separate ⟨by decide, by decide, by decide, by decide, by decide⟩
  right := one_separate ⟨by decide, by decide, by decide, by decide, by decide⟩
  contents q member := by
    cases member
    decide
  capacity q member := by
    cases member
    rfl
  small q member := by
    cases member
    decide

theorem answering_blind : LayoutBlind answering one := by
  refine fun _ _ => (mirrors_fifoPush (Store.indistinct_sameBytes _) (fun q here => ?_) 1).bind fun _ => respects_pure ()
  cases here
  exact rfl

end Board

/-- What the board does with the queue that has turned it does with the fresh one:
the byte that is sent calls back, and the answer is sent too. -/
theorem layout_unseen_turned :
    let start := { Board.world 3 ⟨3, [0, 0, 0, 2, 0, 0, 2], [65]⟩ with store := Board.turned }
    ∃ calls w, Run Board.answering (fun _ call => call.Within Board.one) start calls w ∧
      calls.map Taken.input = [.writeAsync (some 0) ⟨.user 0, 0⟩, .handleInterrupt, .handleInterrupt, .isTxEmpty] ∧
      ∃ calls' v, Run Board.answering (fun _ call => call.Within Board.one) (start.withStore Board.fresh) calls' v ∧
        calls'.map said = calls.map said ∧ Mirrors Board.one (Store.SameBytes {0}) w v := by
  obtain ⟨w, performed⟩ : ∃ w, perform (exec Board.answering) [.writeAsync (some 0) ⟨.user 0, 0⟩, .handleInterrupt,
      .handleInterrupt, .isTxEmpty] { Board.world 3 ⟨3, [0, 0, 0, 2, 0, 0, 2], [65]⟩ with store := Board.turned } = .ok (⟨⟩, w) :=
    ⟨_, rfl⟩
  have within : ∀ call ∈ ([.writeAsync (some 0) ⟨.user 0, 0⟩, .handleInterrupt, .handleInterrupt, .isTxEmpty] : List Call),
      ∀ _ : World Board, call.Within Board.one := by
    have own : (0 : FifoRef) ∈ ({0} : Set FifoRef) := rfl
    simp [Call.Within, Board.one, own]
  obtain ⟨calls, run, inputs⟩ := perform_run within performed
  intro start
  have named : Named Board.one start.uart := by
    refine ⟨rfl, fun q attached => ?_, fun q attached => ?_⟩
    · cases attached
    · cases attached
  obtain ⟨calls', v, run', same, mirrors, -⟩ := layout_unseen Board.answering_blind named Board.turned_fresh run
  exact ⟨calls, w, run, inputs, calls', v, run', same, mirrors⟩

end Uart

end Leon3Bsp
