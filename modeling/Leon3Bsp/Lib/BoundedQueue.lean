import Mathlib.Tactic.Common

/-!
# Bounded first-in first-out queues

A queue of at most `capacity` items that carries its bound. A refused `push` and
a `pull` from an empty queue report failure and change nothing; `pull` takes the
value its out-parameter holds before the call, which it leaves alone on failure.
-/

set_option autoImplicit false

/-- A list of at most `capacity` items, oldest first. -/
structure BoundedQueue (α : Type*) (capacity : Nat) where
  items : List α
  bound : items.length ≤ capacity

namespace BoundedQueue

variable {α : Type*} {capacity : Nat}

def empty : BoundedQueue α capacity :=
  ⟨[], Nat.zero_le _⟩

def isEmpty (q : BoundedQueue α capacity) : Bool :=
  decide (q.items.length = 0)

def isFull (q : BoundedQueue α capacity) : Bool :=
  decide (q.items.length = capacity)

/-- Append an item unless the queue is full. -/
def push (q : BoundedQueue α capacity) (a : α) : Bool × BoundedQueue α capacity :=
  if room : q.items.length < capacity then (true, ⟨q.items ++ [a], by rw [List.length_append]; exact room⟩) else (false, q)

/-- Remove the oldest item; `data` is the out-parameter before the call. -/
def pull (q : BoundedQueue α capacity) (data : α) : Bool × α × BoundedQueue α capacity :=
  (!q.isEmpty, q.items.headD data, ⟨q.items.tail, by have := q.bound; simp; omega⟩)

@[ext] theorem ext {q r : BoundedQueue α capacity} (same : q.items = r.items) : q = r := by
  cases q
  cases r
  simpa using same

theorem push_accepted {q : BoundedQueue α capacity} (room : q.items.length < capacity) (a : α) :
    (q.push a).1 = true ∧ (q.push a).2.items = q.items ++ [a] := by
  simp [push, room]

theorem push_refused {q : BoundedQueue α capacity} (full : q.items.length = capacity) (a : α) :
    q.push a = (false, q) := by
  simp [push, full]

theorem pull_empty {q : BoundedQueue α capacity} (none : q.items = []) (data : α) :
    q.pull data = (false, data, q) := by
  simp only [pull, isEmpty, none, List.length_nil, decide_true, Bool.not_true, List.headD_nil, List.tail_nil,
    Prod.mk.injEq, true_and]
  ext1
  exact none.symm

theorem pull_cons {q : BoundedQueue α capacity} {a : α} {rest : List α} (front : q.items = a :: rest) (data : α) :
    (q.pull data).1 = true ∧ (q.pull data).2.1 = a ∧ (q.pull data).2.2.items = rest := by
  simp [pull, isEmpty, front]

/-- What a `push` and a `pull` by two users leave behind: the results of both,
the out-parameter of the `pull` and the items. -/
structure Outcome (α : Type*) where
  pushed : Bool
  pulled : Bool
  data : α
  items : List α
  deriving DecidableEq

def pullThenPush (q : BoundedQueue α capacity) (data a : α) : Outcome α :=
  ⟨((q.pull data).2.2.push a).1, (q.pull data).1, (q.pull data).2.1, ((q.pull data).2.2.push a).2.items⟩

def pushThenPull (q : BoundedQueue α capacity) (data a : α) : Outcome α :=
  ⟨(q.push a).1, ((q.push a).2.pull data).1, ((q.push a).2.pull data).2.1, ((q.push a).2.pull data).2.2.items⟩

/-- The outcome of one of the two orders. -/
def Serial (q : BoundedQueue α capacity) (data a : α) (outcome : Outcome α) : Prop :=
  outcome = q.pullThenPush data a ∨ outcome = q.pushThenPull data a

/-- After a pull that took an item there is room, and with room the push is
accepted in either order. -/
theorem Serial.pushed {q : BoundedQueue α capacity} {data a : α} {outcome : Outcome α}
    (serial : q.Serial data a outcome) (room : q.items.length < capacity) : outcome.pushed = true := by
  rcases serial with rfl | rfl
  · refine (push_accepted ?_ a).1
    have : (q.pull data).2.2.items.length ≤ q.items.length := by simp [pull]
    omega
  · exact (push_accepted room a).1

/-- An accepted push into a full queue came after the pull and is the last item. -/
theorem Serial.pushed_full {q : BoundedQueue α capacity} {data a : α} {outcome : Outcome α}
    (serial : q.Serial data a outcome) (full : q.items.length = capacity) (pos : 0 < capacity)
    (pushed : outcome.pushed = true) : outcome.items ≠ [] := by
  rcases serial with rfl | rfl
  · have room : (q.pull data).2.2.items.length < capacity := by simp [pull]; omega
    simp [pullThenPush, (push_accepted room a).2]
  · simp [pushThenPull, push_refused full] at pushed

/-- From an empty queue a pull delivers the pushed item and leaves nothing. -/
theorem Serial.pulled_empty {q : BoundedQueue α capacity} {data a : α} {outcome : Outcome α}
    (serial : q.Serial data a outcome) (none : q.items = []) (pos : 0 < capacity) (pulled : outcome.pulled = true) :
    outcome.data = a ∧ outcome.items = [] := by
  rcases serial with rfl | rfl
  · simp [pullThenPush, pull_empty none] at pulled
  · have front : (q.push a).2.items = [a] := by
      rw [(push_accepted (by simp [none, pos]) a).2, none]
      rfl
    exact ⟨(pull_cons front data).2.1, (pull_cons front data).2.2⟩

/-- With an item and room to start from, something is left. -/
theorem Serial.items_ne_nil {q : BoundedQueue α capacity} {data a : α} {outcome : Outcome α}
    (serial : q.Serial data a outcome) (some : q.items ≠ []) (room : q.items.length < capacity) :
    outcome.items ≠ [] := by
  rcases serial with rfl | rfl
  · have room : (q.pull data).2.2.items.length < capacity := by simp [pull]; omega
    simp [pullThenPush, (push_accepted room a).2]
  · have appended := (push_accepted room a).2
    obtain ⟨x, rest, front⟩ := List.exists_cons_of_ne_nil some
    rw [front, List.cons_append] at appended
    simp [pushThenPull, (pull_cons appended data).2.2]

/-- A call made by the only user of the queue; `pull` carries its out-parameter. -/
inductive Call (α : Type*) where
  | clear
  | push (a : α)
  | pull (data : α)

/-- What one call lets its caller see: the result and out-parameter of the call
(`none` where it has none), then the queries on the queue it leaves. -/
structure Observation (α : Type*) where
  result : Option Bool
  data : Option α
  isEmpty : Bool
  isFull : Bool
  count : Nat

def observe (result : Option Bool) (data : Option α) (q : BoundedQueue α capacity) : Observation α :=
  ⟨result, data, q.isEmpty, q.isFull, q.items.length⟩

def step (q : BoundedQueue α capacity) : Call α → Observation α × BoundedQueue α capacity
  | .clear => (observe none none (empty : BoundedQueue α capacity), empty)
  | .push a => (observe (q.push a).1 none (q.push a).2, (q.push a).2)
  | .pull data => (observe (q.pull data).1 (q.pull data).2.1 (q.pull data).2.2, (q.pull data).2.2)

end BoundedQueue
