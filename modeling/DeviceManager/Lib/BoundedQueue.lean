import Mathlib.Data.List.Basic

/-!
# Bounded queues

The abstract value of a byte or item buffer of fixed capacity: a list that does not grow
beyond the capacity.  `step` says what each operation returns and leaves, `run` what a
sequence of operations returns.

`run_simulates` is the rule for implementations.  One that may fail, and that simulates every
single operation, does not fail in any run and returns what the queue returns.
-/

namespace BoundedQueue

variable {α σ : Type} {capacity : Nat}

/-- At most `capacity` items, the oldest first. -/
structure Queue (α : Type) (capacity : Nat) where
  items : List α
  length_le : items.length ≤ capacity

def Queue.empty : Queue α capacity := ⟨[], Nat.zero_le _⟩

inductive Op (α : Type)
  | write (data : List α)
  | peek (offset length : Nat)
  | discard (length : Nat)
  | read (length : Nat)
  | reset

/-- What an operation returns: a count, and the items that it copies out. -/
structure Observation (α : Type) where
  count : Nat
  items : List α
  deriving DecidableEq

/-- Append as much of `data` as there is room for. -/
def Queue.append (queue : Queue α capacity) (data : List α) : Queue α capacity where
  items := queue.items ++ data.take (min data.length (capacity - queue.items.length))
  length_le := by
    have := queue.length_le
    rw [List.length_append, List.length_take]
    omega

/-- Drop `count` items from the front. -/
def Queue.drop (queue : Queue α capacity) (count : Nat) : Queue α capacity where
  items := queue.items.drop count
  length_le := by
    have := queue.length_le
    rw [List.length_drop]
    omega

def Queue.step (queue : Queue α capacity) : Op α → Observation α × Queue α capacity
  | .write data =>
    (⟨min data.length (capacity - queue.items.length), []⟩, queue.append data)
  | .peek offset length =>
    let items := (queue.items.drop offset).take length
    (⟨items.length, items⟩, queue)
  | .discard length =>
    let count := min length queue.items.length
    (⟨count, []⟩, queue.drop count)
  | .read length =>
    let count := min length queue.items.length
    (⟨count, queue.items.take count⟩, queue.drop count)
  | .reset => (⟨0, []⟩, .empty)

def Queue.run (queue : Queue α capacity) : List (Op α) → List (Observation α) × Queue α capacity
  | [] => ([], queue)
  | op :: ops =>
    let next := queue.step op
    let rest := next.2.run ops
    (next.1 :: rest.1, rest.2)

/-- The runs of an implementation that may fail. -/
def run (step : σ → Op α → Option (Observation α × σ)) (state : σ) :
    List (Op α) → Option (List (Observation α) × σ)
  | [] => some ([], state)
  | op :: ops =>
    (step state op).bind fun next =>
      (run step next.2 ops).map fun rest => (next.1 :: rest.1, rest.2)

/-- What holds of every operation holds of every run. -/
theorem run_simulates {step : σ → Op α → Option (Observation α × σ)}
    {R : σ → Queue α capacity → Prop}
    (hstep : ∀ state queue op, R state queue →
      ∃ state', step state op = some ((queue.step op).1, state') ∧ R state' (queue.step op).2)
    {state : σ} {queue : Queue α capacity} (h : R state queue) (ops : List (Op α)) :
    ∃ state', run step state ops = some ((queue.run ops).1, state') ∧
      R state' (queue.run ops).2 := by
  induction ops generalizing state queue with
  | nil => exact ⟨state, rfl, h⟩
  | cons op ops ih =>
    obtain ⟨next, hnext, hqueue⟩ := hstep state queue op h
    obtain ⟨last, hlast, hrest⟩ := ih hqueue
    refine ⟨last, ?_, hrest⟩
    rw [run, hnext, Option.bind_some, hlast]
    rfl

end BoundedQueue
