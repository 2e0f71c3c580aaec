import PikvmHid.Lib.Machine

/-!
# `PikvmHid.Lib.BoundedFifo`: a first-in, first-out queue with a capacity

The queue as a list, oldest element first, with the operations that a message queue has.
A push on a full queue and a pop on an empty one fail and change nothing. `take` hands out
as many elements as it can, and `clear` drops all of them.

`fifo_length_le`: a run never holds more than the capacity.
-/

set_option autoImplicit false

namespace Lib.BoundedFifo

universe u

variable {α : Type u}

/-- The operations. -/
inductive Op (α : Type u) where
  | push (a : α)
  | pop
  | take (count : Nat)
  | clear

/-- What an operation answers. -/
inductive Result (α : Type u) where
  | pushed (ok : Bool)
  | popped (a : Option α)
  | taken (l : List α)
  | cleared

/-- One operation on the held elements. -/
def step (capacity : Nat) (held : List α) : Op α → List α × List (Result α)
  | .push a     =>
      if held.length < capacity then (held ++ [a], [.pushed true]) else (held, [.pushed false])
  | .pop        => (held.tail, [.popped held.head?])
  | .take count => (held.drop count, [.taken (held.take count)])
  | .clear      => ([], [.cleared])

/-- The queue as a machine. -/
def fifo (capacity : Nat) : Machine (List α) (Op α) (Result α) := ⟨step capacity⟩

/-- No operation exceeds the capacity. -/
theorem length_step_le (capacity : Nat) {held : List α} (h : held.length ≤ capacity)
    (op : Op α) : (step capacity held op).1.length ≤ capacity := by
  cases op with
  | push a =>
      simp only [step]
      split
      · next hroom =>
          rw [List.length_append]
          exact hroom
      · exact h
  | pop =>
      show held.tail.length ≤ capacity
      rw [List.length_tail]
      omega
  | take count =>
      show (held.drop count).length ≤ capacity
      rw [List.length_drop]
      omega
  | clear => exact Nat.zero_le _

/-- A run never holds more than the capacity. -/
theorem fifo_length_le (capacity : Nat) {c : List α × List (Result α)}
    (h : c.1.length ≤ capacity) (ops : List (Op α)) :
    ((fifo capacity).exec c ops).1.length ≤ capacity :=
  (fifo capacity).invariant_all (I := fun c => c.1.length ≤ capacity)
    (fun _ op h => length_step_le capacity h op) h ops

end Lib.BoundedFifo
