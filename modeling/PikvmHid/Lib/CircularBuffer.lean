import Mathlib.Data.List.Basic
import Mathlib.Data.Fin.Basic
import Mathlib.Data.Nat.ModEq

/-!
# `PikvmHid.Lib.CircularBuffer`: the contents of a circular buffer

A circular buffer of `n` slots with two indices, both below `n`. `front` is the slot
*before* the oldest element and `rear` is the slot of the newest, so an operation first
advances its index and then touches the slot. The buffer is empty when the indices
meet, and full when one more advance of `rear` would reach `front`: one slot always
stays free.

`contents` lists what the buffer holds, oldest first. The theorems say what the two
operations do to it:

* `contents_push`: advancing `rear` and writing there appends one element;
* `contents_pop`: advancing `front` takes the head off, and the slot it stops at holds
  that head;
* `contents_clear`: overwriting the slot `front` stands on changes nothing;
* `contents_eq_nil_iff` and `full_iff`: the two index tests read the length.
-/

set_option autoImplicit false

namespace Lib.CircularBuffer

universe u

variable {α : Type u} {n : Nat}

/-- Below twice the size, the wrapped index is one of two. -/
theorem mod_of_lt_two_mul {a : Nat} (h : a < 2 * n) :
    a % n = if a < n then a else a - n := by
  split
  · next hlt => exact Nat.mod_eq_of_lt hlt
  · next hge =>
      rw [Nat.mod_eq_sub_mod (by omega), Nat.mod_eq_of_lt (by omega)]

/-- The number of held elements. -/
def count (n front rear : Nat) : Nat := (rear + n - front) % n

/-- The number of elements, without the remainder. -/
theorem count_eq {front rear : Nat} (hf : front < n) (hr : rear < n) :
    count n front rear = if front ≤ rear then rear - front else rear + n - front := by
  unfold count
  rw [mod_of_lt_two_mul (by omega)]
  split <;> split <;> omega

/-- It never reaches the number of slots. -/
theorem count_lt {front rear : Nat} (hf : front < n) (hr : rear < n) :
    count n front rear < n := by
  rw [count_eq hf hr]
  split <;> omega

/-- The slots of the held elements are not the one behind `rear`. -/
theorem slot_ne_of_lt_count {front rear k : Nat} (hf : front < n) (hr : rear < n)
    (hfull : (rear + 1) % n ≠ front) (hk : k < count n front rear) :
    (front + 1 + k) % n ≠ (rear + 1) % n := by
  -- Each of the three wrapped indices is reduced at most once.
  rw [count_eq hf hr] at hk
  rw [mod_of_lt_two_mul (by omega)] at hfull
  rw [mod_of_lt_two_mul (by split at hk <;> omega), mod_of_lt_two_mul (by omega)]
  split at hk <;> split at hfull <;> split <;> omega

/-- The slots of the held elements are not the one `front` stands on. -/
theorem slot_ne_front {front rear k : Nat} (hf : front < n) (hr : rear < n)
    (hk : k < count n front rear) : (front + 1 + k) % n ≠ front := by
  rw [count_eq hf hr] at hk
  rw [mod_of_lt_two_mul (by split at hk <;> omega)]
  split at hk <;> split <;> omega

variable [NeZero n]

/-- The held elements, oldest first: the `k`-th sits `k + 1` slots past `front`. -/
def contents (slots : Vector α n) (front rear : Nat) : List α :=
  (List.range (count n front rear)).map fun k => slots.get (Fin.ofNat n (front + 1 + k))

/-- The contents have that many elements. -/
@[simp] theorem length_contents (slots : Vector α n) (front rear : Nat) :
    (contents slots front rear).length = count n front rear := by
  simp [contents]

/-- The indices meet exactly when nothing is held. -/
theorem contents_eq_nil_iff (slots : Vector α n) {front rear : Nat} (hf : front < n)
    (hr : rear < n) : contents slots front rear = [] ↔ front = rear := by
  rw [← List.length_eq_zero_iff, length_contents, count_eq hf hr]
  split <;> omega

/-- One more advance of `rear` reaches `front` exactly when all slots but one are
used. -/
theorem full_iff (slots : Vector α n) {front rear : Nat} (hf : front < n)
    (hr : rear < n) :
    (rear + 1) % n = front ↔ (contents slots front rear).length = n - 1 := by
  rw [length_contents, count_eq hf hr, mod_of_lt_two_mul (by omega)]
  split <;> split <;> omega

/-- Writing a slot that holds no element changes nothing. -/
theorem contents_set (slots : Vector α n) (front rear i : Nat) (hi : i < n) (x : α)
    (hne : ∀ k, k < count n front rear → (front + 1 + k) % n ≠ i) :
    contents (slots.set i x hi) front rear = contents slots front rear := by
  unfold contents
  refine List.map_congr_left fun k hk => ?_
  have hki := hne k (List.mem_range.mp hk)
  exact Vector.getElem_set_ne hi (Nat.mod_lt _ (by omega)) (Ne.symm hki)

/-- Advancing `rear` and writing there appends one element, unless the buffer is
full. -/
theorem contents_push (slots : Vector α n) {front rear : Nat} (hf : front < n)
    (hr : rear < n) (hfull : (rear + 1) % n ≠ front) (x : α)
    (hi : (rear + 1) % n < n) :
    contents (slots.set ((rear + 1) % n) x hi) front ((rear + 1) % n)
      = contents slots front rear ++ [x] := by
  have hcount : count n front ((rear + 1) % n) = count n front rear + 1 := by
    rw [count_eq hf hi, count_eq hf hr]
    rw [mod_of_lt_two_mul (by omega)] at hfull ⊢
    split at hfull <;> rename_i hlt <;> simp only [hlt, if_true, if_false] <;>
      split <;> split <;> omega
  have hlast : (front + 1 + count n front rear) % n = (rear + 1) % n := by
    rw [count_eq hf hr]
    split
    · congr 1; omega
    · rw [show front + 1 + (rear + n - front) = rear + 1 + n from by omega,
        Nat.add_mod_right]
  -- The store touches none of the old elements, so only the new one is left to compare.
  rw [← contents_set slots front rear _ hi x
    fun k hk => slot_ne_of_lt_count hf hr hfull hk]
  unfold contents
  rw [hcount, List.range_succ, List.map_append, List.map_singleton]
  congr 2
  have hslot : Fin.ofNat n (front + 1 + count n front rear) = ⟨(rear + 1) % n, hi⟩ :=
    Fin.ext hlast
  rw [hslot]
  exact Vector.getElem_set_self hi

/-- Advancing `front` takes the head off: the slot it stops at held it. -/
theorem contents_pop (slots : Vector α n) {front rear : Nat} (hf : front < n)
    (hr : rear < n) (hne : front ≠ rear) (hi : (front + 1) % n < n) :
    contents slots front rear
      = slots.get ⟨(front + 1) % n, hi⟩ :: contents slots ((front + 1) % n) rear := by
  have hcount : count n front rear = count n ((front + 1) % n) rear + 1 := by
    rw [count_eq hf hr, count_eq hi hr, mod_of_lt_two_mul (by omega)]
    split <;> split <;> split <;> omega
  unfold contents
  rw [hcount, List.range_succ_eq_map, List.map_cons, List.map_map]
  congr 1
  -- Counted from the new `front`, every other element is one place nearer.
  refine List.map_congr_left fun k _ => ?_
  have hslot : Fin.ofNat n (front + 1 + (k + 1)) = Fin.ofNat n ((front + 1) % n + 1 + k) := by
    apply Fin.ext
    simp only [Fin.val_ofNat]
    rw [show front + 1 + (k + 1) = front + 1 + (1 + k) from by omega,
      show (front + 1) % n + 1 + k = (front + 1) % n + (1 + k) from by omega,
      Nat.mod_add_mod]
  simp only [Function.comp, Nat.succ_eq_add_one, hslot]

/-- Overwriting the slot `front` stands on changes nothing. -/
theorem contents_clear (slots : Vector α n) {front rear : Nat} (hf : front < n)
    (hr : rear < n) (x : α) :
    contents (slots.set front x hf) front rear = contents slots front rear :=
  contents_set slots front rear front hf x fun _ hk => slot_ne_front hf hr hk

end Lib.CircularBuffer
