import Mathlib.Data.List.Rotate

/-!
# `PikvmHid.Lib.RoundRobin`: taking turns

A turn goes from `i` to `(i + 1) % k`. `turns_perm`: in `k` turns from below `k`, every
index below `k` has one.
-/

set_option autoImplicit false

namespace Lib.RoundRobin

/-- The next `n` turns after `i`, among `k`. -/
def turns (k : Nat) : Nat → Nat → List Nat
  | 0,     _ => []
  | n + 1, i => (i + 1) % k :: turns k n ((i + 1) % k)

/-- The turns one by one. -/
theorem turns_eq_map (k n i : Nat) :
    turns k n i = (List.range n).map fun j => (i + 1 + j) % k := by
  induction n generalizing i with
  | zero => rfl
  | succ n ih =>
      rw [turns, ih, List.range_succ_eq_map, List.map_cons, List.map_map]
      congr 1
      -- Counted from the turn that was taken, every other one is one place nearer.
      refine List.map_congr_left fun j _ => ?_
      rw [Nat.add_assoc, Nat.mod_add_mod]
      simp only [Function.comp, Nat.succ_eq_add_one]
      congr 1
      omega

/-- In `k` turns every index has one. -/
theorem turns_perm {k i : Nat} : (turns k k i).Perm (List.range k) := by
  have hrotate : turns k k i = (List.range k).rotate (i + 1) := by
    rw [turns_eq_map]
    refine List.ext_getElem (by simp) fun j hj _ => ?_
    simp only [List.getElem_map, List.getElem_range, List.getElem_rotate, List.length_range]
    rw [Nat.add_comm]
  rw [hrotate]
  exact List.rotate_perm _ _

end Lib.RoundRobin
