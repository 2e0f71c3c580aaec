import Mathlib.Data.List.Basic
import Mathlib.Data.Nat.Basic

/-!
# `PikvmHid.Lib.Packets`: a transfer in packets

A byte string is sent in packets of at most `m` bytes, and the reader, who asked for at most `w`
bytes, knows the end by a packet that is not full or by the count. So when the string is shorter
than `w` and its last packet is full, an empty packet must follow.

* `packets`, `transfer`: the packets of a string, without and with the closing empty one.
* `collect`: the reader, with the packets it leaves.
* `collect_transfer`: the reader gets the string and reads all packets.
-/

set_option autoImplicit false

namespace Lib

universe u

variable {α : Type u}

/-- The packets of a string: all but the last one are full. -/
def packets (m : Nat) (l : List α) : List (List α) :=
  if 0 < m ∧ m < l.length then l.take m :: packets m (l.drop m) else [l]
termination_by l.length
decreasing_by
  rw [List.length_drop]
  omega

/-- The last packet is full and the reader waits for more. -/
def NeedsEmpty (m w n : Nat) : Prop := n < w ∧ m ≤ n ∧ n % m = 0

instance (m w n : Nat) : Decidable (NeedsEmpty m w n) := inferInstanceAs (Decidable (_ ∧ _ ∧ _))

/-- The packets of a transfer. -/
def transfer (m w : Nat) (l : List α) : List (List α) :=
  packets m l ++ if NeedsEmpty m w l.length then [[]] else []

/-- The reader of at most `w` bytes. -/
def collect (m : Nat) : Nat → List (List α) → List α × List (List α)
  | _, []      => ([], [])
  | w, p :: ps =>
      if p.length < m ∨ w ≤ p.length then (p, ps)
      else
        let r := collect m (w - p.length) ps
        (p ++ r.1, r.2)

/-- What fits a packet is one. -/
theorem packets_of_le {m : Nat} {l : List α} (h : l.length ≤ m) : packets m l = [l] := by
  rw [packets, if_neg (by omega)]

/-- What does not is a full packet and the rest. -/
theorem packets_of_gt {m : Nat} {l : List α} (hm : 0 < m) (h : m < l.length) :
    packets m l = l.take m :: packets m (l.drop m) := by
  rw [packets, if_pos ⟨hm, h⟩]

/-- A full packet less does not change whether an empty one must follow. -/
theorem needsEmpty_sub {m w n : Nat} (hn : m < n) (hw : n ≤ w) :
    NeedsEmpty m w n ↔ NeedsEmpty m (w - m) (n - m) := by
  have hmod : n % m = (n - m) % m := Nat.mod_eq_sub_mod (Nat.le_of_lt hn)
  rw [NeedsEmpty, NeedsEmpty, hmod]
  refine ⟨fun h => ⟨by omega, ?_, h.2.2⟩, fun h => ⟨by omega, by omega, h.2.2⟩⟩
  exact Nat.le_of_dvd (by omega) (Nat.dvd_of_mod_eq_zero h.2.2)

/-- The same for a transfer, which asks for as much less. -/
theorem transfer_of_gt {m w : Nat} {l : List α} (hm : 0 < m) (h : m < l.length) (hw : l.length ≤ w) :
    transfer m w l = l.take m :: transfer m (w - m) (l.drop m) := by
  rw [transfer, packets_of_gt hm h, transfer, List.length_drop, List.cons_append,
    if_congr (needsEmpty_sub h hw) rfl rfl]

/-- The reader gets the string, and no packet is left. -/
theorem collect_transfer {m w : Nat} (hm : 0 < m) {l : List α} (hw : l.length ≤ w) :
    collect m w (transfer m w l) = (l, []) := by
  induction l using packets.induct m generalizing w with
  | case1 l h ih =>
      have htake : (l.take m).length = m := List.length_take_of_le (Nat.le_of_lt h.2)
      have hstop : ¬ ((l.take m).length < m ∨ w ≤ (l.take m).length) := by
        rw [htake]
        omega
      have hrest := ih (w := w - m) (by rw [List.length_drop]; omega)
      rw [transfer_of_gt hm h.2 hw, collect, if_neg hstop, htake, hrest]
      exact congrArg (·, []) (List.take_append_drop m l)
  | case2 l h =>
      have hle : l.length ≤ m := by omega
      rw [transfer, packets_of_le hle]
      by_cases hempty : NeedsEmpty m w l.length
      · -- A full packet, then the empty one.
        have hstop : ¬ (l.length < m ∨ w ≤ l.length) := by
          have hlt := hempty.1
          have hfull := hempty.2.1
          omega
        rw [if_pos hempty, List.singleton_append, collect, if_neg hstop, collect, if_pos (.inl hm)]
        exact congrArg (·, []) (List.append_nil l)
      · -- A packet that is not full, or the last byte asked for.
        have hstop : l.length < m ∨ w ≤ l.length := by
          by_contra hgo
          have hlen : l.length = m := by omega
          exact hempty ⟨by omega, by omega, by rw [hlen, Nat.mod_self]⟩
        rw [if_neg hempty, List.append_nil, collect, if_pos hstop]

end Lib
