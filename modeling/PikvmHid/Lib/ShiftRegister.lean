import Mathlib.Data.List.Basic
import Mathlib.Logic.Function.Iterate
import Mathlib.Data.Bool.Basic

/-!
# `PikvmHid.Lib.ShiftRegister`: the reflected CRC register

A `w`-bit register that shifts right and adds `poly` (by exclusive or) when a one falls
out. Words of any width go in at the low end, one shift per bit.

* `shift_xor`, `digest_xor`: everything is linear in exclusive or, so the digest of a
  changed message differs from the old one by the digest of the change from a zero
  register.
* `shift_injective`: with the top bit of `poly` set, no information is lost, so a change of
  a single word shows (`digest_word_ne`).
* `parity_shift`: with an odd number of ones in `poly`, a shift keeps the parity of the
  register. This is the factor `x + 1` of the generator polynomial, and it makes every
  odd number of flipped bits visible.
* `iterate_shift_ne`: two flipped bits stay apart as long as the register does not
  return to where it started between them.
-/

set_option autoImplicit false

namespace Lib.ShiftRegister

variable {w : Nat} (poly : BitVec w)

/-- One shift: the low bit falls out, and adds `poly` when it is one. -/
def shift (c : BitVec w) : BitVec w :=
  if c.getLsbD 0 then (c >>> 1) ^^^ poly else c >>> 1

/-- A word of `v` bits goes in at the low end. -/
def absorb {v : Nat} (c : BitVec w) (b : BitVec v) : BitVec w :=
  (shift poly)^[v] (c ^^^ b.setWidth w)

/-- The register after a message, from the start value `c`. -/
def digest {v : Nat} (c : BitVec w) (bs : List (BitVec v)) : BitVec w :=
  bs.foldl (absorb poly) c

/-- The digest of no word. -/
@[simp] theorem digest_nil {v : Nat} (c : BitVec w) :
    digest poly c ([] : List (BitVec v)) = c := rfl

/-- The first word is absorbed first. -/
@[simp] theorem digest_cons {v : Nat} (c : BitVec w) (b : BitVec v) (bs : List (BitVec v)) :
    digest poly c (b :: bs) = digest poly (absorb poly c b) bs := rfl

/-- The digest of two messages in a row. -/
theorem digest_append {v : Nat} (c : BitVec w) (as bs : List (BitVec v)) :
    digest poly c (as ++ bs) = digest poly (digest poly c as) bs :=
  List.foldl_append

/-! ### Linearity -/

/-- A register of zeros stays so. -/
@[simp] theorem shift_zero : shift poly 0#w = 0#w := by
  simp [shift]

/-- A shift is linear. The four cases are the two bits that fall out. -/
theorem shift_xor (a b : BitVec w) : shift poly (a ^^^ b) = shift poly a ^^^ shift poly b := by
  unfold shift
  rw [BitVec.getLsbD_xor, BitVec.ushiftRight_xor_distrib]
  cases a.getLsbD 0 <;> cases b.getLsbD 0 <;> simp only [Bool.xor_false, Bool.xor_true,
    Bool.not_true, Bool.not_false, Bool.false_eq_true, if_true, if_false]
  · rw [BitVec.xor_assoc]
  · rw [BitVec.xor_assoc, BitVec.xor_assoc, BitVec.xor_comm poly]
  · ext i hi
    simp only [BitVec.getElem_xor]
    cases (a >>> 1)[i] <;> cases (b >>> 1)[i] <;> cases poly[i] <;> rfl

/-- However often it is shifted. -/
theorem iterate_shift_zero (k : Nat) : (shift poly)^[k] 0#w = 0#w :=
  Function.iterate_fixed (shift_zero poly) k

/-- Shifting is linear. -/
theorem iterate_shift_xor (k : Nat) (a b : BitVec w) :
    (shift poly)^[k] (a ^^^ b) = (shift poly)^[k] a ^^^ (shift poly)^[k] b := by
  induction k generalizing a b with
  | zero => rfl
  | succ k ih => simp only [Function.iterate_succ, Function.comp, shift_xor, ih]

/-- Absorbing changed words into changed registers: the changes travel on their own. -/
theorem absorb_xor {v : Nat} (c d : BitVec w) (a b : BitVec v) :
    absorb poly (c ^^^ d) (a ^^^ b) = absorb poly c a ^^^ absorb poly d b := by
  unfold absorb
  rw [← iterate_shift_xor, BitVec.setWidth_xor]
  congr 1
  ac_rfl

/-- The digest of a changed message: the old digest plus the digest of the change. -/
theorem digest_xor {v : Nat} (as bs : List (BitVec v)) (hlen : as.length = bs.length)
    (c d : BitVec w) :
    digest poly (c ^^^ d) (List.zipWith (· ^^^ ·) as bs)
      = digest poly c as ^^^ digest poly d bs := by
  induction as generalizing bs c d with
  | nil =>
      obtain rfl := List.length_eq_zero_iff.mp hlen.symm
      rfl
  | cons a as ih =>
      -- The two registers after the first words are again a register and a change of it.
      cases bs with
      | nil => simp at hlen
      | cons b bs =>
          simp only [List.zipWith_cons_cons, digest_cons, absorb_xor]
          exact ih bs (by simpa using hlen) _ _

/-! ### Injectivity -/

/-- With the top bit of `poly` set, the bit that fell out reappears at the top, so a
shift can be undone. -/
theorem shift_injective (hpoly : poly.msb = true) : Function.Injective (shift poly) := by
  have hw : 0 < w := by
    rcases Nat.eq_zero_or_pos w with rfl | h
    · simp [BitVec.msb, BitVec.getMsbD] at hpoly
    · exact h
  have htop : poly.getLsbD (w - 1) = true := by
    rwa [BitVec.msb_eq_getLsbD_last] at hpoly
  -- The top bit is free after the shift, and `poly` sets it when a one fell out.
  have hout : ∀ c : BitVec w, (shift poly c).getLsbD (w - 1) = c.getLsbD 0 := by
    intro c
    unfold shift
    have hc : (c >>> 1).getLsbD (w - 1) = false := by
      rw [BitVec.getLsbD_ushiftRight]
      exact BitVec.getLsbD_of_ge c _ (by omega)
    cases h0 : c.getLsbD 0 with
    | true =>
        simp only [if_true, BitVec.getLsbD_xor, hc, htop, Bool.false_xor]
    | false =>
        simp only [Bool.false_eq_true, if_false, hc]
  intro a b hab
  have h0 : a.getLsbD 0 = b.getLsbD 0 := by rw [← hout a, ← hout b, hab]
  have hrest : a >>> 1 = b >>> 1 := by
    unfold shift at hab
    rw [h0] at hab
    cases hb : b.getLsbD 0 with
    | true => simpa [hb] using hab
    | false => simpa [hb] using hab
  -- Bit 0 is the one that fell out, the others are those of the shifted registers.
  apply BitVec.eq_of_getLsbD_eq
  intro i _
  cases i with
  | zero => exact h0
  | succ i =>
      have hi := congrArg (·.getLsbD i) hrest
      simpa [BitVec.getLsbD_ushiftRight, Nat.add_comm] using hi

/-- It is injective if the polynomial has its top bit. -/
theorem iterate_shift_injective (hpoly : poly.msb = true) (k : Nat) :
    Function.Injective (shift poly)^[k] :=
  (shift_injective poly hpoly).iterate k

/-- A nonzero register never shifts to zero. -/
theorem iterate_shift_ne_zero (hpoly : poly.msb = true) (k : Nat) {c : BitVec w}
    (hc : c ≠ 0#w) : (shift poly)^[k] c ≠ 0#w := by
  intro h
  rw [← iterate_shift_zero poly k] at h
  exact hc (iterate_shift_injective poly hpoly k h)

/-- A narrow word is not cut by the register. -/
theorem setWidth_injective {v : Nat} (hv : v ≤ w) :
    Function.Injective fun b : BitVec v => b.setWidth w := by
  intro a b hab
  apply BitVec.eq_of_getLsbD_eq
  intro i hi
  have hbit := congrArg (·.getLsbD i) hab
  simpa [BitVec.getLsbD_setWidth, Nat.lt_of_lt_of_le hi hv] using hbit

/-- Two words that differ leave different registers. -/
theorem absorb_right_injective {v : Nat} (hv : v ≤ w) (hpoly : poly.msb = true)
    (c : BitVec w) : Function.Injective (absorb (v := v) poly c) := by
  intro a b hab
  have h := iterate_shift_injective poly hpoly v hab
  exact setWidth_injective hv (by simpa using h)

/-- Two registers that differ still differ after the same message. -/
theorem digest_left_injective {v : Nat} (hpoly : poly.msb = true) (bs : List (BitVec v)) :
    Function.Injective fun c => digest poly c bs := by
  induction bs with
  | nil => exact fun _ _ h => h
  | cons b bs ih =>
      intro c d h
      have habs := iterate_shift_injective poly hpoly v (ih h)
      simpa using habs

/-- Two messages that differ in one word have different digests. -/
theorem digest_word_ne {v : Nat} (hv : v ≤ w) (hpoly : poly.msb = true) (c : BitVec w)
    (pre post : List (BitVec v)) {a b : BitVec v} (hab : a ≠ b) :
    digest poly c (pre ++ a :: post) ≠ digest poly c (pre ++ b :: post) := by
  intro h
  rw [digest_append, digest_append, digest_cons, digest_cons] at h
  have hword := digest_left_injective poly hpoly post h
  exact hab (absorb_right_injective poly hv hpoly _ hword)

/-- As long as the orbit of `c` does not close within `n` shifts, its first `n` members
are all different. -/
theorem iterate_shift_ne (hpoly : poly.msb = true) {c : BitVec w} {n : Nat}
    (horbit : ∀ m, 0 < m → m < n → (shift poly)^[m] c ≠ c) {i j : Nat} (hi : i < n)
    (hj : j < n) (hij : i ≠ j) : (shift poly)^[i] c ≠ (shift poly)^[j] c := by
  -- Equal members cancel down to a return to `c` after `j - i` shifts.
  have key : ∀ i j, i < j → j < n → (shift poly)^[i] c ≠ (shift poly)^[j] c := by
    intro i j hlt hj h
    rw [show j = i + (j - i) from by omega, Function.iterate_add_apply] at h
    exact horbit (j - i) (by omega) (by omega) (iterate_shift_injective poly hpoly i h).symm
  rcases Nat.lt_or_gt_of_ne hij with h | h
  · exact key i j h hj
  · exact (key j i h hi).symm

/-! ### Parity -/

/-- The exclusive or of the first `n` values. -/
def parityUpTo (f : Nat → Bool) : Nat → Bool
  | 0     => false
  | n + 1 => parityUpTo f n ^^ f n

/-- The parity of a bit vector: true for an odd number of ones. -/
def parity (x : BitVec w) : Bool := parityUpTo x.getLsbD w

/-- Parity is linear. -/
theorem parityUpTo_xor (f g : Nat → Bool) (n : Nat) :
    parityUpTo (fun i => f i ^^ g i) n = (parityUpTo f n ^^ parityUpTo g n) := by
  induction n with
  | zero => rfl
  | succ n ih =>
      simp only [parityUpTo, ih]
      cases parityUpTo f n <;> cases parityUpTo g n <;> cases f n <;> cases g n <;> rfl

/-- The first bit split off. -/
theorem parityUpTo_succ_left (f : Nat → Bool) (n : Nat) :
    parityUpTo f (n + 1) = (f 0 ^^ parityUpTo (fun i => f (i + 1)) n) := by
  induction n with
  | zero => simp [parityUpTo]
  | succ n ih =>
      rw [parityUpTo, ih]
      simp only [parityUpTo, Bool.xor_assoc]

/-- The parity of a sum. -/
theorem parity_xor (x y : BitVec w) : parity (x ^^^ y) = (parity x ^^ parity y) := by
  unfold parity
  rw [← parityUpTo_xor]
  congr 1
  funext i
  exact BitVec.getLsbD_xor

/-- A right shift loses the parity of the low bit. -/
theorem parity_ushiftRight_one (x : BitVec w) :
    parity (x >>> 1) = (parity x ^^ x.getLsbD 0) := by
  have hshift : (x >>> 1).getLsbD = fun i => x.getLsbD (i + 1) := by
    funext i
    rw [BitVec.getLsbD_ushiftRight, Nat.add_comm]
  -- Past the top bit there is a zero, so shifting moves the sum by one place.
  have hsucc := parityUpTo_succ_left x.getLsbD w
  rw [parityUpTo, BitVec.getLsbD_of_ge x w (Nat.le_refl _), Bool.xor_false] at hsucc
  unfold parity
  rw [hshift, hsucc]
  cases x.getLsbD 0 <;> cases parityUpTo (fun i => x.getLsbD (i + 1)) w <;> rfl

/-- With an odd number of ones in `poly`, a shift keeps the parity: the one that falls
out is made up for by `poly`. -/
theorem parity_shift (hpoly : parity poly = true) (c : BitVec w) :
    parity (shift poly c) = parity c := by
  unfold shift
  cases h0 : c.getLsbD 0 with
  | true =>
      simp only [if_true, parity_xor, parity_ushiftRight_one, h0, hpoly]
      cases parity c <;> rfl
  | false =>
      simp only [Bool.false_eq_true, if_false, parity_ushiftRight_one, h0, Bool.xor_false]

/-- A polynomial of odd weight keeps the parity. -/
theorem parity_iterate_shift (hpoly : parity poly = true) (k : Nat) (c : BitVec w) :
    parity ((shift poly)^[k] c) = parity c := by
  induction k generalizing c with
  | zero => rfl
  | succ k ih => rw [Function.iterate_succ, Function.comp, ih, parity_shift poly hpoly]

end Lib.ShiftRegister
