import PikvmHid.Spec.Digits

/-!
# `PikvmHid.Proofs.Digits`: the digit loops of `buf_printf`

With the mask at `b ^ k` and the number below `b ^ (k + 1)`, the inner loop divides: it counts
the quotient and leaves the remainder (`dgtLoop_eq`). So the outer loop goes through the digits
of a fixed length and drops the leading zeros (`maskLoop_eq`), which gives the text of the
number for every argument (`digits_exact`).
-/

set_option autoImplicit false

namespace PikvmHid

open Lib Lib.Numeral

/-! ### The inner loop -/

/-- After some rounds, as many masks are subtracted as were counted, and no more than fit. -/
theorem dgtLoop_eq {mask : U32} (hmask : 0 < mask.toNat) (fuel : Nat) :
    ∀ (num : U32) (dgt : U8),
      (dgtLoop mask fuel num dgt).1.toNat
          = num.toNat - min fuel (num.toNat / mask.toNat) * mask.toNat ∧
        (dgtLoop mask fuel num dgt).2
          = dgt + BitVec.ofNat 8 (min fuel (num.toNat / mask.toNat)) := by
  induction fuel with
  | zero =>
      intro num dgt
      simp [dgtLoop]
  | succ fuel ih =>
      intro num dgt
      by_cases hle : mask.toNat ≤ num.toNat
      · have hnum : (num - mask).toNat = num.toNat - mask.toNat := BitVec.toNat_sub_of_le hle
        have hdiv : num.toNat / mask.toNat = (num.toNat - mask.toNat) / mask.toNat + 1 := by
          rw [Nat.div_eq_sub_div hmask hle]
        obtain ⟨hrest, hdgt⟩ := ih (num - mask) (dgt + 1)
        rw [dgtLoop, if_pos (BitVec.le_def.mpr hle), hrest, hdgt, hnum, hdiv, Nat.add_min_add_right]
        refine ⟨?_, ?_⟩
        · rw [Nat.add_mul, Nat.one_mul, Nat.sub_sub, Nat.add_comm]
        · rw [BitVec.ofNat_add, BitVec.add_assoc, BitVec.add_comm (1 : U8)]
          rfl
      · -- The number is below the mask, and nothing is left to count.
        rw [dgtLoop, if_neg (mt BitVec.le_def.mp hle), Nat.div_eq_of_lt (Nat.lt_of_not_le hle)]
        simp

/-- The base of the outer loop. -/
def baseOf (hx : Bool) : Nat := if hx then 16 else 10

/-- Both bases are positive. -/
theorem baseOf_pos (hx : Bool) : 0 < baseOf hx := by cases hx <;> decide

/-- The variables at the digit of `b ^ k`: the mask, and the digits from there on. -/
structure AtDigit (hx : Bool) (k : Nat) (s : DigitState) : Prop where
  mask : s.mask.toNat = baseOf hx ^ k
  num_lt : s.num.toNat < baseOf hx ^ (k + 1)

/-- The variables with so many digits left. -/
def DigitsLeft (hx : Bool) : Nat → DigitState → Prop
  | 0,     s => s.mask = 0
  | k + 1, s => AtDigit hx k s

section
variable {hx : Bool} {k : Nat} {s : DigitState} (h : AtDigit hx k s)

include h

/-- The mask is positive. -/
theorem AtDigit.mask_pos : 0 < s.mask.toNat := by
  rw [h.mask]
  exact Nat.pow_pos (baseOf_pos hx)

/-- The quotient is a digit. -/
theorem AtDigit.div_lt : s.num.toNat / s.mask.toNat < baseOf hx := by
  rw [Nat.div_lt_iff_lt_mul h.mask_pos, h.mask, Nat.mul_comm, ← Nat.pow_succ]
  exact h.num_lt

/-- At any time the digit counted so far is below the base. -/
theorem AtDigit.dgt_lt (fuel : Nat) : (dgtLoop s.mask fuel s.num 0).2.toNat < baseOf hx := by
  have hbase : baseOf hx ≤ 16 := by cases hx <;> decide
  have hdiv := h.div_lt
  rw [(dgtLoop_eq h.mask_pos fuel s.num 0).2, BitVec.ofNat_eq_ofNat, BitVec.zero_add,
    BitVec.toNat_ofNat]
  refine Nat.lt_of_le_of_lt (Nat.mod_le _ _) ?_
  omega

/-- In 16 rounds the inner loop divides by the mask. -/
theorem AtDigit.dgtLoop_div :
    (dgtLoop s.mask 16 s.num 0).1.toNat = s.num.toNat % s.mask.toNat ∧
      (dgtLoop s.mask 16 s.num 0).2 = BitVec.ofNat 8 (s.num.toNat / s.mask.toNat) := by
  have hbase : baseOf hx ≤ 16 := by cases hx <;> decide
  have hdiv := h.div_lt
  obtain ⟨hnum, hdgt⟩ := dgtLoop_eq h.mask_pos 16 s.num 0
  have hmin : min 16 (s.num.toNat / s.mask.toNat) = s.num.toNat / s.mask.toNat := by omega
  rw [hmin] at hnum hdgt
  constructor
  · rw [hnum, Nat.mod_eq_sub_div_mul]
  · rw [hdgt, BitVec.ofNat_eq_ofNat, BitVec.zero_add]

end

/-! ### The outer loop -/

/-- The next mask is the mask over the base. -/
theorem toNat_nextMask (hx : Bool) (mask : U32) :
    (if hx then mask >>> 4 else mask / 10).toNat = mask.toNat / baseOf hx := by
  cases hx with
  | false => simp [baseOf]
  | true => simp [baseOf, Nat.shiftRight_eq_div_pow]

/-- The characters of the digit loop are those of the text. -/
theorem dgtChar_ofNat (uc : U8) {d : Nat} (hd : d < 16) :
    dgtChar uc (BitVec.ofNat 8 d) = digitChar uc d := by
  have hmod : d % 256 = d := Nat.mod_eq_of_lt (by omega)
  by_cases hten : d < 10
  · have hlt : BitVec.ofNat 8 d < 10 := by
      rw [BitVec.lt_def, BitVec.toNat_ofNat]
      show d % 256 < 10
      omega
    rw [dgtChar, if_pos hlt, digitChar, if_pos hten, BitVec.add_comm]
  · have hge : ¬ BitVec.ofNat 8 d < 10 := by
      rw [BitVec.lt_def, BitVec.toNat_ofNat]
      show ¬ d % 256 < 10
      omega
    rw [dgtChar, if_neg hge, digitChar, if_neg hten]
    bv_omega

/-- A round of the outer loop: the digit is written unless it is a leading zero. -/
theorem maskRound_eq {hx : Bool} {k : Nat} {s : DigitState} (h : AtDigit hx k s) (uc : U8) :
    let d := s.num.toNat / baseOf hx ^ k
    let s' := maskRound hx uc s
    s'.mask.toNat = baseOf hx ^ k / baseOf hx ∧ s'.num.toNat = s.num.toNat % baseOf hx ^ k ∧
      s'.zs = (s.zs || d != 0) ∧
      s'.bf = s.bf ++ if s.zs || d != 0 then [digitChar uc d] else [] := by
  intro d s'
  obtain ⟨hnum, hdgt⟩ := h.dgtLoop_div
  have hd : d < 16 := by
    have hdiv := h.div_lt
    rw [h.mask] at hdiv
    exact Nat.lt_of_lt_of_le hdiv (by cases hx <;> decide)
  rw [h.mask] at hnum hdgt
  -- The digit is written if one was before, or if it is not zero.
  have hwritten : (s.zs = true ∨ (dgtLoop s.mask 16 s.num 0).2 > 0)
      ↔ (s.zs || d != 0) = true := by
    rw [hdgt, gt_iff_lt, BitVec.lt_def, BitVec.toNat_ofNat,
      Nat.mod_eq_of_lt (show d < 2 ^ 8 by omega), Bool.or_eq_true, bne_iff_ne]
    exact or_congr_right Nat.pos_iff_ne_zero
  refine ⟨?_, hnum, ?_, ?_⟩
  · show (if hx then s.mask >>> 4 else s.mask / 10).toNat = _
    rw [toNat_nextMask, h.mask]
  · show (if s.zs = true ∨ (dgtLoop s.mask 16 s.num 0).2 > 0 then true else s.zs) = _
    by_cases hw : (s.zs || d != 0) = true
    · rw [if_pos (hwritten.mpr hw), hw]
    · rw [if_neg (mt hwritten.mp hw), Bool.eq_false_iff.mpr hw]
      exact (Bool.or_eq_false_iff.mp (Bool.eq_false_iff.mpr hw)).1
  · show (if s.zs = true ∨ (dgtLoop s.mask 16 s.num 0).2 > 0 then
      s.bf ++ [dgtChar uc (dgtLoop s.mask 16 s.num 0).2] else s.bf) = _
    by_cases hw : (s.zs || d != 0) = true
    · rw [if_pos (hwritten.mpr hw), if_pos hw, hdgt, dgtChar_ofNat uc hd]
    · rw [if_neg (mt hwritten.mp hw), if_neg hw, List.append_nil]

/-- A round leaves one digit less. -/
theorem AtDigit.digitsLeft {hx : Bool} {k : Nat} {s : DigitState} (h : AtDigit hx k s)
    (uc : U8) : DigitsLeft hx k (maskRound hx uc s) := by
  obtain ⟨hmask, hnum, -, -⟩ := maskRound_eq h uc
  cases k with
  | zero =>
      show (maskRound hx uc s).mask = 0
      rw [← BitVec.toNat_inj, hmask]
      cases hx <;> rfl
  | succ k =>
      refine ⟨?_, ?_⟩
      · rw [hmask, Nat.pow_succ, Nat.mul_div_cancel _ (baseOf_pos hx)]
      · rw [hnum]
        exact Nat.mod_lt _ (Nat.pow_pos (baseOf_pos hx))

/-- So the division is by no zero. -/
theorem AtDigit.mask_ne_zero {hx : Bool} {k : Nat} {s : DigitState} (h : AtDigit hx k s) :
    s.mask ≠ 0 := by
  intro hzero
  have hpos := h.mask_pos
  rw [hzero] at hpos
  exact absurd hpos (by decide)

/-- The outer loop writes the digits that are left, without the leading zeros if none was
written before, and leaves. -/
theorem maskLoop_eq {hx : Bool} (uc : U8) (m : Nat) :
    ∀ (fuel : Nat) (s : DigitState), DigitsLeft hx m s → m ≤ fuel →
      let written := strip s.zs (fixed (baseOf hx) m s.num.toNat)
      let s' := maskLoop hx uc fuel s
      s'.mask = 0 ∧ s'.zs = (s.zs || !written.isEmpty) ∧
        s'.bf = s.bf ++ written.map (digitChar uc) := by
  induction m with
  | zero =>
      intro fuel s (hdone : s.mask = 0) _
      have hs' : maskLoop hx uc fuel s = s := by
        cases fuel with
        | zero => rfl
        | succ fuel => exact if_pos hdone
      simp [hs', hdone, fixed]
  | succ k ih =>
      intro fuel s (h : AtDigit hx k s) hfuel
      obtain ⟨fuel, rfl⟩ := Nat.exists_eq_add_one.mpr (Nat.lt_of_lt_of_le (Nat.succ_pos k) hfuel)
      -- One round writes the leading digit and leaves a shorter number.
      obtain ⟨-, hnum, hzs, hbf⟩ := maskRound_eq h uc
      obtain ⟨hmask', hzs', hbf'⟩ :=
        ih fuel (maskRound hx uc s) (h.digitsLeft uc) (Nat.le_of_succ_le_succ hfuel)
      rw [hnum, hzs] at hzs' hbf'
      rw [hbf, List.append_assoc] at hbf'
      have hloop : maskLoop hx uc (fuel + 1) s = maskLoop hx uc fuel (maskRound hx uc s) :=
        if_neg h.mask_ne_zero
      rw [hloop, fixed, strip_cons]
      refine ⟨hmask', ?_, ?_⟩
      · rw [hzs']
        cases hw : s.zs || s.num.toNat / baseOf hx ^ k != 0 with
        | true => simp
        | false =>
            have hnone : s.zs = false := (Bool.or_eq_false_iff.mp hw).1
            simp [hnone]
      · rw [hbf', List.map_append]
        cases s.zs || s.num.toNat / baseOf hx ^ k != 0 <;> rfl

/-- The states that the outer loop goes through. -/
theorem digitsLeft_maskLoop {hx : Bool} (uc : U8) (n : Nat) :
    ∀ (m : Nat) (s : DigitState), DigitsLeft hx m s →
      ∃ m', DigitsLeft hx m' (maskLoop hx uc n s) := by
  induction n with
  | zero => exact fun m s h => ⟨m, h⟩
  | succ n ih =>
      intro m s h
      by_cases hzero : s.mask = 0
      · exact ⟨m, by rwa [maskLoop, if_pos hzero]⟩
      · rw [maskLoop, if_neg hzero]
        cases m with
        | zero => exact absurd h hzero
        | succ k => exact ih k _ (AtDigit.digitsLeft h uc)

/-! ### The four conversions -/

namespace NumSpec

/-- The base of a conversion is that of its letter. -/
theorem baseOf_hexOf (spec : NumSpec) : baseOf (hexOf spec.ch) = spec.base := by
  cases spec <;> rfl

/-- Every base is more than one. -/
theorem one_lt_base (spec : NumSpec) : 1 < spec.base := by cases spec <;> decide

/-- And no more than 16. -/
theorem base_le (spec : NumSpec) : spec.base ≤ 16 := by cases spec <;> decide

/-- The digits of a 32-bit number in the base. -/
def width : NumSpec → Nat
  | d | u => 10
  | x | X => 8

/-- The magnitude of a negative number is its negation. -/
theorem natAbs_toInt_of_neg {v : U32} (h : v.toInt < 0) : (-v).toNat = v.toInt.natAbs := by
  have hlt := v.isLt
  rw [BitVec.toInt_eq_toNat_cond] at h ⊢
  rw [BitVec.toNat_neg]
  split at h <;> split <;> omega

/-- That of any other is itself. -/
theorem natAbs_toInt_of_nonneg {v : U32} (h : ¬ v.toInt < 0) : v.toNat = v.toInt.natAbs := by
  have hlt := v.isLt
  rw [BitVec.toInt_eq_toNat_cond] at h ⊢
  split at h <;> split <;> omega

/-- The loops start at the first digit of the magnitude, behind the sign. -/
theorem digitStart_eq (spec : NumSpec) (v : U32) :
    (digitStart spec.ch v).num.toNat = spec.magnitude v ∧
      (digitStart spec.ch v).zs = false ∧ (digitStart spec.ch v).bf = spec.sign v ∧
      DigitsLeft (hexOf spec.ch) spec.width (digitStart spec.ch v) := by
  -- Only `%d` looks at the sign.
  have hnegative : (spec.ch = CHAR_LOWER_D ∧ v.slt 0 = true) ↔ spec = d ∧ v.toInt < 0 := by
    rw [BitVec.slt_iff_toInt_lt]
    cases spec <;> simp [ch]
  have hleft : DigitsLeft (hexOf spec.ch) spec.width (digitStart spec.ch v) := by
    have hlt := (digitStart spec.ch v).num.isLt
    cases spec with
    | d | u => exact ⟨rfl, Nat.lt_trans hlt (by decide)⟩
    | x | X => exact ⟨rfl, hlt⟩
  refine ⟨?_, rfl, ?_, hleft⟩
  · show (if spec.ch = CHAR_LOWER_D ∧ v.slt 0 = true then -v else v).toNat = _
    by_cases hneg : spec = d ∧ v.toInt < 0
    · rw [if_pos (hnegative.mpr hneg), hneg.1]
      exact natAbs_toInt_of_neg hneg.2
    · rw [if_neg (mt hnegative.mp hneg)]
      cases spec with
      | d => exact natAbs_toInt_of_nonneg fun h => hneg ⟨rfl, h⟩
      | u | x | X => rfl
  · show (if spec.ch = CHAR_LOWER_D ∧ v.slt 0 = true then [CHAR_MINUS] else []) = _
    by_cases hneg : spec = d ∧ v.toInt < 0
    · rw [if_pos (hnegative.mpr hneg), hneg.1]
      exact (if_pos hneg.2).symm
    · rw [if_neg (mt hnegative.mp hneg)]
      cases spec with
      | d => exact (if_neg fun h => hneg ⟨rfl, h⟩).symm
      | u | x | X => rfl

/-- Every magnitude fits the digits of its conversion. -/
theorem magnitude_lt (spec : NumSpec) (v : U32) : spec.magnitude v < spec.base ^ spec.width := by
  rw [← (spec.digitStart_eq v).1]
  have hlt := (digitStart spec.ch v).num.isLt
  cases spec with
  | d | u => exact Nat.lt_trans hlt (by decide)
  | x | X => exact hlt

/-- The digit loops write the text. -/
theorem number_eq (spec : NumSpec) (v : U32) :
    (spec.rounds v 11).mask = 0 ∧ number spec.ch v = spec.text v := by
  obtain ⟨hnum, hzs, hbf, hleft⟩ := spec.digitStart_eq v
  obtain ⟨hmask, hzs', hbf'⟩ := maskLoop_eq (ucOf spec.ch) spec.width 11 _ hleft
    (by cases spec <;> decide)
  rw [hzs, hnum, baseOf_hexOf, Bool.false_or] at hzs'
  rw [hzs, hnum, hbf, baseOf_hexOf] at hbf'
  have hnumeral := trim_fixed spec.one_lt_base spec.width (spec.magnitude_lt v)
  refine ⟨hmask, ?_⟩
  rw [number, hzs', hbf', text, digits, ← hnumeral, trim]
  -- Without a digit that is not zero, the one zero comes last.
  cases strip false (fixed spec.base spec.width (spec.magnitude v)) with
  | nil => cases spec <;> simp <;> rfl
  | cons d ds => simp

/-- The text of any argument fits `buf` with its terminator. -/
theorem length_text_le (spec : NumSpec) (v : U32) : (spec.text v).length + 1 ≤ 12 := by
  have hdigits := length_numeral_le spec.one_lt_base (by cases spec <;> decide) (spec.magnitude_lt v)
  have hsign : (spec.sign v).length ≤ 1 := by
    cases spec with
    | d =>
        show (if v.toInt < 0 then [CHAR_MINUS] else []).length ≤ 1
        split <;> simp
    | u | x | X => exact Nat.zero_le 1
  have hwidth : spec.width ≤ 10 := by cases spec <;> decide
  rw [text, digits, List.length_append, List.length_map]
  omega

end NumSpec

/-- For every conversion of a number and every argument: the digit loops write the numeral of
the argument in the base, with its sign, and leave by their conditions. A digit is below the
base in every round of the inner loop, and `buf` has room. -/
theorem digits_exact (spec : NumSpec) (v : U32) : DigitsExact spec v := by
  obtain ⟨-, -, -, hleft⟩ := spec.digitStart_eq v
  obtain ⟨hmask, htext⟩ := spec.number_eq v
  have hround : ∀ n, (spec.rounds v n).mask ≠ 0 →
      ∃ k, AtDigit (hexOf spec.ch) k (spec.rounds v n) := by
    intro n hne
    obtain ⟨m, hm⟩ := digitsLeft_maskLoop (ucOf spec.ch) n _ _ hleft
    cases m with
    | zero => exact absurd hm hne
    | succ k => exact ⟨k, hm⟩
  refine ⟨htext, hmask, fun n hne => ?_, fun n m hne => ?_, ?_⟩
  · obtain ⟨k, hk⟩ := hround n hne
    rw [BitVec.lt_def, hk.dgtLoop_div.1]
    exact Nat.mod_lt _ hk.mask_pos
  · obtain ⟨k, hk⟩ := hround n hne
    rw [← spec.baseOf_hexOf]
    exact hk.dgt_lt m
  · rw [htext]
    exact spec.length_text_le v

end PikvmHid
