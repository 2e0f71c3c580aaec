import Mathlib.Data.Finset.Card
import Mathlib.Data.Fintype.Prod
import Mathlib.Tactic.FinCases
import PikvmHid.Proofs.Crc

/-!
# `PikvmHid.Proofs.CommandCheck`: corrupted commands

The code word of a binary frame is eight bytes: six bytes and their `crc16`, high byte
first. `syndrome e` is what an error pattern `e` leaves of the comparison of
`handle_pikvm_command`, and the comparison fails exactly if it is not zero. It is linear,
and a single flipped bit leaves a member of the orbit of `0x8000` under the shift: which
one, `orbitIndex` says for the byte order of the frame.

* One or three flipped bits leave an odd number of ones.
* Two flipped bits leave two different members of the orbit.
* Flipped bits in a single byte leave the digest of a changed word, or the byte itself.

So `corrupted_rejected`: a frame with at most three flipped bits, or with flipped bits in
one byte only, has no effect but the response `RESP_CRC_ERROR`.
-/

set_option autoImplicit false

namespace PikvmHid

open Lib.ShiftRegister

/-- An error pattern over the bytes of a frame: a one is a flipped bit. -/
abbrev ErrorPattern := Fin 8 → U8

/-- The flipped bits, as byte and bit. -/
def errorBits (e : ErrorPattern) : Finset (Fin 8 × Fin 8) :=
  Finset.univ.filter fun p => (e p.1).getLsbD p.2 = true

/-- The frame with the pattern over its eight bytes. -/
def corrupt (f : Buffer) (e : ErrorPattern) : Buffer := fun i =>
  if h : i < 8 then f i ^^^ e ⟨i, h⟩ else f i

/-- What the pattern leaves of the comparison. -/
def syndrome (e : ErrorPattern) : U16 :=
  digest polinom 0 [e 0, e 1, e 2, e 3, e 4, e 5] ^^^ (e 6 ++ e 7)

/-- The comparison on a corrupted frame reads the syndrome only. -/
theorem crc16_corrupt_iff {f : Buffer} (hcrc : crc16 f 6 = f 6 ++ f 7) (e : ErrorPattern) :
    crc16 (corrupt f e) 6 = corrupt f e 6 ++ corrupt f e 7 ↔ syndrome e = 0 := by
  have hbytes : (corrupt f e).bytes 6
      = List.zipWith (· ^^^ ·) (f.bytes 6) [e 0, e 1, e 2, e 3, e 4, e 5] := rfl
  have hchange : crc16 (corrupt f e) 6
      = crc16 f 6 ^^^ digest polinom 0 [e 0, e 1, e 2, e 3, e 4, e 5] := by
    rw [crc16_eq_digest, crc16_eq_digest, hbytes]
    exact digest_change (f.bytes 6) _ rfl
  -- The checksum bytes change by the pattern itself.
  have htail : (corrupt f e 6 ++ corrupt f e 7 : U16) = (f 6 ++ f 7) ^^^ (e 6 ++ e 7) := by
    rw [BitVec.xor_append]
    rfl
  rw [hchange, htail, hcrc, BitVec.xor_right_inj, ← BitVec.xor_eq_zero_iff]
  exact Iff.rfl

/-! ### Flipped bits -/

/-- The pattern of one flipped bit. -/
def single (p : Fin 8 × Fin 8) : ErrorPattern := fun k =>
  if k = p.1 then BitVec.twoPow 8 p.2 else 0

/-- The pattern of one bit has that bit. -/
theorem getLsbD_single (p q : Fin 8 × Fin 8) :
    (single p q.1).getLsbD q.2 = decide (q = p) := by
  unfold single
  by_cases hbyte : q.1 = p.1
  · rw [if_pos hbyte, BitVec.getLsbD_twoPow, decide_eq_true p.2.isLt, Bool.true_and]
    simp only [Prod.ext_iff, hbyte, true_and, Fin.ext_iff, eq_comm]
  · rw [if_neg hbyte]
    have hne : q ≠ p := fun h => hbyte (congrArg Prod.fst h)
    rw [decide_eq_false hne]
    exact BitVec.getLsbD_zero

/-- A pattern is determined by its bits. -/
theorem errorPattern_ext {a b : ErrorPattern}
    (h : ∀ q : Fin 8 × Fin 8, (a q.1).getLsbD q.2 = (b q.1).getLsbD q.2) : a = b := by
  funext k
  refine BitVec.eq_of_getLsbD_eq fun i hi => ?_
  exact h (k, ⟨i, hi⟩)

/-- The bits of a pattern. -/
theorem mem_errorBits {e : ErrorPattern} {q : Fin 8 × Fin 8} :
    q ∈ errorBits e ↔ (e q.1).getLsbD q.2 = true := by
  simp [errorBits]

/-- The syndrome is linear. -/
theorem syndrome_xor (a b : ErrorPattern) :
    syndrome (fun k => a k ^^^ b k) = syndrome a ^^^ syndrome b := by
  have hdigest := digest_xor polinom [a 0, a 1, a 2, a 3, a 4, a 5]
    [b 0, b 1, b 2, b 3, b 4, b 5] rfl 0 0
  have hzip : digest polinom 0 [a 0 ^^^ b 0, a 1 ^^^ b 1, a 2 ^^^ b 2, a 3 ^^^ b 3, a 4 ^^^ b 4,
      a 5 ^^^ b 5] = digest polinom 0 [a 0, a 1, a 2, a 3, a 4, a 5]
        ^^^ digest polinom 0 [b 0, b 1, b 2, b 3, b 4, b 5] := hdigest
  unfold syndrome
  rw [hzip, ← BitVec.xor_append]
  ac_rfl

/-- How far the bit is from the end of the register: the data bytes come before the two
bytes of the checksum, and of these the high one comes last. -/
def orbitIndex (p : Fin 8 × Fin 8) : Nat :=
  if p.1.val < 6 then 8 * (6 - p.1) + 15 - p.2
  else if p.1 = 6 then 7 - p.2
  else 15 - p.2

/-- The syndrome of one bit is the register shifted to its place. -/
theorem syndrome_single (p : Fin 8 × Fin 8) :
    syndrome (single p) = (shift polinom)^[orbitIndex p] 0x8000 := by
  revert p
  decide +kernel

/-- There are 64 places. -/
theorem orbitIndex_lt (p : Fin 8 × Fin 8) : orbitIndex p < 64 := by
  revert p
  decide +kernel

/-- Different bits are at different places. -/
theorem orbitIndex_injective : Function.Injective orbitIndex := by
  unfold Function.Injective
  decide +kernel

/-- The orbit of the top bit does not close within the length of a frame. -/
theorem orbit_open : ∀ m < 64, 0 < m → (shift polinom)^[m] 0x8000 ≠ 0x8000 := by
  decide +kernel

/-- A flipped bit leaves an odd number of ones. -/
theorem parity_syndrome_single (p : Fin 8 × Fin 8) : parity (syndrome (single p)) = true := by
  rw [syndrome_single, parity_iterate_shift polinom parity_polinom]
  decide

/-- Two flipped bits leave different syndromes. -/
theorem syndrome_single_ne {p q : Fin 8 × Fin 8} (h : p ≠ q) :
    syndrome (single p) ≠ syndrome (single q) := by
  rw [syndrome_single, syndrome_single]
  exact iterate_shift_ne polinom msb_polinom (fun m hm hlt => orbit_open m hlt hm)
    (orbitIndex_lt p) (orbitIndex_lt q) fun heq => h (orbitIndex_injective heq)

/-- The bits of a pattern with two flipped bits, and one more. -/
theorem eq_single_xor {e : ErrorPattern} {p q : Fin 8 × Fin 8} (hpq : p ≠ q)
    (h : errorBits e = {p, q}) : e = fun k => single p k ^^^ single q k := by
  refine errorPattern_ext fun x => ?_
  have hx : (e x.1).getLsbD x.2 = true ↔ x = p ∨ x = q := by
    rw [← mem_errorBits, h]
    simp
  rw [BitVec.getLsbD_xor, getLsbD_single, getLsbD_single, Bool.eq_iff_iff, hx]
  by_cases hp : x = p
  · have hq : x ≠ q := fun hq => hpq (hp.symm.trans hq)
    simp [hp, hpq]
  · simp [hp]

/-- A pattern of three bits is the sum of their patterns. -/
theorem eq_single_xor_xor {e : ErrorPattern} {p q r : Fin 8 × Fin 8} (hpq : p ≠ q)
    (hpr : p ≠ r) (hqr : q ≠ r) (h : errorBits e = {p, q, r}) :
    e = fun k => single p k ^^^ (single q k ^^^ single r k) := by
  refine errorPattern_ext fun x => ?_
  have hx : (e x.1).getLsbD x.2 = true ↔ x = p ∨ x = q ∨ x = r := by
    rw [← mem_errorBits, h]
    simp
  rw [BitVec.getLsbD_xor, BitVec.getLsbD_xor, getLsbD_single, getLsbD_single, getLsbD_single,
    Bool.eq_iff_iff, hx]
  by_cases hp : x = p
  · simp [hp, hpq, hpr]
  · by_cases hq : x = q
    · simp [hq, hqr, hpq.symm]
    · simp [hp, hq]

/-- At most three flipped bits show. -/
theorem syndrome_ne_zero_of_card {e : ErrorPattern} (he : e ≠ 0)
    (hcard : (errorBits e).card ≤ 3) : syndrome e ≠ 0 := by
  -- The register 0 has an even number of ones.
  have hodd : ∀ s : U16, parity s = true → s ≠ 0 := by
    rintro s hs rfl
    exact absurd hs (by decide)
  have hpos : (errorBits e).card ≠ 0 := by
    intro h
    refine he (errorPattern_ext fun q => ?_)
    have hq : q ∉ errorBits e := by
      rw [Finset.card_eq_zero.mp h]
      exact Finset.notMem_empty q
    rw [mem_errorBits, Bool.not_eq_true] at hq
    rw [hq]
    exact BitVec.getLsbD_zero.symm
  have hcases : (errorBits e).card = 1 ∨ (errorBits e).card = 2 ∨ (errorBits e).card = 3 := by
    omega
  rcases hcases with h | h | h
  · -- One bit: a member of the orbit, with an odd number of ones.
    obtain ⟨p, hp⟩ := Finset.card_eq_one.mp h
    have hep : e = single p := by
      refine errorPattern_ext fun x => ?_
      rw [getLsbD_single, Bool.eq_iff_iff, ← mem_errorBits, hp]
      simp
    rw [hep]
    exact hodd _ (parity_syndrome_single p)
  · -- Two bits: two different members of the orbit.
    obtain ⟨p, q, hpq, hset⟩ := Finset.card_eq_two.mp h
    rw [eq_single_xor hpq hset, syndrome_xor]
    exact fun hzero => syndrome_single_ne hpq (BitVec.xor_eq_zero_iff.mp hzero)
  · -- Three bits: an odd number of odd members.
    obtain ⟨p, q, r, hpq, hpr, hqr, hset⟩ := Finset.card_eq_three.mp h
    rw [eq_single_xor_xor hpq hpr hqr hset, syndrome_xor, syndrome_xor]
    refine hodd _ ?_
    simp only [parity_xor, parity_syndrome_single]
    rfl

/-- The pattern of flipped bits in one byte. -/
def byteError (i : Fin 8) (x : U8) : ErrorPattern := fun k => if k = i then x else 0

/-- Flipped bits in one byte show. In a data byte they change one word of the digest, in a
checksum byte they change what the digest is compared with. -/
theorem syndrome_byteError_ne_zero (i : Fin 8) {x : U8} (hx : x ≠ 0) :
    syndrome (byteError i x) ≠ 0 := by
  -- A data byte is a word of the digest, between zeros.
  have hdata : ∀ pre post : List U8, digest polinom 0 (pre ++ 0 :: post) = 0 →
      digest polinom 0 (pre ++ x :: post) ^^^ ((0 : U8) ++ (0 : U8)) ≠ 0 := by
    intro pre post hzero h
    have hdigest : digest polinom 0 (pre ++ x :: post) = 0 := BitVec.xor_eq_zero_iff.mp h
    exact digest_word_ne polinom (by decide) msb_polinom 0 pre post hx (hdigest.trans hzero.symm)
  -- A checksum byte is compared with the digest of six zeros, which is zero.
  have hcheck : ∀ hi lo : U8, hi ≠ 0 ∨ lo ≠ 0 →
      digest polinom 0 [0, 0, 0, 0, 0, (0 : U8)] ^^^ (hi ++ lo) ≠ 0 := by
    intro hi lo hne h
    have hzero : digest polinom 0 [0, 0, 0, 0, 0, (0 : U8)] = 0 := by decide +kernel
    have hbytes : (hi ++ lo : U16) = 0 := by
      rw [hzero] at h
      exact (BitVec.xor_eq_zero_iff.mp h).symm
    have hsum := congrArg BitVec.toNat hbytes
    rw [toNat_bytes, show (0 : U16).toNat = 0 from rfl] at hsum
    rcases hne with hne | hne
    · exact hne (BitVec.eq_of_toNat_eq (by show hi.toNat = 0; omega))
    · exact hne (BitVec.eq_of_toNat_eq (by show lo.toNat = 0; omega))
  fin_cases i
  · exact hdata [] [0, 0, 0, 0, 0] (by decide +kernel)
  · exact hdata [0] [0, 0, 0, 0] (by decide +kernel)
  · exact hdata [0, 0] [0, 0, 0] (by decide +kernel)
  · exact hdata [0, 0, 0] [0, 0] (by decide +kernel)
  · exact hdata [0, 0, 0, 0] [0] (by decide +kernel)
  · exact hdata [0, 0, 0, 0, 0] [] (by decide +kernel)
  · exact hcheck x 0 (Or.inl hx)
  · exact hcheck 0 x (Or.inr hx)

/-- At most three flipped bits, or flipped bits in one byte only, show. -/
theorem syndrome_ne_zero {e : ErrorPattern} (he : e ≠ 0)
    (hpattern : (errorBits e).card ≤ 3 ∨ ∃ i, ∀ k, k ≠ i → e k = 0) : syndrome e ≠ 0 := by
  rcases hpattern with hcard | ⟨i, hi⟩
  · exact syndrome_ne_zero_of_card he hcard
  · have heq : e = byteError i (e i) := by
      funext k
      unfold byteError
      by_cases hk : k = i
      · rw [if_pos hk, hk]
      · rw [if_neg hk, hi k hk]
    rw [heq]
    refine syndrome_byteError_ne_zero i fun hzero => he ?_
    rw [heq, hzero]
    funext k
    unfold byteError
    split <;> rfl

/-! ### The reject path -/

/-- A frame that fails the checksum comparison: no report, the response, and of the statics
only the code to repeat. -/
theorem handlePikvmCommand_of_crcError (env : HandlerEnv) (st : KvmState) {cmdBuf : Buffer}
    {cmdLen : Nat} (h : headerCheck cmdBuf cmdLen = RESP_CRC_ERROR) :
    handlePikvmCommand env st cmdBuf cmdLen
      = ⟨{ st with prevCode := RESP_CRC_ERROR }, [],
          withCrc [MAGIC_RESP, RESP_CRC_ERROR, 0, 0, 0, 0]⟩ := by
  have hne : RESP_CRC_ERROR ≠ RESP_NONE := by decide
  have hcode : RESP_CRC_ERROR ≠ 0 := by decide
  simp only [handlePikvmCommand, h, if_neg hne, sendUartRsp, if_neg hcode]
  rfl

/-- A code word with at most three flipped bits, or with flipped bits in one byte only, is
rejected without effect: no report, the statics unchanged but for the code to repeat, and
the response `RESP_CRC_ERROR`. -/
theorem corrupted_rejected (f : Buffer)
    (hcrc : f 6 = highByte (crc16 f 6) ∧ f 7 = lowByte (crc16 f 6)) (e : ErrorPattern)
    (he : e ≠ 0) (hpattern : (errorBits e).card ≤ 3 ∨ ∃ i, ∀ k, k ≠ i → e k = 0)
    (env : HandlerEnv) (st : KvmState) :
    handlePikvmCommand env st (corrupt f e) 8
      = ⟨{ st with prevCode := RESP_CRC_ERROR }, [],
          withCrc [MAGIC_RESP, RESP_CRC_ERROR, 0, 0, 0, 0]⟩ := by
  have hword : crc16 f 6 = f 6 ++ f 7 := by
    rw [hcrc.1, hcrc.2, highByte_append_lowByte]
  refine handlePikvmCommand_of_crcError env st ((headerCheck_eq_crcError_iff _ _).mpr ?_)
  rw [Ne, crc16_corrupt_iff hword]
  exact syndrome_ne_zero he hpattern

/-- A ping with the three lowest bits of its command code flipped. -/
theorem corrupted_rejected_ping :
    handlePikvmCommand ⟨.zero, fun _ => true⟩ .boot
        (corrupt (.ofList [0x33, 0x01, 0, 0, 0, 0, 0x18, 0x38] .zero) (byteError 1 0x07)) 8
      = ⟨{ KvmState.boot with prevCode := RESP_CRC_ERROR }, [],
          withCrc [MAGIC_RESP, RESP_CRC_ERROR, 0, 0, 0, 0]⟩ :=
  corrupted_rejected (.ofList [0x33, 0x01, 0, 0, 0, 0, 0x18, 0x38] .zero) (by decide +kernel)
    (byteError 1 0x07) (by decide) (Or.inl (by decide +kernel)) ⟨.zero, fun _ => true⟩ .boot

end PikvmHid
