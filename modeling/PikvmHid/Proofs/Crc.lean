import PikvmHid.App.HidPikvm
import PikvmHid.Lib.ShiftRegister

/-!
# `PikvmHid.Proofs.Crc`: `crc16` as a shift register

`crc16` is the digest of `PikvmHid.Lib.ShiftRegister` for the polynomial `0xA001` from the
register `0xFFFF`. So it is linear in exclusive or (`digest_change`), and the checksum
of a frame holds exactly if the register and the two bytes, high byte first, are the same
16 bits (`headerCheck_eq_crcError_iff`). A frame made by `withCrc` passes
(`headerCheck_withCrc`).
-/

set_option autoImplicit false

namespace PikvmHid

open Lib.ShiftRegister

/-- `polinom` of `crc16`. -/
abbrev polinom : U16 := 0xA001

/-- The polynomial has its top bit, so shifting loses nothing. -/
theorem msb_polinom : polinom.msb = true := by decide

/-- It has odd weight, so shifting keeps the parity. -/
theorem parity_polinom : parity polinom = true := by decide

/-- The low bit, as the bit loop tests it. -/
theorem and_one_eq_zero_iff (crc : U16) : crc &&& 0x0001 = 0 ↔ crc.getLsbD 0 = false := by
  have h : crc &&& 1#16 = (BitVec.ofBool (crc.getLsbD 0)).setWidth 16 :=
    BitVec.and_one_eq_setWidth_ofBool_getLsbD
  rw [show (0x0001 : U16) = 1#16 from rfl, h]
  cases crc.getLsbD 0 <;> decide

/-- The bit loop shifts. -/
theorem bits_eq_iterate_shift (n : Nat) (crc : U16) :
    crc16.bits n crc = (shift polinom)^[n] crc := by
  induction n generalizing crc with
  | zero => rfl
  | succ n ih =>
      rw [Function.iterate_succ, Function.comp, crc16.bits, shift]
      -- The code tests the bit before it shifts, the library takes it as it falls out.
      by_cases hlow : crc &&& 0x0001 = 0
      · rw [if_pos hlow, ih, (and_one_eq_zero_iff crc).mp hlow]
        rfl
      · have hbit : crc.getLsbD 0 = true := by
          cases h : crc.getLsbD 0 with
          | false => exact absurd ((and_one_eq_zero_iff crc).mpr h) hlow
          | true => rfl
        rw [if_neg hlow, ih, hbit]
        rfl

/-- `crc16` is a digest. -/
theorem crc16_eq_digest (buffer : Buffer) (length : Nat) :
    crc16 buffer length = digest polinom 0xFFFF (buffer.bytes length) := by
  have hstep : crc16.step = absorb (v := 8) polinom := by
    funext crc b
    exact bits_eq_iterate_shift 8 (crc ^^^ b.setWidth 16)
  rw [crc16, hstep]
  rfl

/-- The digest of a changed message differs from the old one by the digest of the change
from a zero register. -/
theorem digest_change (bytes change : List U8) (hlen : bytes.length = change.length) :
    digest polinom 0xFFFF (List.zipWith (· ^^^ ·) bytes change)
      = digest polinom 0xFFFF bytes ^^^ digest polinom 0 change := by
  have h := digest_xor polinom bytes change hlen 0xFFFF 0
  rwa [show (0xFFFF ^^^ 0 : U16) = 0xFFFF from rfl] at h

/-! ### The two bytes of a checksum -/

/-- The number of two bytes, the high one first. -/
theorem toNat_bytes (hi lo : U8) : (hi ++ lo : U16).toNat = hi.toNat * 256 + lo.toNat := by
  rw [BitVec.toNat_append, ← Nat.shiftLeft_add_eq_or_of_lt lo.isLt, Nat.shiftLeft_eq]

/-- The low byte as a remainder. -/
theorem toNat_and_low (crc : U16) : (crc &&& 0xFF).toNat = crc.toNat % 256 := by
  rw [BitVec.toNat_and]
  exact Nat.and_two_pow_sub_one_eq_mod crc.toNat 8

/-- The high byte as a quotient. -/
theorem toNat_shiftRight_byte (crc : U16) : (crc >>> 8).toNat = crc.toNat / 256 := by
  rw [BitVec.toNat_ushiftRight, Nat.shiftRight_eq_div_pow]

/-- The comparison of `handle_pikvm_command`: the register is the two bytes, high byte
first. -/
theorem crc_bytes_iff (crc : U16) (hi lo : U8) :
    (crc &&& 0xFF = lo.setWidth 16 ∧ crc >>> 8 = hi.setWidth 16) ↔ crc = hi ++ lo := by
  have hhi := hi.isLt
  have hlo := lo.isLt
  simp only [← BitVec.toNat_inj, toNat_and_low, toNat_shiftRight_byte, toNat_bytes,
    BitVec.toNat_setWidth]
  constructor
  · rintro ⟨h1, h2⟩
    omega
  · intro h
    omega

/-- A register is its high and its low byte. -/
theorem highByte_append_lowByte (crc : U16) : (highByte crc ++ lowByte crc : U16) = crc := by
  have hlt := crc.isLt
  rw [← BitVec.toNat_inj, toNat_bytes, highByte, lowByte, BitVec.toNat_setWidth,
    BitVec.toNat_setWidth, toNat_and_low, toNat_shiftRight_byte]
  omega

/-- The high byte of two. -/
theorem highByte_append (hi lo : U8) : highByte (hi ++ lo) = hi := by
  have hhi := hi.isLt
  have hlo := lo.isLt
  rw [← BitVec.toNat_inj, highByte, BitVec.toNat_setWidth, toNat_shiftRight_byte, toNat_bytes]
  omega

/-- The low byte of two. -/
theorem lowByte_append (hi lo : U8) : lowByte (hi ++ lo) = lo := by
  have hlo := lo.isLt
  rw [← BitVec.toNat_inj, lowByte, BitVec.toNat_setWidth, toNat_and_low, toNat_bytes]
  omega

/-- With its checksum in bytes 6 and 7, a frame is checked for its first byte and its
length. -/
theorem headerCheck_of_crc {cmdBuf : Buffer} (h : crc16 cmdBuf 6 = cmdBuf 6 ++ cmdBuf 7)
    (cmdLen : Nat) : headerCheck cmdBuf cmdLen
      = if cmdBuf 0 ≠ MAGIC ∨ cmdLen ≠ 8 then RESP_INVALID_ERROR else RESP_NONE := by
  obtain ⟨hlo, hhi⟩ := (crc_bytes_iff _ _ _).mpr h
  have hsum : ¬ (crc16 cmdBuf 6 &&& 0xFF ≠ (cmdBuf 7).setWidth 16
      ∨ crc16 cmdBuf 6 >>> 8 ≠ (cmdBuf 6).setWidth 16) := by
    rw [not_or, not_not, not_not]
    exact ⟨hlo, hhi⟩
  rw [headerCheck, if_neg hsum]

/-- The check of `handle_pikvm_command` fails exactly if bytes 6 and 7 are not the
checksum of the first six. -/
theorem headerCheck_eq_crcError_iff (cmdBuf : Buffer) (cmdLen : Nat) :
    headerCheck cmdBuf cmdLen = RESP_CRC_ERROR ↔ crc16 cmdBuf 6 ≠ cmdBuf 6 ++ cmdBuf 7 := by
  by_cases h : crc16 cmdBuf 6 = cmdBuf 6 ++ cmdBuf 7
  · -- The other check has another code.
    rw [headerCheck_of_crc h]
    refine iff_of_false ?_ (not_not_intro h)
    split <;> decide
  · refine iff_of_true ?_ h
    rw [← crc_bytes_iff, not_and_or] at h
    rw [headerCheck, if_pos h]

/-! ### Frames with a checksum -/

/-- The checksum of a frame reads its first six bytes only. -/
theorem crc16_withCrc {head : List U8} (hlen : head.length = 6) (rest : Buffer) :
    crc16 (Buffer.ofList (withCrc head) rest) 6 = crc16 (Buffer.ofList head .zero) 6 := by
  have hbytes : (Buffer.ofList (withCrc head) rest).bytes 6
      = (Buffer.ofList head .zero).bytes 6 := by
    refine Buffer.bytes_congr fun i hi => ?_
    have hlen' : (withCrc head).length = 8 := by simp [withCrc, hlen]
    rw [Buffer.ofList_apply head _ (hlen.symm ▸ hi),
      Buffer.ofList_apply (withCrc head) _ (by omega)]
    exact List.getElem_append_left _
  rw [crc16, crc16, hbytes]

/-- A frame that starts with `MAGIC` and carries its checksum passes both checks, whatever
stands behind it. -/
theorem headerCheck_withCrc (a b c d e : U8) (rest : Buffer) :
    headerCheck (.ofList (withCrc [MAGIC, a, b, c, d, e]) rest) 8 = RESP_NONE := by
  let cmdBuf := Buffer.ofList (withCrc [MAGIC, a, b, c, d, e]) rest
  have hcrc : crc16 cmdBuf 6 = cmdBuf 6 ++ cmdBuf 7 := by
    show crc16 (.ofList (withCrc [MAGIC, a, b, c, d, e]) rest) 6 = _
    rw [crc16_withCrc rfl]
    exact (highByte_append_lowByte _).symm
  have hhead : ¬ (cmdBuf 0 ≠ MAGIC ∨ 8 ≠ 8) := by
    rintro (h | h)
    · exact h rfl
    · exact h rfl
  show headerCheck cmdBuf 8 = RESP_NONE
  rw [headerCheck_of_crc hcrc, if_neg hhead]

end PikvmHid
