import PikvmHid.Proofs.Crc
import PikvmHid.Spec.Keyboard

/-!
# `PikvmHid.Proofs.KeyReports`: checksums of keyboard reports

`handle_pikvm_command` keeps the checksum of the last report in place of the report, and 0
for none. A keyboard report has two bytes that vary, 16 bits apart in the register, so the
register that starts with a difference `d` of the modifier bytes must be back in its low
byte after 16 shifts for the key byte to cancel it. `iterate_shift_byte` says for which
`d` it is.

* `reportCrc_eq_iff`: the checksums are equal if the reports are equal or `Alias`.
* `reportCrc_ne_zero`: no keyboard report has the checksum 0.
-/

set_option autoImplicit false

namespace PikvmHid

open Lib.ShiftRegister

/-- The checksum of a report. -/
def reportCrc (report : List U8) : U16 := digest polinom 0xFFFF report

/-- The CRC the filter keeps is that of the report. -/
theorem crc16_eq_reportCrc (data : Buffer) :
    crc16 data HID_KB_REPORT_BYTE = reportCrc (data.bytes HID_KB_REPORT_BYTE) :=
  crc16_eq_digest data HID_KB_REPORT_BYTE

/-- A byte that is shifted sixteen times is a byte again exactly if it has an even number
of ones and none at bits 0 and 1. Then it is itself, shifted by one and by two. -/
theorem iterate_shift_byte (d : U8) :
    if d &&& 3 = 0 ∧ parity d = false then
      (shift polinom)^[16] (d.setWidth 16) = ((d >>> 1) ^^^ (d >>> 2)).setWidth 16
    else 256 ≤ ((shift polinom)^[16] (d.setWidth 16)).toNat := by
  revert d
  decide +kernel

/-- The register after the three bytes that carry something, from the start value. -/
theorem digest_three (c : U16) (m k : U8) :
    digest polinom c [m, 0, k]
      = (shift polinom)^[8] ((shift polinom)^[16] (c ^^^ m.setWidth 16) ^^^ k.setWidth 16) := by
  have hzero : (shift polinom)^[8] (c ^^^ m.setWidth 16) ^^^ (0 : U8).setWidth 16
      = (shift polinom)^[8] (c ^^^ m.setWidth 16) := BitVec.xor_zero
  have hsixteen : (shift polinom)^[8] ((shift polinom)^[8] (c ^^^ m.setWidth 16))
      = (shift polinom)^[16] (c ^^^ m.setWidth 16) :=
    (Function.iterate_add_apply (shift polinom) 8 8 _).symm
  rw [digest_cons, digest_cons, digest_cons, digest_nil, absorb, absorb, absorb, hzero,
    hsixteen]

/-- The bytes behind the key are zero: they shift the register and lose nothing. -/
theorem digest_keyReport_inj (c : U16) (m k m' k' : U8) :
    digest polinom c (keyReport m k) = digest polinom c (keyReport m' k') ↔
      digest polinom c [m, 0, k] = digest polinom c [m', 0, k'] := by
  have hsplit : ∀ m k, digest polinom c (keyReport m k)
      = digest polinom (digest polinom c [m, 0, k]) [0, 0, 0, 0, 0] :=
    fun m k => digest_append polinom c [m, 0, k] [0, 0, 0, 0, 0]
  rw [hsplit, hsplit]
  exact (digest_left_injective polinom msb_polinom [0, 0, 0, 0, 0]).eq_iff

/-- The register is zero after a difference of reports exactly if the key byte cancels
what the modifier byte leaves. -/
theorem digest_three_eq_zero_iff (d e : U8) :
    digest polinom 0 [d, 0, e] = 0 ↔
      d &&& 3 = 0 ∧ parity d = false ∧ e = (d >>> 1) ^^^ (d >>> 2) := by
  have hshift : digest polinom 0 [d, 0, e] = 0 ↔
      (shift polinom)^[16] (d.setWidth 16) = e.setWidth 16 := by
    rw [digest_three, ← BitVec.xor_eq_zero_iff (x := (shift polinom)^[16] _),
      show (0 ^^^ d.setWidth 16 : U16) = d.setWidth 16 from BitVec.zero_xor]
    constructor
    · intro h
      by_contra hne
      exact iterate_shift_ne_zero polinom msb_polinom 8 hne h
    · intro h
      rw [h]
      exact iterate_shift_zero polinom 8
  have hbyte := iterate_shift_byte d
  rw [hshift]
  by_cases hd : d &&& 3 = 0 ∧ parity d = false
  · -- What the modifier byte leaves is one byte, and the key byte is that byte.
    rw [if_pos hd] at hbyte
    rw [hbyte]
    constructor
    · intro h
      exact ⟨hd.1, hd.2, (setWidth_injective (by decide) h).symm⟩
    · rintro ⟨-, -, rfl⟩
      rfl
  · -- Something is left above the key byte.
    rw [if_neg hd] at hbyte
    constructor
    · intro h
      rw [h, BitVec.toNat_setWidth] at hbyte
      have := e.isLt
      omega
    · rintro ⟨h1, h2, -⟩
      exact absurd ⟨h1, h2⟩ hd

/-- The bytes that an alias compares. -/
theorem alias_keyReport_iff (m k m' k' : U8) : Alias (keyReport m k) (keyReport m' k') ↔
    m ^^^ m' ≠ 0 ∧ (m ^^^ m') &&& 3 = 0 ∧ parity (m ^^^ m') = false ∧
      k ^^^ k' = ((m ^^^ m') >>> 1) ^^^ ((m ^^^ m') >>> 2) := by
  simp only [Alias, keyReport, List.getD_cons_zero, List.getD_cons_succ]

/-- Two keyboard reports have one checksum exactly if they are equal or `Alias`. -/
theorem reportCrc_eq_iff (m k m' k' : U8) :
    reportCrc (keyReport m k) = reportCrc (keyReport m' k') ↔
      keyReport m k = keyReport m' k' ∨ Alias (keyReport m k) (keyReport m' k') := by
  -- The second report is the first one with a change, and the change has its own digest.
  have hchange := digest_change [m, 0, k] [m ^^^ m', 0, k ^^^ k'] rfl
  have hzip : List.zipWith (· ^^^ ·) [m, 0, k] [m ^^^ m', 0, k ^^^ k'] = [m', 0, k'] := by
    have hcancel : ∀ a b : U8, a ^^^ (a ^^^ b) = b := by
      intro a b
      rw [← BitVec.xor_assoc, BitVec.xor_self, BitVec.zero_xor]
    show [m ^^^ (m ^^^ m'), 0 ^^^ 0, k ^^^ (k ^^^ k')] = [m', 0, k']
    rw [hcancel, hcancel]
    rfl
  have hself : ∀ x y : U16, x ^^^ y = x ↔ y = 0 := by
    intro x y
    rw [← BitVec.xor_right_inj x, ← BitVec.xor_assoc, BitVec.xor_self, BitVec.zero_xor]
    exact Iff.rfl
  rw [hzip] at hchange
  rw [reportCrc, reportCrc, digest_keyReport_inj, hchange, eq_comm, hself,
    digest_three_eq_zero_iff, alias_keyReport_iff]
  by_cases hm : m ^^^ m' = 0
  · -- Equal modifier bytes leave nothing to cancel, so the key bytes are equal too.
    have hmm : m = m' := BitVec.xor_eq_zero_iff.mp hm
    subst hmm
    simp [keyReport, parity, parityUpTo]
  · have hne : keyReport m k ≠ keyReport m' k' := by
      intro h
      exact hm (BitVec.xor_eq_zero_iff.mpr (List.cons.inj h).1)
    simp only [hne, hm, false_or, ne_eq, not_false_eq_true, true_and]

/-- No keyboard report has the checksum 0, which stands for none. -/
theorem reportCrc_ne_zero (m k : U8) : reportCrc (keyReport m k) ≠ 0 := by
  -- From the start value, every modifier byte leaves something above the key byte.
  have hbyte : ∀ m : U8, 256 ≤ ((shift polinom)^[16] (0xFFFF ^^^ m.setWidth 16)).toNat := by
    decide +kernel
  intro h
  have hzero : digest polinom 0xFFFF [m, 0, k] = 0 := by
    have hsplit : reportCrc (keyReport m k)
        = digest polinom (digest polinom 0xFFFF [m, 0, k]) [0, 0, 0, 0, 0] :=
      digest_append polinom 0xFFFF [m, 0, k] [0, 0, 0, 0, 0]
    have hzeros : (0 : U16) = digest polinom 0 [(0 : U8), 0, 0, 0, 0] := by decide +kernel
    exact digest_left_injective polinom msb_polinom _ (hsplit.symm.trans (h.trans hzeros))
  rw [digest_three] at hzero
  have hcancel : (shift polinom)^[16] (0xFFFF ^^^ m.setWidth 16) = k.setWidth 16 := by
    by_contra hne
    exact iterate_shift_ne_zero polinom msb_polinom 8 (mt BitVec.xor_eq_zero_iff.mp hne) hzero
  have hlt := hbyte m
  rw [hcancel, BitVec.toNat_setWidth] at hlt
  have := k.isLt
  omega

end PikvmHid
