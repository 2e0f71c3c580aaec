import PikvmHid.Spec.Utoa

/-!
# `PikvmHid.Proofs.Utoa`: `utoa` and `htou` are inverse

The first loop of `utoa` writes the numeral backwards (`digits_eq`), the second one reverses it
(`reverse_eq`). The loop of `htou` adds the value of the characters that are left
(`htouLoop_eq`). The rest is about numerals (`utoa_htou`).
-/

set_option autoImplicit false

namespace PikvmHid

open Lib Lib.Numeral

/-! ### `utoa` -/

/-- The value of a base. -/
def UtoaBase.nat (base : UtoaBase) : Nat := base.val.toNat

/-- Both bases are more than one. -/
theorem UtoaBase.one_lt (base : UtoaBase) : 1 < base.nat := by cases base <;> decide

/-- And no more than 16. -/
theorem UtoaBase.le_sixteen (base : UtoaBase) : base.nat ≤ 16 := by cases base <;> decide

/-- The digit the code computes. -/
theorem utoaDigit_eq {t : U32} (ht : t.toNat < 16) :
    utoa.digit t = digitChar CHAR_UPPER_A t.toNat := by
  have hall : ∀ d : Fin 16, utoa.digit (BitVec.ofNat 32 d) = digitChar CHAR_UPPER_A d := by decide
  have h := hall ⟨t.toNat, ht⟩
  rwa [BitVec.ofNat_toNat, BitVec.setWidth_eq] at h

/-- The characters of a number. -/
def utoaChars (base : UtoaBase) (n : Nat) : List U8 :=
  (numeral base.nat n).map (digitChar CHAR_UPPER_A)

section
variable (base : UtoaBase) (val : U32)

/-- Dividing by the base. -/
theorem toNat_quotient : (val / base.val).toNat = val.toNat / base.nat := BitVec.toNat_udiv

/-- The character of the last digit. -/
theorem utoaDigit_last :
    utoa.digit (val % base.val) = digitChar CHAR_UPPER_A (val.toNat % base.nat) := by
  have hmod : (val % base.val).toNat = val.toNat % base.nat := BitVec.toNat_umod
  have hlt : val.toNat % base.nat < base.nat := Nat.mod_lt _ (Nat.lt_trans (by decide) base.one_lt)
  rw [utoaDigit_eq, hmod]
  rw [hmod]
  exact Nat.lt_of_lt_of_le hlt base.le_sixteen

variable {base val}

/-- The loop stops at the last digit. -/
theorem lt_base_iff : val / base.val = 0 ↔ val.toNat < base.nat := by
  have hpos : 0 < base.nat := Nat.lt_trans (by decide) base.one_lt
  rw [← BitVec.toNat_inj, toNat_quotient]
  exact Nat.div_eq_zero_iff_lt hpos

/-- The loop ends with the only digit that is left. -/
theorem utoaChars_last (hlast : val / base.val = 0) :
    utoaChars base val.toNat = [utoa.digit (val % base.val)] := by
  have hlt := lt_base_iff.mp hlast
  rw [utoaChars, numeral_of_lt hlt, utoaDigit_last, Nat.mod_eq_of_lt hlt]
  rfl

/-- Otherwise it goes on with the digits of the quotient. -/
theorem utoaChars_concat (hmore : ¬ val / base.val = 0) :
    utoaChars base val.toNat
      = utoaChars base (val / base.val).toNat ++ [utoa.digit (val % base.val)] := by
  have hle : base.nat ≤ val.toNat := Nat.le_of_not_lt (mt lt_base_iff.mpr hmore)
  rw [utoaChars, numeral_append base.one_lt hle, utoaDigit_last, List.map_append, utoaChars,
    toNat_quotient]
  rfl

end

/-- The first loop writes the characters behind those in `tmp`, the last one first. -/
theorem digits_eq (base : UtoaBase) (room : Nat) :
    ∀ (val : U32) (idx : Nat) (tmp : Buffer), val.toNat < base.nat ^ room → 0 < room →
      ∃ tmp', utoa.digits base.val room val idx tmp
          = some (idx + (utoaChars base val.toNat).length, tmp') ∧
        tmp'.bytes (idx + (utoaChars base val.toNat).length)
          = tmp.bytes idx ++ (utoaChars base val.toNat).reverse := by
  -- On the digits that may still be needed.
  induction room with
  | zero => exact fun _ _ _ _ h => absurd h (Nat.lt_irrefl 0)
  | succ room ih =>
      intro val idx tmp hval _
      rw [utoa.digits]
      by_cases hlast : val / base.val = 0
      · rw [if_pos hlast, utoaChars_last hlast]
        exact ⟨_, rfl, Buffer.bytes_set_succ tmp idx _⟩
      · -- More digits follow, and the bound leaves room for them.
        have hroom : 0 < room := by
          rcases Nat.eq_zero_or_pos room with rfl | hpos
          · rw [Nat.zero_add, Nat.pow_one] at hval
            exact absurd (lt_base_iff.mpr hval) hlast
          · exact hpos
        have hrest : (val / base.val).toNat < base.nat ^ room := by
          have hpos : 0 < base.nat := Nat.lt_trans (by decide) base.one_lt
          rw [toNat_quotient, Nat.div_lt_iff_lt_mul hpos, ← Nat.pow_succ]
          exact hval
        obtain ⟨tmp', hdigits, hbytes⟩ :=
          ih (val / base.val) (idx + 1) (tmp.set idx (utoa.digit (val % base.val))) hrest hroom
        have hlen : idx + 1 + (utoaChars base (val / base.val).toNat).length
            = idx + (utoaChars base val.toNat).length := by
          rw [utoaChars_concat hlast, List.length_append, List.length_singleton]
          omega
        rw [Buffer.bytes_set_succ] at hbytes
        rw [hlen] at hdigits hbytes
        rw [if_neg hlast]
        refine ⟨tmp', hdigits, ?_⟩
        rw [hbytes, utoaChars_concat hlast, List.reverse_append, List.append_assoc]
        rfl

/-- The second loop writes the characters of `tmp` behind those in `buf`, the last one first. -/
theorem reverse_eq (tmp : Buffer) (idx : Nat) :
    ∀ (n : Nat) (buf : Buffer),
      let r := utoa.reverse tmp idx n buf
      r.1 = n + idx ∧ r.2.bytes (n + idx) = buf.bytes n ++ (tmp.bytes idx).reverse ∧
        ∀ i, n + idx ≤ i → r.2 i = buf i := by
  induction idx with
  | zero =>
      intro n buf
      exact ⟨rfl, by simp [utoa.reverse], fun i _ => rfl⟩
  | succ idx ih =>
      intro n buf
      obtain ⟨hn, hbytes, hrest⟩ := ih (n + 1) (buf.set n (tmp idx))
      have hsum : n + 1 + idx = n + (idx + 1) := by omega
      rw [hsum] at hn hbytes hrest
      refine ⟨hn, ?_, ?_⟩
      · rw [Buffer.bytes_set_succ] at hbytes
        rw [Buffer.bytes_succ, List.reverse_append, utoa.reverse, hbytes, List.append_assoc]
        rfl
      · intro i hi
        exact (hrest i hi).trans (Buffer.set_of_ne buf (by omega) _)

/-- `utoa` returns. It writes the characters of the number and nothing else. -/
theorem utoa_eq (tmp buf : Buffer) (v : U32) (base : UtoaBase) :
    ∃ out, utoa tmp buf v base = some ((utoaChars base v.toNat).length, out) ∧
      out.bytes (utoaChars base v.toNat).length = utoaChars base v.toNat ∧
      ∀ i, (utoaChars base v.toNat).length ≤ i → out i = buf i := by
  have hroom : v.toNat < base.nat ^ 11 := by
    have hlt := v.isLt
    cases base with
    | dec => exact Nat.lt_trans hlt (by decide)
    | hex => exact Nat.lt_trans hlt (by decide)
  obtain ⟨tmp', hdigits, htmp⟩ := digits_eq base 11 v 0 tmp hroom (by decide)
  rw [Nat.zero_add, Buffer.bytes_zero, List.nil_append] at htmp
  rw [Nat.zero_add] at hdigits
  obtain ⟨hn, hbytes, hrest⟩ := reverse_eq tmp' (utoaChars base v.toNat).length 0 buf
  rw [Nat.zero_add] at hn hbytes hrest
  rw [htmp, List.reverse_reverse, Buffer.bytes_zero, List.nil_append] at hbytes
  refine ⟨_, ?_, hbytes, hrest⟩
  rw [utoa, hdigits, Option.map_some]
  exact congrArg some (Prod.ext hn rfl)

/-! ### `htou` -/

/-- A character of either case is read as its value, and is the character of this value but for
the case. -/
theorem htouDigit_eq : ∀ ch : U8, IsHexDigit ch →
    htou.digit ch = some (BitVec.ofNat 32 (hexValue ch)) ∧ hexValue ch < 16 ∧
      digitChar CHAR_UPPER_A (hexValue ch) = toUpper ch := by decide +kernel

/-- The characters that `utoa` writes are read back. -/
theorem digitChar_hex {d : Nat} (hd : d < 16) :
    IsHexDigit (digitChar CHAR_UPPER_A d) ∧ hexValue (digitChar CHAR_UPPER_A d) = d ∧
      (digitChar CHAR_UPPER_A d = CHAR_0 ↔ d = 0) := by
  have hall : ∀ d : Fin 16, IsHexDigit (digitChar CHAR_UPPER_A d) ∧
      hexValue (digitChar CHAR_UPPER_A d) = d.val ∧
      (digitChar CHAR_UPPER_A d = CHAR_0 ↔ d.val = 0) := by decide
  exact hall ⟨d, hd⟩

/-- A shift by nibbles is a power of 16. -/
theorem one_shiftLeft (count : Nat) :
    (1 : U32) <<< (count * 4) = BitVec.ofNat 32 (16 ^ count) := by
  rw [← BitVec.toNat_inj, BitVec.toNat_shiftLeft, BitVec.toNat_ofNat, Nat.shiftLeft_eq,
    Nat.mul_comm count, Nat.pow_mul]
  exact congrArg (· % 2 ^ 32) (Nat.one_mul _)

/-- The loop adds the value of the characters from `i` on. -/
theorem htouLoop_eq (ascii : Buffer) (count : Nat) :
    ∀ (i : Nat) (ret : U32), (∀ j, i ≤ j → j < i + count → IsHexDigit (ascii j)) →
      htou.loop ascii count i ret
        = ret + BitVec.ofNat 32 (value 16 (((ascii.drop i).bytes count).map hexValue)) := by
  induction count with
  | zero =>
      intro i ret _
      exact (BitVec.add_zero ret).symm
  | succ count ih =>
      intro i ret hhex
      obtain ⟨hdigit, -, -⟩ := htouDigit_eq (ascii i) (hhex i (Nat.le_refl i) (by omega))
      have hrest := fun j hj hlt => hhex j (by omega : i ≤ j) (by omega : j < i + (count + 1))
      rw [htou.loop, hdigit]
      show htou.loop ascii count (i + 1) _ = _
      rw [ih (i + 1) _ fun j hj hlt => hrest j (by omega) (by omega), Buffer.bytes_drop_succ,
        List.map_cons, value_cons, List.length_map, Buffer.length_bytes, one_shiftLeft,
        BitVec.ofNat_add, BitVec.ofNat_mul, BitVec.add_assoc]

/-- A string of hex digits has its value. -/
theorem htou_eq (ascii : Buffer) (count : Nat) (hhex : ∀ i < count, IsHexDigit (ascii i)) :
    htou ascii count = BitVec.ofNat 32 (value 16 ((ascii.bytes count).map hexValue)) := by
  have hloop := htouLoop_eq ascii count 0 0 fun j _ hj => hhex j (by omega)
  rw [Buffer.drop_zero, BitVec.ofNat_eq_ofNat, BitVec.zero_add] at hloop
  exact hloop

/-! ### Both -/

/-- Every byte of a buffer, by index. -/
theorem Buffer.forall_mem_bytes {b : Buffer} {n : Nat} {p : U8 → Prop} :
    (∀ ch ∈ b.bytes n, p ch) ↔ ∀ i < n, p (b i) := by
  simp [Buffer.bytes]

/-- The first byte of it. -/
theorem Buffer.head?_bytes (b : Buffer) {n : Nat} (hn : 0 < n) :
    (b.bytes n).head? = some (b 0) := by
  obtain ⟨n, rfl⟩ := Nat.exists_eq_add_one.mpr hn
  simp [Buffer.bytes, List.range_succ_eq_map]

/-- A hexadecimal digit is below 16. -/
theorem numeral_hex_lt (n : Nat) : ∀ d ∈ numeral 16 n, d < 16 :=
  fun _ hd => numeral_lt (by decide) hd

/-- Reading the characters of a number. -/
theorem map_hexValue (n : Nat) : (utoaChars .hex n).map hexValue = numeral 16 n := by
  rw [utoaChars, List.map_map]
  refine (List.map_congr_left fun d hd => ?_).trans (List.map_id _)
  exact (digitChar_hex (numeral_hex_lt n d hd)).2.1

/-- A value comes back from its text. -/
theorem roundTrip (tmp buf : Buffer) (v : U32) : RoundTrip tmp buf v := by
  obtain ⟨out, hutoa, hbytes, hrest⟩ := utoa_eq tmp buf v .hex
  have hlen : (utoaChars .hex v.toNat).length = (numeral 16 v.toNat).length := List.length_map ..
  have hle : (numeral 16 v.toNat).length ≤ 8 :=
    length_numeral_le (by decide) (by decide) v.isLt
  have hpos : 0 < (numeral 16 v.toNat).length :=
    List.length_pos_iff.mpr (numeral_ne_nil v.toNat)
  have hhex : ∀ i < (utoaChars .hex v.toNat).length, IsHexDigit (out i) := by
    rw [← Buffer.forall_mem_bytes, hbytes]
    intro ch hch
    obtain ⟨d, hd, rfl⟩ := List.mem_map.mp hch
    exact (digitChar_hex (numeral_hex_lt v.toNat d hd)).1
  refine ⟨_, out, hutoa, by omega, by omega, hrest, ?_, ?_⟩
  · -- The first character is the one of the first digit.
    intro hzero
    by_contra hne
    have hhead : (numeral 16 v.toNat).head? ≠ some 0 :=
      head?_numeral_ne_zero fun h => hne (BitVec.eq_of_toNat_eq h)
    have hfirst : (utoaChars .hex v.toNat).head? = some CHAR_0 := by
      rw [← hbytes, Buffer.head?_bytes out (by omega), hzero]
    rw [utoaChars, List.head?_map, Option.map_eq_some_iff] at hfirst
    obtain ⟨d, hd, hchar⟩ := hfirst
    have hdigit := (digitChar_hex (numeral_hex_lt _ d (List.mem_of_mem_head? hd))).2.2.mp hchar
    exact hhead (hdigit ▸ hd)
  · rw [htou_eq out _ hhex, hbytes, map_hexValue, value_numeral, BitVec.ofNat_toNat,
      BitVec.setWidth_eq]

/-- The leading zeros of a string are those of its digits. -/
theorem map_strip (chars : List U8) (hhex : ∀ ch ∈ chars, IsHexDigit ch) :
    (strip false (chars.map hexValue)).map (digitChar CHAR_UPPER_A)
      = (chars.map toUpper).dropWhile (· == CHAR_0) := by
  induction chars with
  | nil => rfl
  | cons ch chars ih =>
      obtain ⟨-, hlt, hupper⟩ := htouDigit_eq ch (hhex ch List.mem_cons_self)
      have hrest := fun c' hc' => hhex c' (List.mem_cons_of_mem ch hc')
      have hzero := (digitChar_hex hlt).2.2
      rw [List.map_cons, List.map_cons, ← hupper]
      by_cases hch : hexValue ch = 0
      · rw [strip_cons, List.dropWhile_cons_of_pos (by simpa using hzero.mpr hch), ← ih hrest, hch]
        rfl
      · rw [strip_cons, List.dropWhile_cons_of_neg (by simpa using mt hzero.mp hch)]
        have hne : (hexValue ch != 0) = true := bne_iff_ne.mpr hch
        have hmap : (chars.map hexValue).map (digitChar CHAR_UPPER_A) = chars.map toUpper := by
          rw [List.map_map]
          exact List.map_congr_left fun c' hc' => (htouDigit_eq c' (hrest c' hc')).2.2
        rw [Bool.false_or, hne, ← hmap]
        rfl

/-- Trimming values is trimming characters. -/
theorem map_trim (chars : List U8) (hhex : ∀ ch ∈ chars, IsHexDigit ch) :
    (trim (chars.map hexValue)).map (digitChar CHAR_UPPER_A)
      = trimZeros (chars.map toUpper) := by
  have hstrip := map_strip chars hhex
  rw [trim, trimZeros, ← hstrip]
  by_cases hnil : strip false (chars.map hexValue) = []
  · rw [if_pos hnil, hnil]
    rfl
  · rw [if_neg hnil, if_neg fun h => hnil (List.map_eq_nil_iff.mp h)]

/-- A text comes back from its value, trimmed and in upper case. -/
theorem reencodes (tmp buf ascii : Buffer) {count : Nat} (hcount : count ≤ 8)
    (hhex : ∀ i < count, IsHexDigit (ascii i)) : Reencodes tmp buf ascii count := by
  have hmem : ∀ ch ∈ ascii.bytes count, IsHexDigit ch := Buffer.forall_mem_bytes.mpr hhex
  have hlt : ∀ d ∈ (ascii.bytes count).map hexValue, d < 16 := by
    intro d hd
    obtain ⟨ch, hch, rfl⟩ := List.mem_map.mp hd
    exact (htouDigit_eq ch (hmem ch hch)).2.1
  have hvalue : (htou ascii count).toNat = value 16 ((ascii.bytes count).map hexValue) := by
    -- Eight digits fit 32 bits.
    have hbound := value_lt (by decide) hlt
    rw [List.length_map, Buffer.length_bytes] at hbound
    have hpow : 16 ^ count ≤ 2 ^ 32 := Nat.pow_le_pow_right (by decide) hcount
    rw [htou_eq ascii count hhex, BitVec.toNat_ofNat, Nat.mod_eq_of_lt (by omega)]
  obtain ⟨out, hutoa, hbytes, -⟩ := utoa_eq tmp buf (htou ascii count) .hex
  refine ⟨htou_eq ascii count hhex, _, out, hutoa, ?_⟩
  rw [hbytes, utoaChars, hvalue, ← map_trim _ hmem, ← numeral_value (by decide) hlt]
  rfl

/-- The text of a value is in that form. -/
theorem canonical (tmp buf : Buffer) (v : U32) : Canonical tmp buf v := by
  obtain ⟨out, hutoa, hbytes, hrest⟩ := utoa_eq tmp buf v .dec
  have hle : (numeral 10 v.toNat).length ≤ 10 :=
    length_numeral_le (by decide) (by decide) (Nat.lt_trans v.isLt (by decide))
  have hlen : (utoaChars .dec v.toNat).length = (numeral 10 v.toNat).length := List.length_map ..
  exact ⟨_, out, hutoa, by omega, hrest, hbytes⟩

/-- `utoa` and `htou` are inverse: every value is read back from its hex digits, every string
of at most eight hex digits is written again in upper case without leading zeros, and the
decimal digits are those of the value. -/
theorem utoa_htou (tmp buf : Buffer) :
    (∀ v, RoundTrip tmp buf v) ∧
      (∀ (ascii : Buffer) (count : Nat), count ≤ 8 → (∀ i < count, IsHexDigit (ascii i)) →
        Reencodes tmp buf ascii count) ∧
      ∀ v, Canonical tmp buf v :=
  ⟨roundTrip tmp buf, fun ascii _ hcount hhex => reencodes tmp buf ascii hcount hhex,
    canonical tmp buf⟩

/-- The string `"00fF"` has the value 255 and is written again as `"FF"`. -/
theorem reencodes_lower :
    htou (.ofList [0x30, 0x30, 0x66, 0x46] .zero) 4 = 255 ∧
      Reencodes .zero .zero (.ofList [0x30, 0x30, 0x66, 0x46] .zero) 4 :=
  ⟨by decide, (utoa_htou .zero .zero).2.1 _ 4 (by decide) (by decide)⟩

end PikvmHid
