import PikvmHid.CLib.Stdlib
import PikvmHid.Spec.Digits

/-!
# `PikvmHid.Spec.Utoa`: `utoa` and `htou`

* `RoundTrip`: what `utoa` writes in hex is read back by `htou`.
* `Reencodes`: `htou` has the value of a string of hex digits, and `utoa` writes the string
  again, in upper case and without leading zeros.
* `Canonical`: the digits that `utoa` writes, and that its array has room for them.
-/

set_option autoImplicit false

namespace PikvmHid

open Lib Lib.Numeral

/-- A hex digit of either case. -/
def IsHexDigit (ch : U8) : Prop :=
  (CHAR_0 ≤ ch ∧ ch ≤ CHAR_9) ∨ (CHAR_UPPER_A ≤ ch ∧ ch ≤ CHAR_UPPER_F) ∨
    (CHAR_LOWER_A ≤ ch ∧ ch ≤ CHAR_LOWER_F)

instance (ch : U8) : Decidable (IsHexDigit ch) :=
  inferInstanceAs (Decidable (_ ∨ _))

/-- Its value. -/
def hexValue (ch : U8) : Nat :=
  if ch ≤ CHAR_9 then ch.toNat - 48 else if ch ≤ CHAR_UPPER_F then ch.toNat - 55 else ch.toNat - 87

/-- It in upper case. -/
def toUpper (ch : U8) : U8 :=
  if CHAR_LOWER_A ≤ ch ∧ ch ≤ CHAR_LOWER_F then ch - 32 else ch

/-- A string without leading zeros. If there is nothing else, one zero is left. -/
def trimZeros (chars : List U8) : List U8 :=
  let rest := chars.dropWhile (· == CHAR_0)
  if rest = [] then [CHAR_0] else rest

/-- In hex, `utoa` writes one to eight characters and nothing else, without a leading zero
unless the value is zero, and `htou` reads the value back. -/
def RoundTrip (tmp buf : Buffer) (v : U32) : Prop :=
  ∃ n out, utoa tmp buf v .hex = some (n, out) ∧ 1 ≤ n ∧ n ≤ 8 ∧ (∀ i, n ≤ i → out i = buf i) ∧
    (out 0 = CHAR_0 → v = 0) ∧ htou out n = v

/-- `htou` has the value of the string, and `utoa` writes the string without leading zeros in
upper case. -/
def Reencodes (tmp buf ascii : Buffer) (count : Nat) : Prop :=
  htou ascii count = BitVec.ofNat 32 (value 16 ((ascii.bytes count).map hexValue)) ∧
    ∃ n out, utoa tmp buf (htou ascii count) .hex = some (n, out) ∧
      out.bytes n = trimZeros ((ascii.bytes count).map toUpper)

/-- In decimal, `utoa` writes the digits of the value and nothing else. It returns, so none
was written behind the array of 11 characters. -/
def Canonical (tmp buf : Buffer) (v : U32) : Prop :=
  ∃ n out, utoa tmp buf v .dec = some (n, out) ∧ n ≤ 11 ∧ (∀ i, n ≤ i → out i = buf i) ∧
    out.bytes n = (numeral 10 v.toNat).map (digitChar CHAR_UPPER_A)

end PikvmHid
