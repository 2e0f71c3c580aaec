import PikvmHid.CLib.Stdio

/-!
# `PikvmHid.CLib.Stdlib`: hexadecimal input

`htou` of `lib/stdlib.c`. A shift by 32 or more, with more than eight digits, gives zero as it
does on the processor.
-/

set_option autoImplicit false

namespace PikvmHid

/-- The digit of a character, if it is one. -/
def htou.digit (ch : U8) : Option U32 :=
  if CHAR_0 ≤ ch ∧ ch ≤ CHAR_9 then some (ch.setWidth 32 - 48)
  else if CHAR_LOWER_A ≤ ch ∧ ch ≤ CHAR_LOWER_F then some (ch.setWidth 32 - 97 + 10)
  else if CHAR_UPPER_A ≤ ch ∧ ch ≤ CHAR_UPPER_F then some (ch.setWidth 32 - 65 + 10)
  else none

/-- The loop over the characters from `i` on. -/
def htou.loop (ascii : Buffer) : Nat → Nat → U32 → U32
  | 0,         _, ret => ret
  | count + 1, i, ret =>
      match htou.digit (ascii i) with
      | none       => 0
      | some digit => loop ascii count (i + 1) (ret + digit * ((1 : U32) <<< (count * 4)))

/-- `htou`. -/
def htou (ascii : Buffer) (count : Nat) : U32 := htou.loop ascii count 0 0

end PikvmHid
