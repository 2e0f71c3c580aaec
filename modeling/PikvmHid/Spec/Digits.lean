import PikvmHid.CLib.Stdio
import PikvmHid.Lib.Numeral

/-!
# `PikvmHid.Spec.Digits`: the text of a number

What the conversions `d`, `u`, `x` and `X` stand for: the numeral of the argument in their
base, with a sign if `d` reads a negative one. `DigitsExact` says that the digit loops write
this text and what their variables keep on the way.
-/

set_option autoImplicit false

namespace PikvmHid

open Lib Lib.Numeral

/-- The conversions of a number. -/
inductive NumSpec where
  | d
  | u
  | x
  | X
  deriving DecidableEq

namespace NumSpec

/-- The character in the format. -/
def ch : NumSpec → U8
  | d => CHAR_LOWER_D
  | u => CHAR_LOWER_U
  | x => CHAR_LOWER_X
  | X => CHAR_UPPER_X

/-- The base. -/
def base : NumSpec → Nat
  | d | u => 10
  | x | X => 16

/-- The number without its sign. Only `d` reads the argument as a signed number. -/
def magnitude : NumSpec → U32 → Nat
  | d, v => v.toInt.natAbs
  | _, v => v.toNat

/-- The sign. -/
def sign : NumSpec → U32 → List U8
  | d, v => if v.toInt < 0 then [CHAR_MINUS] else []
  | _, _ => []

end NumSpec

/-- The character of a digit, with `a` for the first letter. -/
def digitChar (a : U8) (d : Nat) : U8 :=
  if d < 10 then CHAR_0 + BitVec.ofNat 8 d else a + BitVec.ofNat 8 (d - 10)

namespace NumSpec

/-- The digits of the argument. -/
def digits (spec : NumSpec) (v : U32) : List U8 :=
  (numeral spec.base (spec.magnitude v)).map (digitChar (ucOf spec.ch))

/-- The text of the argument. -/
def text (spec : NumSpec) (v : U32) : List U8 := spec.sign v ++ spec.digits v

/-- The variables after `n` rounds of the outer loop. -/
def rounds (spec : NumSpec) (v : U32) (n : Nat) : DigitState :=
  maskLoop (hexOf spec.ch) (ucOf spec.ch) n (digitStart spec.ch v)

end NumSpec

/-- The digit loops write the text of the argument, both leave by their conditions, a digit is
below the base all the time, and `buf` has room for the text and its terminator. -/
structure DigitsExact (spec : NumSpec) (v : U32) : Prop where
  text : number spec.ch v = spec.text v
  outer_leaves : (spec.rounds v 11).mask = 0
  inner_leaves : ∀ n, (spec.rounds v n).mask ≠ 0 →
    (dgtLoop (spec.rounds v n).mask 16 (spec.rounds v n).num 0).1 < (spec.rounds v n).mask
  dgt_lt : ∀ n m, (spec.rounds v n).mask ≠ 0 →
    (dgtLoop (spec.rounds v n).mask m (spec.rounds v n).num 0).2.toNat < spec.base
  fits : (number spec.ch v).length + 1 ≤ 12

end PikvmHid
