import PikvmHid.Spec.Digits

/-!
# `PikvmHid.Spec.Printf`: formatted text

A format as its pieces, literal characters and conversions, each conversion with its argument.
A width of zero stands for none.

* `Piece.text`: what a piece puts out, with the padding of `buf_printf`. `formatted` is the
  text of a format.
* `SnprintfOk` and `DbgPrintfOk`: this text is cut to the buffer and terminated, and its
  characters stay in order.
* `Conv.field`: what the C standard has for a conversion, flag and width. `PaddedAsC` says
  where the padding agrees.
-/

set_option autoImplicit false

namespace PikvmHid

open Lib Lib.Numeral

/-- A conversion with its argument. -/
inductive Conv where
  | num (spec : NumSpec) (v : U32)
  | c (v : U32)
  | s (str : CString)
  | percent

namespace Conv

/-- The character in the format. -/
def ch : Conv → U8
  | num spec _ => spec.ch
  | c _        => CHAR_LOWER_C
  | s _        => CHAR_LOWER_S
  | percent    => CHAR_PERCENT

/-- The argument. -/
def args : Conv → List VaArg
  | num _ v => [.int v]
  | c v     => [.int v]
  | s str   => [.str str]
  | percent => []

/-- The text without padding. The terminator as a character is no text. -/
def text : Conv → List U8
  | num spec v => spec.text v
  | c v        => cstr [v.setWidth 8]
  | s str      => str.chars
  | percent    => [CHAR_PERCENT]

/-- The text as the C standard pads it: with spaces on the left, or with zeros behind the sign
of a number. -/
def field (zero : Bool) (width : Nat) : Conv → List U8
  | num spec v =>
      let pad := width - (spec.text v).length
      if zero then spec.sign v ++ List.replicate pad CHAR_0 ++ spec.digits v
      else List.replicate pad CHAR_SPACE ++ spec.text v
  | cv         => List.replicate (width - cv.text.length) CHAR_SPACE ++ cv.text

/-- The conversions that the C standard gives a field: the flag is for numbers only, and a
character is none that ends the text. -/
def IsStandard (zero : Bool) : Conv → Prop
  | num _ _ => True
  | c v     => zero = false ∧ v.setWidth 8 ≠ (0 : U8)
  | s _     => zero = false
  | percent => False

/-- The argument is negative and is shown so. -/
def Negative : Conv → Prop
  | num spec v => spec.sign v ≠ []
  | _          => False

end Conv

/-- The digits of a width in the format. -/
def widthChars (width : Nat) : List U8 :=
  if width = 0 then [] else (numeral 10 width).map (digitChar CHAR_LOWER_A)

/-- A piece of a format. -/
inductive Piece where
  | lit (ch : U8) (ne_zero : ch ≠ 0) (ne_percent : ch ≠ CHAR_PERCENT)
  | conv (zero : Bool) (width : Nat) (cv : Conv)

namespace Piece

/-- The piece in the format. -/
def chars : Piece → List U8
  | lit ch _ _         => [ch]
  | conv zero width cv =>
      CHAR_PERCENT :: ((if zero then [CHAR_0] else []) ++ (widthChars width ++ [cv.ch]))

/-- Its argument. -/
def args : Piece → List VaArg
  | lit _ _ _   => []
  | conv _ _ cv => cv.args

/-- What it puts out. The width wraps at 256, and without one it is 1. -/
def text : Piece → List U8
  | lit ch _ _         => [ch]
  | conv zero width cv =>
      let w := if width = 0 then 1 else width % 256
      List.replicate (w - cv.text.length) (if zero then CHAR_0 else CHAR_SPACE) ++ cv.text

end Piece

/-- No digit is the terminator. -/
theorem digitChar_ne_zero (ch : U8) {d : Nat} (hd : d < 16) : digitChar (ucOf ch) d ≠ 0 := by
  have hupper : ∀ d : Fin 16, digitChar CHAR_UPPER_A d ≠ 0 := by decide
  have hlower : ∀ d : Fin 16, digitChar CHAR_LOWER_A d ≠ 0 := by decide
  unfold ucOf
  split
  · exact hupper ⟨d, hd⟩
  · exact hlower ⟨d, hd⟩

/-- No digit of a width is. -/
theorem widthChars_ne_zero {width : Nat} : ∀ ch ∈ widthChars width, ch ≠ 0 := by
  intro ch hch
  unfold widthChars at hch
  split at hch
  · exact absurd hch List.not_mem_nil
  · obtain ⟨d, hd, rfl⟩ := List.mem_map.mp hch
    exact digitChar_ne_zero CHAR_LOWER_X (Nat.lt_trans (numeral_lt (by decide) hd) (by decide))

/-- No conversion letter is. -/
theorem Conv.ch_ne_zero (cv : Conv) : cv.ch ≠ 0 := by
  cases cv with
  | num spec v => cases spec <;> simp [Conv.ch, NumSpec.ch]
  | c v => simp [Conv.ch]
  | s str => simp [Conv.ch]
  | percent => simp [Conv.ch]

/-- So no piece of a format ends the string. -/
theorem Piece.chars_ne_zero (piece : Piece) : ∀ ch ∈ piece.chars, ch ≠ 0 := by
  intro ch hch
  cases piece with
  | lit lit hzero _ => rwa [List.mem_singleton.mp hch]
  | conv zero width cv =>
      rcases List.mem_cons.mp hch with rfl | hch
      · decide
      · rcases List.mem_append.mp hch with hch | hch
        · cases zero with
          | false => exact absurd hch List.not_mem_nil
          | true => rw [List.mem_singleton.mp hch]; decide
        · rcases List.mem_append.mp hch with hch | hch
          · exact widthChars_ne_zero ch hch
          · rw [List.mem_singleton.mp hch]
            exact cv.ch_ne_zero

/-- The format of the pieces. -/
def format (ps : List Piece) : CString where
  chars := ps.flatMap Piece.chars
  ne_zero := by
    intro ch hch
    obtain ⟨piece, -, hch⟩ := List.mem_flatMap.mp hch
    exact piece.chars_ne_zero ch hch

/-- Its arguments. -/
def formatArgs (ps : List Piece) : List VaArg := ps.flatMap Piece.args

/-- Its text. -/
def formatted (ps : List Piece) : List U8 := ps.flatMap Piece.text

/-- What `buf_printf` puts out for the format. Without a pointer everything is sent. -/
def emitted (ps : List Piece) : Option (List U8) :=
  (bufPrintf none 0 (format ps) (formatArgs ps)).map (·.uart)

/-- `snprintf` writes to the `n` bytes of the buffer only, a prefix of the text and its
terminator, and sends nothing. -/
def SnprintfOk (buf : Buffer) (n : Nat) (ps : List Piece) : Prop :=
  ∃ o, snprintf buf n (format ps) (formatArgs ps) = some o ∧
    (∀ i, n ≤ i → o.buf i = buf i) ∧ o.uart = [] ∧
    ∃ m < n, o.buf m = 0 ∧ o.buf.bytes m <+: formatted ps

/-- `dbg_printf` reads its own buffer only, and sends a prefix of the text. -/
def DbgPrintfOk (level : U8) (ps : List Piece) : Prop :=
  ∃ ret sent, dbgPrintf level (format ps) (formatArgs ps) = some (ret, sent) ∧
    sent <+: formatted ps

/-- Where the padding is that of the C standard: the width is used up by the text, or it is
below 256 and no zeros go before a minus. Without a width the text must not be empty. -/
def PaddedAsC (zero : Bool) (width : Nat) (cv : Conv) : Prop :=
  if width = 0 then cv.text ≠ []
  else width ≤ cv.text.length ∨ (width < 256 ∧ ¬ (zero = true ∧ cv.Negative))

end PikvmHid
