import PikvmHid.Include.Stdint

/-!
# `PikvmHid.CLib.Stdio`: formatted output

`lib/stdio.c`. A `char` is unsigned on this processor, so characters are bytes and the width
of a conversion wraps at 256. A string is the list of its characters before the terminator.
What `buf_printf` writes behind its pointer and sends on UART1 is an `Out`.

A loop runs for at most `fuel` rounds and returns the state it is in. `number` gives its loops
as many rounds as they need to leave by their conditions.
-/

set_option autoImplicit false

namespace PikvmHid

abbrev PRINTF_BUF_LEN : Nat := 64

/-- The level of the build. -/
abbrev DEBUG_LEVEL : U8 := 3

abbrev CHAR_SPACE : U8 := 0x20
abbrev CHAR_PERCENT : U8 := 0x25
abbrev CHAR_MINUS : U8 := 0x2D
abbrev CHAR_0 : U8 := 0x30
abbrev CHAR_9 : U8 := 0x39

/-- The upper case letters `'A'`, `'F'` and `'X'`. -/
abbrev CHAR_UPPER_A : U8 := 0x41
abbrev CHAR_UPPER_F : U8 := 0x46
abbrev CHAR_UPPER_X : U8 := 0x58

/-- The lower case letters `'a'`, `'c'`, `'d'`, `'f'`, `'s'`, `'u'` and `'x'`. -/
abbrev CHAR_LOWER_A : U8 := 0x61
abbrev CHAR_LOWER_C : U8 := 0x63
abbrev CHAR_LOWER_D : U8 := 0x64
abbrev CHAR_LOWER_F : U8 := 0x66
abbrev CHAR_LOWER_S : U8 := 0x73
abbrev CHAR_LOWER_U : U8 := 0x75
abbrev CHAR_LOWER_X : U8 := 0x78

/-- A string behind a `char *`: its characters, none of them the terminator. -/
structure CString where
  chars : List U8
  ne_zero : ∀ ch ∈ chars, ch ≠ 0

/-- The characters up to the terminator. -/
def cstr (bytes : List U8) : List U8 := bytes.takeWhile (· ≠ 0)

/-- An argument, as `va_arg` finds it. -/
inductive VaArg where
  | int (v : U32)
  | str (s : CString)

/-! ### Output -/

/-- What `buf_printf` writes: the bytes at and behind `s`, how far `sh` is from `s`, and the
characters sent on UART1. -/
structure Out where
  buf : Buffer
  sh : Nat
  uart : List U8

/-- `putch`. A null pointer sends the character. -/
def putch (o : Out) : Option Nat → U8 → Out
  | some ptr, ch => { o with buf := o.buf.set ptr ch }
  | none,     ch => { o with uart := o.uart ++ [ch] }

/-- The call `putch((sh < st) ? sh++ : 0, ch)`, with `st` as its distance from `s`. -/
def putchAt (st : Nat) (o : Out) (ch : U8) : Out :=
  if o.sh < st then putch { o with sh := o.sh + 1 } (some o.sh) ch else putch o none ch

/-- The call for each of the characters. -/
def putchs (st : Nat) (o : Out) (chs : List U8) : Out := chs.foldl (putchAt st) o

/-- The terminator behind the format, `if (sh < st) *sh = 0`. -/
def terminate (st : Nat) (o : Out) : Out :=
  if o.sh < st then { o with buf := o.buf.set o.sh 0 } else o

/-! ### Numbers -/

/-- The variables of the digit loops. `bf` is what they wrote to `buf`. -/
structure DigitState where
  mask : U32
  num : U32
  zs : Bool
  bf : List U8

/-- The inner loop, `while (num >= mask)`. -/
def dgtLoop (mask : U32) : Nat → U32 → U8 → U32 × U8
  | 0,        num, dgt => (num, dgt)
  | fuel + 1, num, dgt =>
      if num ≥ mask then dgtLoop mask fuel (num - mask) (dgt + 1) else (num, dgt)

/-- The character of a digit, with `uc` for the letters. -/
def dgtChar (uc dgt : U8) : U8 := dgt + (if dgt < 10 then CHAR_0 else uc - 10)

/-- A round of the outer loop. A digit is below 16, so the inner loop has enough rounds. -/
def maskRound (hx : Bool) (uc : U8) (s : DigitState) : DigitState :=
  let r := dgtLoop s.mask 16 s.num 0
  let written := s.zs = true ∨ r.2 > 0
  { mask := if hx then s.mask >>> 4 else s.mask / 10
    num := r.1
    zs := if written then true else s.zs
    bf := if written then s.bf ++ [dgtChar uc r.2] else s.bf }

/-- The outer loop, `while (mask)`. -/
def maskLoop (hx : Bool) (uc : U8) : Nat → DigitState → DigitState
  | 0,        s => s
  | fuel + 1, s => if s.mask = 0 then s else maskLoop hx uc fuel (maskRound hx uc s)

/-- `hx`. -/
def hexOf (ch : U8) : Bool := ch = CHAR_LOWER_X ∨ ch = CHAR_UPPER_X

/-- `uc`. -/
def ucOf (ch : U8) : U8 := if ch = CHAR_UPPER_X then CHAR_UPPER_A else CHAR_LOWER_A

/-- The variables before the digit loops: a negative number of `%d` is negated, and its sign
is written. -/
def digitStart (ch : U8) (num : U32) : DigitState :=
  let negative := ch = CHAR_LOWER_D ∧ num.slt 0
  { mask := if hexOf ch then 0x10000000 else 1000000000
    num := if negative then -num else num
    zs := false
    bf := if negative then [CHAR_MINUS] else [] }

/-- The branch of the conversions `d`, `u`, `x` and `X`: what it writes to `buf`. There are at
most ten masks. -/
def number (ch : U8) (num : U32) : List U8 :=
  let s := maskLoop (hexOf ch) (ucOf ch) 11 (digitStart ch num)
  if s.zs then s.bf else s.bf ++ [CHAR_0]

/-! ### `buf_printf` -/

/-- The switch over the conversion: the text at `p`, and the arguments that are left. There is
no value if `va_arg` is called without a matching argument. -/
def convert (ch : U8) (va : List VaArg) : Option (List U8 × List VaArg) :=
  if ch = CHAR_LOWER_X ∨ ch = CHAR_UPPER_X ∨ ch = CHAR_LOWER_U ∨ ch = CHAR_LOWER_D then
    match va with
    | .int v :: va => some (cstr (number ch v), va)
    | _            => none
  else if ch = CHAR_LOWER_C then
    match va with
    | .int v :: va => some (cstr [v.setWidth 8], va)
    | _            => none
  else if ch = CHAR_LOWER_S then
    match va with
    | .str s :: va => some (s.chars, va)
    | _            => none
  else if ch = CHAR_PERCENT then some (cstr [CHAR_PERCENT], va)
  else some ([], va)

/-- The flag `lz`, and the format behind it. -/
def zeroFlag : List U8 → Bool × List U8
  | []        => (false, [])
  | ch :: fmt => if ch = CHAR_0 then (true, fmt) else (false, ch :: fmt)

/-- The loop over the digits of a width. -/
def widthLoop : List U8 → U8 → U8 × List U8
  | [],        w => (w, [])
  | ch :: fmt, w =>
      if CHAR_0 ≤ ch ∧ ch ≤ CHAR_9 then widthLoop fmt ((((w <<< 2) + w) <<< 1) + ch - CHAR_0)
      else (w, ch :: fmt)

/-- The width `w`, and the format behind it. Without one it is 1. -/
def fieldWidth : List U8 → U8 × List U8
  | []        => (1, [])
  | ch :: fmt => if CHAR_0 ≤ ch ∧ ch ≤ CHAR_9 then widthLoop (ch :: fmt) 0 else (1, ch :: fmt)

/-- The loop that counts the width down against the text. -/
def widthLeft : List U8 → U8 → U8
  | [],       w => w
  | _ :: txt, w => if w > 0 then widthLeft txt (w - 1) else w

/-- What is put out for a conversion: the padding that is left of the width, and the text. -/
def paddedText (lz : Bool) (w : U8) (txt : List U8) : List U8 :=
  List.replicate (widthLeft txt w).toNat (if lz then CHAR_0 else CHAR_SPACE) ++ txt

/-- The loop of `buf_printf` over the format. A format that ends inside a conversion leaves
without the terminator. -/
def bufPrintf.loop (st : Nat) : Nat → List U8 → List VaArg → Out → Option Out
  | _,        [],        _,  o => some (terminate st o)
  | 0,        _ :: _,    _,  _ => none
  | fuel + 1, ch :: fmt, va, o =>
      if ch ≠ CHAR_PERCENT then loop st fuel fmt va (putchAt st o ch)
      else
        let flag := zeroFlag fmt
        let width := fieldWidth flag.2
        match width.2 with
        | []        => some o
        | ch :: fmt =>
            match convert ch va with
            | none     => none
            | some txt => loop st fuel fmt txt.2 (putchs st o (paddedText flag.1 width.1 txt.1))

/-- `buf_printf`. The return value is `sh`. Without a pointer, `st` is null as `sh` is. Each
round takes a character of the format at least. -/
def bufPrintf (s : Option Buffer) (n : Int) (fmt : CString) (va : List VaArg) : Option Out :=
  match s with
  | none     => bufPrintf.loop 0 fmt.chars.length fmt.chars va ⟨.zero, 0, []⟩
  | some buf => bufPrintf.loop n.toNat fmt.chars.length fmt.chars va ⟨buf, 0, []⟩

/-- `snprintf`. -/
def snprintf (buf : Buffer) (n : Int) (fmt : CString) (va : List VaArg) : Option Out :=
  bufPrintf (some buf) n fmt va

/-- The loop of `putstr` at character `i` of an array with `n` more. There is no value if it
reads behind the array. -/
def putstr.loop (s : Buffer) : Nat → Nat → Option (List U8)
  | 0,     _ => none
  | n + 1, i => if s i = 0 then some [] else (loop s n (i + 1)).map (s i :: ·)

/-- `putstr` on an array of `size` characters: what it sends on UART1. -/
def putstr (s : Buffer) (size : Nat) : Option (List U8) := putstr.loop s size 0

/-- `dbg_printf`: the return value, and what is sent on UART1. -/
def dbgPrintf (level : U8) (fmt : CString) (va : List VaArg) : Option (Nat × List U8) :=
  if level > DEBUG_LEVEL then some (0, [])
  else
    match bufPrintf (some .zero) PRINTF_BUF_LEN fmt va with
    | none   => none
    | some o => (putstr o.buf PRINTF_BUF_LEN).map fun sent => (sent.length, o.uart ++ sent)

/-! ### `utoa` -/

/-- `utoa_t`. -/
inductive UtoaBase where
  | dec
  | hex
  deriving DecidableEq

/-- The values of `utoa_dec` and `utoa_hex`. -/
def UtoaBase.val : UtoaBase → U32
  | .dec => 10
  | .hex => 16

/-- The character of a digit in a round of the first loop. -/
def utoa.digit (t : U32) : U8 :=
  let t := if t ≥ 10 then t + 7 else t
  (t + 48).setWidth 8

/-- The loop that fills `tmp` from `idx` on, with room for so many characters: `idx` after it,
and `tmp`. There is no value if it writes behind the array. -/
def utoa.digits (base : U32) : Nat → U32 → Nat → Buffer → Option (Nat × Buffer)
  | 0,        _,   _,   _   => none
  | room + 1, val, idx, tmp =>
      let tmp := tmp.set idx (utoa.digit (val % base))
      if val / base = 0 then some (idx + 1, tmp) else digits base room (val / base) (idx + 1) tmp

/-- The loop that reverses. It runs while `idx` is not negative, so the argument is one more. -/
def utoa.reverse (tmp : Buffer) : Nat → Nat → Buffer → Nat × Buffer
  | 0,       n, buf => (n, buf)
  | idx + 1, n, buf => reverse tmp idx (n + 1) (buf.set n (tmp idx))

/-- `utoa`. The array `tmp` has 11 characters. -/
def utoa (tmp buf : Buffer) (val : U32) (base : UtoaBase) : Option (Nat × Buffer) :=
  (utoa.digits base.val 11 val 0 tmp).map fun (idx, tmp) => utoa.reverse tmp idx 0 buf

end PikvmHid
