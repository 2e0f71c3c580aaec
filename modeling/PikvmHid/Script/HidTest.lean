import PikvmHid.Include.Stdint

/-!
# `PikvmHid.Script.HidTest`: the raw client

The keyboard part of `script/hid_test.py`. A Python string is a list of characters, and a
call that raises an exception has no value. The local `key` of `str_to_kb_hid` is unbound
before the first character of the string.
-/

set_option autoImplicit false

namespace PikvmHid

/-- The exceptions of the functions here. -/
inductive PyError where
  | keyError
  | unboundLocalError
  deriving DecidableEq, Repr

/-- `kb_sym_key_map`. -/
def kbSymKeyMap : Char → Option Nat
  | '!' => some 0x11E
  | '@' => some 0x11F
  | '#' => some 0x120
  | '$' => some 0x121
  | '%' => some 0x122
  | '^' => some 0x123
  | '&' => some 0x124
  | '*' => some 0x125
  | '(' => some 0x126
  | ')' => some 0x127
  | '0' => some 0x27
  | '\n' => some 0x28
  | '\r' => some 0x28
  | '\x08' => some 0x2A
  | '\t' => some 0x2B
  | ' ' => some 0x2C
  | '_' => some 0x12D
  | '-' => some 0x2D
  | '+' => some 0x12E
  | '=' => some 0x2E
  | '{' => some 0x12F
  | '[' => some 0x2F
  | '}' => some 0x130
  | ']' => some 0x30
  | '|' => some 0x131
  | '\\' => some 0x31
  | ':' => some 0x133
  | ';' => some 0x33
  | '"' => some 0x134
  | '\'' => some 0x34
  | '~' => some 0x135
  | '`' => some 0x35
  | '<' => some 0x136
  | ',' => some 0x36
  | '>' => some 0x137
  | '.' => some 0x37
  | '?' => some 0x138
  | '/' => some 0x38
  | _ => none

/-- The first byte of the character, `ch.encode()[0]`. -/
def firstByte (ch : Char) : Nat := ((String.utf8EncodeChar ch).headD 0).toNat

/-- `ascii_to_hid` behind its first line. -/
def asciiToHid.ofByte (c : Nat) : Except PyError Nat :=
  let upper := 'A'.toNat ≤ c ∧ c ≤ 'Z'.toNat
  let shift := if upper then 0x100 else 0
  let c := if upper then 'a'.toNat + (c - 'A'.toNat) else c
  if 'a'.toNat ≤ c ∧ c ≤ 'z'.toNat then .ok ((c - 'a'.toNat + 4) ||| shift)
  else if '1'.toNat ≤ c ∧ c ≤ '9'.toNat then .ok (c - '0'.toNat + 0x1d)
  else
    match kbSymKeyMap (Char.ofNat c) with
    | some code => .ok code
    | none      => .error .keyError

/-- `ascii_to_hid`: the usage code, and bit 8 for Shift. -/
def asciiToHid (ch : Char) : Except PyError Nat := asciiToHid.ofByte (firstByte ch)

/-- The locals of `str_to_kb_hid`. At the start of each iteration `sep` is `False`. -/
structure StrState where
  grpList : List (List U8)
  keys : List U8
  shift : Nat
  key : Option Nat

/-- The locals before the loop. -/
def StrState.init : StrState := ⟨[], [], 0, none⟩

/-- A group: the modifier byte with left Shift, the reserved byte, and the keys. -/
def group (shift : Nat) (keys : List U8) : List U8 :=
  (if shift ≠ 0 then 0x02 else 0x00) :: 0x00 :: keys

/-- What the first half of the loop body leaves: `key`, `shift_next` and `sep`. -/
def strToKbHid.look (st : StrState) (ch : Char) : Except PyError (Option Nat × Nat × Bool) :=
  if ch = '\x00' then .ok (st.key, st.shift, true)
  else
    match asciiToHid ch with
    | .error e => .error e
    | .ok key  =>
        let changed := key &&& 0x100 ≠ st.shift
        .ok (some key, if changed then key &&& 0x100 else st.shift,
          decide (changed ∨ 6 ≤ st.keys.length))

/-- The loop body of `str_to_kb_hid`. -/
def strToKbHid.step (st : StrState) (ch : Char) : Except PyError StrState :=
  match strToKbHid.look st ch with
  | .error e                => .error e
  | .ok (key, shiftNext, sep) =>
      let grpList := if sep then st.grpList ++ [group st.shift st.keys] else st.grpList
      let keys := if sep then [] else st.keys
      match key with
      | none     => .error .unboundLocalError
      | some key => .ok ⟨grpList, keys ++ [BitVec.ofNat 8 (key &&& 0xff)], shiftNext, some key⟩

/-- `str_to_kb_hid`: the loop over the string and a NUL behind it. -/
def strToKbHid (keystr : List Char) : Except PyError (List (List U8)) :=
  match (keystr ++ ['\x00']).foldlM strToKbHid.step .init with
  | .error e => .error e
  | .ok st   => .ok st.grpList

end PikvmHid
