import PikvmHid.Lib.Grouping
import PikvmHid.Script.HidTest

/-!
# `PikvmHid.Spec.Typing`: what the raw client types

The client sends each group of `str_to_kb_hid` as a key-down report, and a report of zeros
behind it. A host types a character for each key that goes down.

* `HostLayout`: the characters of the host's keys.
* `HostLayout.typed`: what the host types for a list of reports.
* `Reproduces`: the host types the string.
* `NoKeyTwice`: no key is there twice where the client may put it into one group.
-/

set_option autoImplicit false

namespace PikvmHid

open Lib.Grouping

/-! ### Characters -/

/-- `ascii_to_hid` supports the character. -/
def Typable (ch : Char) : Prop := ∃ code, asciiToHid ch = .ok code

instance : DecidablePred Typable := fun ch =>
  match h : asciiToHid ch with
  | .ok code => isTrue ⟨code, h⟩
  | .error _ => isFalse fun ⟨_, hcode⟩ => nomatch h.symm.trans hcode

/-- The code of a supported character. -/
def hidCode (ch : Char) : Nat :=
  match asciiToHid ch with
  | .ok code => code
  | .error _ => 0

def isShifted (ch : Char) : Bool := decide (hidCode ch &&& 0x100 ≠ 0)

def keyOf (ch : Char) : U8 := BitVec.ofNat 8 (hidCode ch &&& 0xff)

/-- The two characters of the Enter key. -/
def IsEnter (ch : Char) : Prop := ch = '\n' ∨ ch = '\r'

instance : DecidablePred IsEnter := fun ch => inferInstanceAs (Decidable (ch = '\n' ∨ ch = '\r'))

/-! ### The host -/

/-- The modifier byte, with left Shift or without. -/
def modifierOf (shifted : Bool) : U8 := if shifted then 0x02 else 0

/-- A layout: what the host types for a key under a modifier byte. It is the one that
`ascii_to_hid` is made for, and its Enter key types one of the two characters. -/
structure HostLayout where
  char : U8 → U8 → Char
  char_eq : ∀ ch, Typable ch → ¬ IsEnter ch → char (modifierOf (isShifted ch)) (keyOf ch) = ch
  isEnter : IsEnter (char 0 0x28)

/-- The keys of an array that are not down yet, each once, in their order. -/
def newlyPressed (down : List U8) : List U8 → List U8
  | []      => []
  | k :: ks =>
      if k = 0 ∨ k ∈ down then newlyPressed down ks else k :: newlyPressed (k :: down) ks

/-- What the host types for the reports behind one with the keys `down`. -/
def HostLayout.typed (layout : HostLayout) : List U8 → List (List U8) → List Char
  | _,    []           => []
  | down, r :: reports =>
      (newlyPressed down (r.drop 2)).map (layout.char (r.headD 0))
        ++ layout.typed (r.drop 2) reports

/-! ### The client -/

/-- A group as a report of eight bytes. -/
def keyDown (group : List U8) : List U8 := group ++ List.replicate (8 - group.length) 0

def keyUp : List U8 := List.replicate 8 0

/-- The host types the string for the groups of `str_to_kb_hid`, each of which is a modifier
byte, a reserved byte, and at most six keys. -/
def Reproduces (layout : HostLayout) (s : List Char) : Prop :=
  ∃ groups, strToKbHid s = .ok groups ∧ (∀ g ∈ groups, 2 ≤ g.length ∧ g.length ≤ 8) ∧
    layout.typed [] (groups.flatMap fun g => [keyDown g, keyUp]) = s

/-- In every maximal run of characters with or without Shift, cut at each sixth, no piece has
a key twice. -/
def NoKeyTwice (s : List Char) : Prop :=
  ∀ run ∈ s.splitBy (fun a b => isShifted a == isShifted b), ∀ k,
    ((piece 6 k run).map keyOf).Nodup

end PikvmHid
