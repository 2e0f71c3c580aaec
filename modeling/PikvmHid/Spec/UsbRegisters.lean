import PikvmHid.Usb.Bus

/-!
# `PikvmHid.Spec.UsbRegisters`: transactions in the middle of a macro

The register macros of `xpd_usb.c` read a register, compute a word and write it. The peripheral does
not wait for them, so transactions can complete after the read and before the write. `EprMacro.run`
is a macro with the register as it was read and as it is when the word is written.

* `EprMacro`: the macros, by the word that they write.
* `Transacts`: what completed transactions do to a register.
-/

set_option autoImplicit false

namespace PikvmHid

/-- The accesses that read a register and write it back. -/
inductive EprMacro where
  | setStatus (d : EpHalf) (s : EpStatus)
  | toggle (d : EpHalf)
  | flagClear (d : EpHalf)
  | setType (t : EpType)
  | setAddress (epAddr : U8)

namespace EprMacro

/-- The word that is written when `r` was read. -/
def word : EprMacro → U16 → U16
  | setStatus d s     => setStatusWord d s
  | toggle d          => toggleWord d
  | flagClear d       => flagClearWord d
  | setType t         => setTypeWord t
  | setAddress epAddr => setAddressWord epAddr

/-- The register after the macro, which was read as `r` and is `e` when it is written. -/
def run (m : EprMacro) (r e : U16) : U16 := eprWrite e (m.word r)

/-- The flag that the macro is there to clear. -/
def Clears (m : EprMacro) (d : EpHalf) : Prop := m = flagClear d

/-- The macro writes the completion flags back as they were read, not ones. -/
def WritesBack : EprMacro → Prop
  | flagClear _ => True
  | setType _   => True
  | _           => False

end EprMacro

/-- A completed transaction: an IN packet acknowledged, an OUT packet taken, a SETUP packet taken. -/
inductive Transaction : U16 → U16 → Prop where
  | inToken (e : U16) : (eprHalf .tx e).stat = .valid → Transaction e (hwDone .tx e)
  | outToken (e : U16) : (eprHalf .rx e).stat = .valid →
      Transaction e (hwDone .rx e &&& ~~~USB_EP_SETUP)
  | setup (e : U16) : (eprHalf .rx e).stat ≠ .dis → (eprHalf .rx e).ctr = false →
      Transaction e (hwSetup e)

/-- Any number of transactions. -/
inductive Transacts : U16 → U16 → Prop where
  | refl (e : U16) : Transacts e e
  | step {e e' e'' : U16} : Transacts e e' → Transaction e' e'' → Transacts e e''

end PikvmHid
