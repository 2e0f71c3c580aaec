import PikvmHid.Lib.ShiftRegister
import PikvmHid.Spec.Commands

/-!
# `PikvmHid.Spec.Keyboard`: what a `CMD_KEY` should show

A `KeyCommand` is a press or a release of a key code. Most of them build a report: every
release does, and every press of a mapped key that is no modifier. The report goes out
unless its checksum is that of the last one, and two reports have one checksum if they
are equal or `Alias`: their modifier bytes differ in an even number of bits, none of them
left Ctrl or left Shift, and their key bytes differ by that difference shifted.

* `SuppressionSound`: only the report the USB host has already is not sent.
* `NoStuckKey`: after a release that is sent or left out, the host sees no key.
* `held`: the keys that are down, by their latest command.
* `ShowsLatest`: the USB host sees one key at most, that of the latest command that builds
  a report, and nothing that is not down.
-/

set_option autoImplicit false

namespace PikvmHid

open Lib Lib.ShiftRegister

/-- A valid frame with the command code `CMD_KEY`. -/
structure KeyCommand extends Command where
  isKey : cmdBuf 1 = CMD_KEY

/-- A keyboard report with a modifier byte and one key. -/
def keyReport (modifier key : U8) : List U8 := [modifier, 0, key, 0, 0, 0, 0, 0]

namespace KeyCommand

def code (c : KeyCommand) : U8 := c.cmdBuf 2

def pressed (c : KeyCommand) : Bool := decide (c.cmdBuf 3 ≠ 0)

/-- The usage code. -/
def key (c : KeyCommand) : U8 := keyMapUsb c.code

/-- A release, or a press of a mapped key that is no modifier. -/
def Builds (c : KeyCommand) : Prop :=
  c.pressed = true → ¬ IsModifier c.key ∧ c.key ≠ KEY_ERROR_UNDEFINED

instance (c : KeyCommand) : Decidable c.Builds :=
  inferInstanceAs (Decidable (_ → _))

/-- The eight bytes that `handle_pikvm_command` builds. -/
def report (st : KvmState) (c : KeyCommand) : List U8 :=
  ((cmdKeyBuild st c.cmdBuf).hidRpt.drop (1 - HID_KB_MS_COMB)).bytes HID_KB_REPORT_BYTE

/-- The report as it should be: a press shows the modifiers that were down before it, and
its key, and a release shows nothing. -/
def shows (modifier : U8) (c : KeyCommand) : List U8 :=
  if c.pressed then keyReport modifier c.key else keyReport 0 0

/-- The calls of the command in a state. -/
def calls (st : KvmState) (c : KeyCommand) : List ReportIn := (c.handle st).reportIns

end KeyCommand

/-- `handle_pikvm_command` on runs of `CMD_KEY`. -/
abbrev keyboard : Machine KvmState KeyCommand (KeyCommand × List ReportIn) :=
  handler KeyCommand.toCommand

/-! ### Suppression -/

/-- Two keyboard reports that differ although their checksums do not. The difference of
the modifier bytes decides that of the key bytes. -/
def Alias (r r' : List U8) : Prop :=
  let modifiers := r.getD 0 0 ^^^ r'.getD 0 0
  modifiers ≠ 0 ∧ modifiers &&& 3 = 0 ∧ parity modifiers = false ∧
    r.getD 2 0 ^^^ r'.getD 2 0 = (modifiers >>> 1) ^^^ (modifiers >>> 2)

instance (r r' : List U8) : Decidable (Alias r r') :=
  inferInstanceAs (Decidable (_ ∧ _ ∧ _ ∧ _))

/-- What the command is to show is no alias of the report before it, if that was
accepted. -/
def NoAlias (c : KvmState × Trace KeyCommand) (i : KeyCommand) : Prop :=
  i.Builds → ∀ call ∈ c.2.calls.getLast?, call.ok = true →
    ¬ Alias call.report (i.shows c.1.modifier)

instance (c : KvmState × Trace KeyCommand) (i : KeyCommand) : Decidable (NoAlias c i) :=
  inferInstanceAs (Decidable (_ → _))

/-- A command that builds a report makes no call only if the report is the last one that
was accepted. -/
def SuppressionSound (c : KvmState × Trace KeyCommand) (i : KeyCommand) : Prop :=
  i.Builds → i.calls c.1 = [] → lastAccepted c.2.calls = some (i.report c.1)

/-- A release that is sent or left out leaves the USB host with the empty report. -/
def NoStuckKey (c : KvmState × Trace KeyCommand) (i : KeyCommand) : Prop :=
  i.pressed = false → (i.calls c.1 = [] ∨ ∃ call ∈ i.calls c.1, call.ok = true) →
    lastAccepted (c.2.calls ++ i.calls c.1) = some (keyReport 0 0)

/-! ### Held keys -/

/-- The key is down: its latest command is a press. -/
def held (cmds : List KeyCommand) (code : U8) : Bool :=
  (cmds.filter (·.code = code)).getLast?.any (·.pressed)

/-- The code of the modifier key with bit `i` of the modifier byte, left Ctrl to right
GUI. -/
def modifierCode (i : Nat) : U8 := BitVec.ofNat 8 (77 + i)

/-- The modifier byte has exactly the bits of the modifier keys that are down. -/
def IsHeldModifiers (cmds : List KeyCommand) (modifier : U8) : Prop :=
  ∀ i < 8, modifier.getLsbD i = held cmds (modifierCode i)

/-- The USB host's report stands for the commands: it is that of the latest one that
builds a report, with the modifiers that were down then, and it names nothing that is not
down. -/
structure ShowsLatest (cmds : List KeyCommand) (report : Option (List U8)) : Prop where
  none : (∀ c ∈ cmds, ¬ c.Builds) → report = none
  latest : ∀ before c after, cmds = before ++ c :: after → c.Builds →
    (∀ d ∈ after, ¬ d.Builds) →
    ∃ modifier, IsHeldModifiers before modifier ∧ report = some (c.shows modifier)
  only_held : ∀ modifier key, report = some (keyReport modifier key) →
    (∀ i < 8, modifier.getLsbD i = true → held cmds (modifierCode i) = true) ∧
    (key ≠ 0 → ∃ code, held cmds code = true ∧ keyMapUsb code = key)

end PikvmHid
