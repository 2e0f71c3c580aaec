import PikvmHid.App.HidRawkvm
import PikvmHid.Spec.Keyboard

/-!
# `PikvmHid.Spec.Paths`: two protocols on one keyboard

The raw `'@'` command and `CMD_KEY` both send reports on the keyboard interface. Only
`CMD_KEY` leaves reports out, and it looks at its own reports for that.

* `PathsAgree`: a report that differs from what the raw path left on the host is sent.
* `NotMasked`: the report is not the last one of `CMD_KEY` itself, nor an alias of it.
-/

set_option autoImplicit false

namespace PikvmHid

open Lib

/-- A raw command for the keyboard, of any length. -/
structure RawCommand where
  cmdBuf : Buffer
  cmdLen : Nat
  env : HandlerEnv
  isKeyboard : cmdBuf 0 = CHAR_AT

/-- A command of one of the two protocols. -/
inductive PathCommand where
  | raw (c : RawCommand)
  | key (c : KeyCommand)

/-- The handler of the command. -/
def PathCommand.handle (st : KvmState) : PathCommand → HandlerOut
  | .raw c => handleRawkvmCommand c.env st c.cmdBuf c.cmdLen
  | .key c => c.handle st

/-- The two handlers on the shared statics and the shared interface. -/
def paths : Machine KvmState PathCommand (PathCommand × List ReportIn) where
  step st i := ((i.handle st).state, [(i, (i.handle st).reportIns)])

def PathCommand.isRaw : PathCommand → Bool
  | .raw _ => true
  | .key _ => false

/-- The calls of the `CMD_KEY` commands. -/
def keyCalls (t : Trace PathCommand) : List ReportIn :=
  t.flatMap fun
    | (.raw _, _)     => []
    | (.key _, calls) => calls

/-- The last report the host received is `r`, and a raw command sent it. -/
def HasRaw (t : Trace PathCommand) (r : List U8) : Prop :=
  ((t.flatMap fun p => p.2.map (Prod.mk p.1.isRaw)).filter (·.2.ok)).getLast?.map
    (fun p => (p.1, p.2.report)) = some (true, r)

instance (t : Trace PathCommand) (r : List U8) : Decidable (HasRaw t r) :=
  inferInstanceAs (Decidable (_ = _))

/-- After a raw command, a report with other bytes is sent. -/
def PathsAgree (c : KvmState × Trace PathCommand) : PathCommand → Prop
  | .raw _ => True
  | .key i => i.Builds → ∀ r, HasRaw c.2 r → i.report c.1 ≠ r → i.calls c.1 ≠ []

/-- After a raw command, a report with other bytes is neither the last report of `CMD_KEY`, if
that was accepted, nor an alias of it. -/
def NotMasked (c : KvmState × Trace PathCommand) : PathCommand → Prop
  | .raw _ => True
  | .key i => i.Builds → ∀ r, HasRaw c.2 r → i.shows c.1.modifier ≠ r →
      ∀ last ∈ (keyCalls c.2).getLast?, last.ok = true →
        last.report ≠ i.shows c.1.modifier ∧ ¬ Alias last.report (i.shows c.1.modifier)

end PikvmHid
