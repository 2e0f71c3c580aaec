import PikvmHid.App.HidPikvm
import PikvmHid.Lib.Machine

/-!
# `PikvmHid.Spec.Commands`: runs of valid commands

A host that writes valid frames drives `handle_pikvm_command` through a list of commands.
Each command brings its environment along: what the stack holds, and which of its
`USBD_HID_ReportIn` calls are accepted. So a run of the machine `handler` stands for every
choice of these. The trace keeps the `USBD_HID_ReportIn` calls of each command, and from
them what the USB host knows: `lastAccepted`.
-/

set_option autoImplicit false

namespace PikvmHid

open Lib

/-- An eight-byte frame that passes the two checks, and what the handler finds around
it. -/
structure Command where
  cmdBuf : Buffer
  env : HandlerEnv
  valid : headerCheck cmdBuf 8 = RESP_NONE

namespace Command

/-- `handle_pikvm_command` on the frame. -/
def handle (st : KvmState) (c : Command) : HandlerOut :=
  handlePikvmCommand c.env st c.cmdBuf 8

/-- One of the four tries of a send is accepted. -/
def Sends (c : Command) : Prop := ∃ n ≤ 3, c.env.reportIn n = true

end Command

/-- The commands of a run, each with its `USBD_HID_ReportIn` calls. -/
abbrev Trace (ι : Type) := List (ι × List ReportIn)

namespace Trace

variable {ι : Type}

def commands (t : Trace ι) : List ι := t.map Prod.fst

/-- All calls, in their order. -/
def calls (t : Trace ι) : List ReportIn := t.flatMap Prod.snd

end Trace

/-- `handle_pikvm_command` over a kind `ι` of commands. -/
def handler {ι : Type} (command : ι → Command) : Machine KvmState ι (ι × List ReportIn) where
  step st i := (((command i).handle st).state, [(i, ((command i).handle st).reportIns)])

/-- The handler at reset. -/
def reset {ι : Type} : KvmState × Trace ι := (.boot, [])

/-- The report of the last accepted call, the last the USB host received. -/
def lastAccepted (calls : List ReportIn) : Option (List U8) :=
  (calls.filter (·.ok)).getLast?.map (·.report)

end PikvmHid
