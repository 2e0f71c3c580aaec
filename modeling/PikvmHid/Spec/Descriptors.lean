import PikvmHid.App.UsbDevice
import PikvmHid.Lib.HidDescriptor
import PikvmHid.Spec.Calls
import PikvmHid.Spec.Keyboard
import PikvmHid.Spec.Mouse

/-!
# `PikvmHid.Spec.Descriptors`: reports and their descriptors

A USB host reads a report by the descriptor of its interface, and drops a value out of range.

* `ReportsConform`: the reports of a call are what the descriptors say.
* `InRange`: the payload of the call, and what the stack holds, name no value out of range.
-/

set_option autoImplicit false

namespace PikvmHid

open Lib Lib.HidDescriptor

/-- The report is what the descriptor of the interface says. -/
def ConformsTo (itf : HidIf) (report : List U8) : Prop :=
  ∃ fs ∈ fields (reportDesc itf), Describes fs report

/-- The reports of the call are what the descriptors say. -/
def ReportsConform (c : KvmState × CallTrace Call) (i : Call) : Prop :=
  ∀ call ∈ (i.handle c.1).reportIns, ConformsTo call.itf call.report

/-- The last call on the keyboard interface was accepted, with this report or an alias of
it. -/
def Masked (t : CallTrace Call) (report : List U8) : Prop :=
  ∃ call ∈ (t.reports .hidKbIf).getLast?, call.ok = true ∧
    (call.report = report ∨ Alias call.report report)

/-- The code of the power key. -/
def powerCode : U8 := 105

/-- Nothing out of range goes into a report: a press of the power key is left out, no wheel
turns by -128, and no other mouse command finds a -128 in byte 6 of `hid_rpt`. -/
structure InRange (c : KvmState × CallTrace Call) (i : Call) : Prop where
  key : i.IsKey → i.cmdBuf 2 = powerCode → i.cmdBuf 3 ≠ 0 →
    Masked c.2 (keyReport c.1.modifier KEY_POWER)
  wheel : i.IsMouse → i.code = CMD_WHEEL → i.cmdBuf 3 ≠ 0x80
  stack : i.IsMouse → i.code ≠ CMD_WHEEL → i.env.hidRpt 6 ≠ 0x80

end PikvmHid
