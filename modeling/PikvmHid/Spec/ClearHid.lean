import PikvmHid.Spec.Calls
import PikvmHid.Spec.Keyboard
import PikvmHid.Spec.Mouse

/-!
# `PikvmHid.Spec.ClearHid`: what a `CMD_CLEAR_HID` should clear

After a `CMD_CLEAR_HID` nothing pressed before it should be in effect: neither in what the
USB host has, nor in the reports of any later command.

* `OnlyPressedAgain`: the reports of a call name only modifiers and buttons that were pressed
  since the start of the run.
* `ClearsHid`: the host has empty reports, and every run behind the `CMD_CLEAR_HID` names
  only what is pressed in it.
* `NothingHeld`: nothing is in effect.
-/

set_option autoImplicit false

namespace PikvmHid

open Lib

namespace Call

def IsClear (c : Call) : Prop := c.Valid ∧ c.code = CMD_CLEAR_HID

instance (c : Call) : Decidable c.IsClear := inferInstanceAs (Decidable (_ ∧ _))

/-- The call presses the modifier key with bit `j`. -/
def PressesModifier (c : Call) (j : Nat) : Prop :=
  c.IsKey ∧ c.cmdBuf 2 = modifierCode j ∧ c.cmdBuf 3 ≠ 0

/-- The call presses the mouse button with bit `j`. -/
def PressesButton (c : Call) (j : Nat) : Prop :=
  c.Valid ∧ c.code = CMD_BUTTON ∧ (buttonMask (c.cmdBuf 2)).getLsbD j = true

/-- Every `USBD_HID_ReportIn` call is accepted. -/
def AllSent (c : Call) : Prop := ∀ n, c.env.reportIn n = true

end Call

/-- The reports of the call name only modifiers and buttons that the run has pressed. -/
structure OnlyPressedAgain (c : KvmState × CallTrace Call) (i : Call) : Prop where
  modifiers : ∀ call ∈ (i.handle c.1).reports .hidKbIf, ∀ j < 8,
    (call.report.getD 0 0).getLsbD j = true → ∃ d ∈ c.2.commands ++ [i], d.PressesModifier j
  buttons : ∀ call ∈ (i.handle c.1).reports .hidMsIf, ∀ j < 8,
    (reportButton call.report).getLsbD j = true → ∃ d ∈ c.2.commands ++ [i], d.PressesButton j

/-- After the `CMD_CLEAR_HID` the host's last reports are empty, and the reports of every run
behind it, all of whose sends succeed, name only what is pressed in that run. -/
structure ClearsHid (c : KvmState × CallTrace Call) (clear : Call) : Prop where
  keyboard : ∀ r ∈ lastAccepted (CallTrace.reports .hidKbIf (pikvm.next c clear).2),
    r = keyReport 0 0
  mouse : ∀ r ∈ lastAccepted (CallTrace.reports .hidMsIf (pikvm.next c clear).2),
    reportButton r = 0
  later : ∀ after : List Call, (∀ d ∈ after, d.AllSent) →
    pikvm.Meets OnlyPressedAgain ((pikvm.next c clear).1, []) after

/-- No modifier and no button is noted, and the host's last reports are empty. -/
structure NothingHeld (c : KvmState × CallTrace Call) : Prop where
  modifier : c.1.modifier = 0
  button : c.1.button = 0
  keyboard : ∀ r ∈ lastAccepted (CallTrace.reports .hidKbIf c.2), r = keyReport 0 0
  mouse : ∀ r ∈ lastAccepted (CallTrace.reports .hidMsIf c.2), reportButton r = 0

end PikvmHid
