import PikvmHid.Spec.Commands
import PikvmHid.App.CliTask
import PikvmHid.Spec.UsbReports

/-!
# `PikvmHid.Spec.Firmware`: from the serial line to the USB host

The two halves of the firmware meet at `USBD_HID_ReportIn`. The handlers of `cli_task` know of it
that a call is accepted or not, and the USB device knows of the tasks that a report comes in. A
run of the one and a run of the other fit together if the calls are the same and have the same
results. In between, each half does what it likes: the interrupts of the USB device come between
the tries of a send as they come anywhere else.
-/

set_option autoImplicit false

namespace PikvmHid

/-- The calls of `USBD_HID_ReportIn` on an interface that the USB device has seen, with the report
and whether it was accepted. -/
def usbCalls (itf : HidIf) (obs : List UsbObs) : List (List U8 × Bool) :=
  obs.filterMap fun
    | .report i bytes ok => if i = itf.index then some (bytes, ok) else none
    | .packet ..         => none

/-- The calls on an interface that the tasks have made. -/
def taskCalls (itf : HidIf) (calls : List ReportIn) : List (List U8 × Bool) :=
  (calls.filter (·.itf = itf)).map fun call => (call.report, call.ok)

/-- The two halves agree about the calls. -/
def FitTogether (calls : List ReportIn) (obs : List UsbObs) : Prop :=
  ∀ itf, usbCalls itf obs = taskCalls itf calls

/-- The reports the tasks have sent: those whose call was accepted. -/
def sentReports (itf : HidIf) (calls : List ReportIn) : List (List U8) :=
  ((taskCalls itf calls).filter (·.2)).map (·.1)

end PikvmHid
