import PikvmHid.App.UsbDevice
import PikvmHid.Lib.ToggleLink
import PikvmHid.Usb.Stray

/-!
# `PikvmHid.Spec.UsbReports`: reports on the bus

The two interrupt endpoints as pipes from the task to the host. A report goes in with a call
of `USBD_HID_ReportIn` that returns `USBD_E_OK`, and comes out with the IN transaction whose
acknowledgement the device gets.

* `acceptedReports`, `acknowledged`: the two ends of a pipe, read off the observations of a run.
* `SendsReports`: nothing but accepted reports is put on the bus.
* `FitsPacket`: a task sends reports of at most one packet, as `send_hid_report` does.
* `Ordinary`: besides, a request names an endpoint by an address as the standard has it.
* `Contained`: or else, the handler makes no stray access.
* `receivedReports`: what the host takes, when it drops repeated packets by their data toggle.
* `PipesIdle`, `KeepsPipes`: a device with open pipes, and the steps that keep them open.
* `SetupRequest.Reconfigures`: the requests that may open, close or halt the pipes.
-/

set_option autoImplicit false

namespace PikvmHid

namespace HidIf

/-- `IF[i]`. -/
def index : HidIf → Nat
  | .hidKbIf => 0
  | .hidMsIf => 1

/-- `Config.InEpNum`. -/
def inEpNum : HidIf → U8
  | .hidKbIf => 0x87
  | .hidMsIf => 0x85

/-- The number of the endpoint. -/
def epNum : HidIf → Nat
  | .hidKbIf => 7
  | .hidMsIf => 5

/-- The size of a report, `MaxPacketSize` of the endpoint. -/
def reportSize : HidIf → Nat
  | .hidKbIf => HID_KB_REPORT_BYTE
  | .hidMsIf => HID_MS_REPORT_BYTE

/-- The application of the interface. -/
def app : HidIf → HidApp
  | .hidKbIf => hidKbApp
  | .hidMsIf => hidMsApp

end HidIf

/-- The reports of an interface for which `USBD_HID_ReportIn` returned `USBD_E_OK`. -/
def acceptedReports (itf : HidIf) (obs : List UsbObs) : List (List U8) :=
  obs.filterMap fun
    | .report i bytes ok => if i = itf.index ∧ ok then some bytes else none
    | .packet ..         => none

/-- The packets of its endpoint whose acknowledgement the device got. -/
def acknowledged (itf : HidIf) (obs : List UsbObs) : List (List U8) :=
  obs.filterMap fun
    | .packet n _ bytes ack => if n = itf.epNum ∧ ack then some bytes else none
    | .report ..            => none

/-- Each packet that its endpoint puts on the bus, acknowledged or not, is an accepted report. It was
accepted behind those whose packets were acknowledged before. -/
def SendsReports (itf : HidIf) (obs : List UsbObs) : Prop :=
  ∀ (before after : List UsbObs) (pid : Bool) (bytes : List U8) (ack : Bool),
    obs = before ++ .packet itf.epNum pid bytes ack :: after →
      List.Sublist (acknowledged itf before ++ [bytes]) (acceptedReports itf before)

/-- A report fits in one packet of its endpoint. -/
def FitsPacket : UsbAct → Prop
  | .reportIn i bytes => ∀ itf : HidIf, i = itf.index → bytes.length ≤ itf.reportSize
  | _                 => True

/-- What holds of both interfaces. -/
instance decidableForallHidIf (p : HidIf → Prop) [∀ itf, Decidable (p itf)] :
    Decidable (∀ itf, p itf) :=
  decidable_of_iff (p .hidKbIf ∧ p .hidMsIf)
    ⟨fun h itf => HidIf.casesOn itf h.1 h.2, fun h => ⟨h _, h _⟩⟩

instance (i : UsbAct) : Decidable (FitsPacket i) :=
  match i with
  | .reportIn .. => inferInstanceAs (Decidable (∀ _ : HidIf, _ → _))
  | .inToken .. => .isTrue trivial
  | .outToken .. => .isTrue trivial
  | .setup .. => .isTrue trivial
  | .busReset => .isTrue trivial
  | .irq => .isTrue trivial

/-- The index of a request to an endpoint is an address as the standard has it, with the bits 4 to 6
zero. -/
def SetupRequest.NamesEndpoint (s : SetupRequest) : Prop :=
  s.recipient = USB_REQ_RECIPIENT_ENDPOINT → s.indexLow &&& 0x70 = 0

instance (s : SetupRequest) : Decidable s.NamesEndpoint := inferInstanceAs (Decidable (_ → _))

/-- A report fits in one packet, and a request names an endpoint that there can be. -/
def Ordinary : UsbAct → Prop
  | .setup req => req.NamesEndpoint
  | i          => FitsPacket i

instance (i : UsbAct) : Decidable (Ordinary i) :=
  match i with
  | .setup req => inferInstanceAs (Decidable req.NamesEndpoint)
  | .reportIn n bytes => inferInstanceAs (Decidable (FitsPacket (.reportIn n bytes)))
  | .inToken .. => .isTrue trivial
  | .outToken .. => .isTrue trivial
  | .busReset => .isTrue trivial
  | .irq => .isTrue trivial

/-- An ordinary step hands over a report that fits a packet. -/
theorem Ordinary.fitsPacket {i : UsbAct} (h : Ordinary i) : FitsPacket i := by
  cases i with
  | setup req => trivial
  | _ => exact h

/-- A report fits in one packet, and the handler makes no stray access. The requests are any. -/
def Contained (c : UsbDevice × List UsbObs) (i : UsbAct) : Prop :=
  FitsPacket i ∧ i.strays c.1 = false

instance (c : UsbDevice × List UsbObs) (i : UsbAct) : Decidable (Contained c i) :=
  inferInstanceAs (Decidable (_ ∧ _))

/-! ### The host's side -/

/-- What the pipe of an interface shows of the observations. -/
def pipeObs (itf : HidIf) : UsbObs → Option (Lib.ToggleLink.Obs (List U8))
  | .packet n pid bytes ack => if n = itf.epNum then some (.packet pid bytes ack) else none
  | .report i bytes ok      => if i = itf.index ∧ ok then some (.accepted bytes) else none

/-- The reports the host takes, when the next packet it expects has the data toggle `t`. A packet
with the other toggle is one that it has taken already. -/
def receivedReports (itf : HidIf) (t : Bool) (obs : List UsbObs) : List (List U8) :=
  Lib.ToggleLink.received t (obs.filterMap (pipeObs itf))

/-- The register of the pipe. -/
def pipeReg (dev : UsbDevice) (itf : HidIf) : U16 := dev.epr (dev.epIn itf.epNum).regId

/-- The pipe is open and empty. -/
structure PipeIdle (dev : UsbDevice) (itf : HidIf) : Prop where
  state : (dev.epIn itf.epNum).state = .idle
  addr : (eprFields (pipeReg dev itf)).ea = .ofNat 4 itf.epNum
  stat : (eprHalf .tx (pipeReg dev itf)).stat = .nak
  ctr : (eprHalf .tx (pipeReg dev itf)).ctr = false

/-- Both pipes are open and empty, and no reset and no packet for the control endpoint waits to be
handled. -/
structure PipesIdle (dev : UsbDevice) : Prop where
  pipe : ∀ itf, PipeIdle dev itf
  reset : dev.reset = false
  ctr : (eprHalf .rx (dev.epr 0)).ctr = false

/-- `SET_CONFIGURATION`, `SET_INTERFACE`, and the halt feature of an endpoint. -/
def SetupRequest.Reconfigures (s : SetupRequest) : Prop :=
  s.type = USB_REQ_TYPE_STANDARD ∧
    (s.recipient = USB_REQ_RECIPIENT_DEVICE ∧ s.request = USB_REQ_SET_CONFIGURATION ∨
      s.recipient = USB_REQ_RECIPIENT_INTERFACE ∧ s.request = USB_REQ_SET_INTERFACE ∨
      s.recipient = USB_REQ_RECIPIENT_ENDPOINT ∧
        (s.request = USB_REQ_SET_FEATURE ∨ s.request = USB_REQ_CLEAR_FEATURE))

instance (s : SetupRequest) : Decidable s.Reconfigures :=
  inferInstanceAs (Decidable (_ ∧ (_ ∧ _ ∨ _ ∧ _ ∨ _ ∧ (_ ∨ _))))

/-- The request in the receive buffer of the control endpoint. -/
def bufferedSetup (dev : UsbDevice) (r : Nat) : SetupRequest :=
  .ofBytes (.ofList (usbPrvReadPMA dev.pma (dev.pma (bdtRxAddr r)).toNat 8) .zero)

/-- The pipes stay open: no bus reset and no request that reconfigures. A request to an endpoint names
one that there can be. -/
def KeepsPipes : UsbAct → Prop
  | .setup req => ¬ req.Reconfigures ∧ req.NamesEndpoint
  | .busReset  => False
  | _          => True

end PikvmHid
