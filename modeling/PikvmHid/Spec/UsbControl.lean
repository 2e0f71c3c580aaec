import PikvmHid.Lib.Packets
import PikvmHid.Spec.UsbReports

/-!
# `PikvmHid.Spec.UsbControl`: control reads

A control transfer whose data stage goes to the host. The host sends the request with the number of
bytes it wants, and reads packets of at most 64 bytes, the first one with the data toggle set.

* `reply`: what the device has to say to a request.
* `hostReads`: the packets of endpoint 0 that the host has taken.
* `ReadRequest`: a request that the device takes and has a reply to.
* `KeepsCtrl`: steps that do not interfere with the transfer; everything else can happen.
-/

set_option autoImplicit false

namespace PikvmHid

/-- The descriptor a device request asks for, by the type in the high byte of `Setup.Value`. -/
def deviceDescriptor (dev : UsbDevice) : Option (List U8) :=
  if highByte dev.setup.value = USB_DESC_TYPE_DEVICE then some (usbdDeviceDesc dev)
  else if highByte dev.setup.value = USB_DESC_TYPE_CONFIGURATION then some (usbdConfigDesc dev)
  else if highByte dev.setup.value = USB_DESC_TYPE_STRING then
    if lowByte dev.setup.value = USBD_ISTR_LANGID then some usbdLangIdDesc
    else (usbdString dev).map usbdGetStringDesc
  else none

/-- The descriptor an interface request asks for. -/
def interfaceDescriptor (dev : UsbDevice) (itf : HidIfHandle) : Option (List U8) :=
  if highByte dev.setup.value = HID_DESC_TYPE_HID then some (hidClassDesc 0)
  else if highByte dev.setup.value = HID_DESC_TYPE_REPORT then some itf.app.desc
  else none

/-- What a configured interface has to say. -/
def interfaceReply (dev : UsbDevice) (itf : HidIfHandle) : Option (List U8) :=
  if dev.setup.type = USB_REQ_TYPE_STANDARD then
    if dev.setup.request = USB_REQ_GET_INTERFACE then some [itf.altSelector]
    else if dev.setup.request = USB_REQ_GET_DESCRIPTOR then interfaceDescriptor dev itf
    else none
  else if dev.setup.type = USB_REQ_TYPE_CLASS ∧ dev.setup.request = HID_REQ_GET_IDLE then
    some [itf.idleRate]
  else none

/-- The first byte of the device status. -/
def deviceStatus (dev : UsbDevice) : U8 :=
  (if dev.selfPowered then 1 else 0) ||| (if dev.remoteWakeup then 2 else 0)

/-- What the device has to say to the request in `Setup`. -/
def reply (dev : UsbDevice) : Option (List U8) :=
  if dev.setup.recipient = USB_REQ_RECIPIENT_DEVICE then
    if dev.setup.type ≠ USB_REQ_TYPE_STANDARD then none
    else if dev.setup.request = USB_REQ_GET_DESCRIPTOR then deviceDescriptor dev
    else if dev.setup.request = USB_REQ_GET_CONFIGURATION then some [dev.configSelector]
    else if dev.setup.request = USB_REQ_GET_STATUS then some [deviceStatus dev, 0]
    else none
  else if dev.setup.recipient = USB_REQ_RECIPIENT_INTERFACE ∧ dev.configSelector ≠ 0 then
    dev.ifs[dev.setup.indexLow.toNat]?.bind (interfaceReply dev)
  else none

/-- A request that the device takes when its handler has nothing left to do. -/
structure TakenRequest (dev : UsbDevice) (req : SetupRequest) : Prop where
  handled : pendingEp dev = none
  reset : dev.reset = false
  taken : (eprHalf .rx ((busSetup dev req).epr 0)).ctr = true

/-- Such a request, and the bytes the device has to say to it. -/
structure ReadRequest (dev : UsbDevice) (req : SetupRequest) (bytes : List U8) : Prop
    extends TakenRequest dev req where
  length : req.length ≠ 0
  reply : reply { dev with setup := req } = some bytes

/-- What endpoint 0 shows of the observations. -/
def ctrlObs : UsbObs → Option (Lib.ToggleLink.Obs (List U8))
  | .packet n pid bytes ack => if n = 0 then some (.packet pid bytes ack) else none
  | .report ..              => none

/-- The packets of a data stage that the host has taken. The first one has the toggle set. -/
def hostReads (obs : List UsbObs) : List (List U8) :=
  Lib.ToggleLink.received true (obs.filterMap ctrlObs)

/-- No new request, no reset, and nothing sent to endpoint 0. -/
def KeepsCtrl : UsbAct → Prop
  | .setup _      => False
  | .busReset     => False
  | .outToken n _ => n ≠ 0
  | _             => True

/-- The data stage of a request: the packets of the bytes that were asked for. -/
def dataStage (req : SetupRequest) (bytes : List U8) : List (List U8) :=
  Lib.transfer USBD_EP0_MAX_PACKET_SIZE req.length.toNat (bytes.take req.length.toNat)

end PikvmHid
