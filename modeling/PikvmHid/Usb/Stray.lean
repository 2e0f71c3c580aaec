import PikvmHid.Usb.Bus

/-!
# `PikvmHid.Usb.Stray`: the accesses that nothing checks

The stack stores the packets of endpoint 0 through `Transfer.Data`, and it indexes `IF[]` and
`EP.OUT[]` with what the host has sent. Nothing checks the pointer or the index, so a host can make
it access other memory, or fault. The model has no other memory: it drops a store through a null
pointer, its `CtrlData` goes on behind the array, and its tables have an entry for every number. So
a run of the model stands for one of the device up to the first such access.

The `strays` of a function says of the state in which it is called that it makes one.

* `DataPtr.strays`: a packet is stored through a null pointer, or behind the end of `CtrlData`.
* `usbdGetDescriptor.strays`: a descriptor is longer than `CtrlData`. No descriptor of this device
  is.
* `hidDataStage.strays`: `IF[(uint8_t)Setup.Index]` is no interface.
* `usbdEpRequest.strays`: `EP.OUT[]` is taken at an address with one of the bits 4 to 6.

`usbVIRQHandler.checked` is the interrupt handler that gives up at the first of them.
-/

set_option autoImplicit false

namespace PikvmHid

/-! ### Memory and tables -/

/-- A store of `n` bytes at the pointer leaves `CtrlData`. -/
def DataPtr.strays (n : Nat) : DataPtr → Bool
  | null         => 0 < n
  | ctrlData off => 0 < n ∧ USBD_EP0_BUFFER_SIZE < off + n
  | mem _        => 0 < n

/-- `IF[i]` is not mounted, so its class cannot be called. -/
def hidDataStage.strays (dev : UsbDevice) (i : Nat) : Bool := dev.ifs.length ≤ i

/-- `USBD_GetDescriptor` builds a descriptor that `CtrlData` has no room for. -/
def usbdGetDescriptor.strays (dev : UsbDevice) : Bool :=
  let type := highByte dev.setup.value
  if type = USB_DESC_TYPE_DEVICE then USBD_EP0_BUFFER_SIZE < (usbdDeviceDesc dev).length
  else if type = USB_DESC_TYPE_CONFIGURATION then
    USBD_EP0_BUFFER_SIZE < (usbdConfigDesc dev).length
  else if type = USB_DESC_TYPE_STRING ∧ lowByte dev.setup.value ≠ USBD_ISTR_LANGID then
    match usbdString dev with
    | some str => USBD_EP0_BUFFER_SIZE < (usbdGetStringDesc str).length
    | none     => false
  else false

/-! ### The requests -/

/-- `USBD_DevRequest` on the way to `USBD_GetDescriptor`. -/
def usbdDevRequest.strays (dev : UsbDevice) : Bool :=
  dev.setup.type = USB_REQ_TYPE_STANDARD ∧ dev.setup.request = USB_REQ_GET_DESCRIPTOR ∧
    usbdGetDescriptor.strays dev

/-- `USBD_EpRequest` reads the state of an endpoint behind the end of `EP.OUT[]`. The number of an IN
endpoint is cut to four bits, the address of an OUT endpoint is not. -/
def usbdEpRequest.strays (dev : UsbDevice) : Bool :=
  let epAddr := dev.setup.indexLow
  let epNum := (epAddr &&& 0xF).toNat
  ¬ (epNum ≥ USBD_MAX_EP_COUNT ∨ epNum = 0 ∨ dev.configSelector = 0) ∧
    dev.setup.type = USB_REQ_TYPE_STANDARD ∧
    ((dev.setup.request = USB_REQ_SET_FEATURE ∨ dev.setup.request = USB_REQ_CLEAR_FEATURE) ∧
        dev.setup.value = USB_FEATURE_EP_HALT ∨
      dev.setup.request = USB_REQ_GET_STATUS) ∧
    USBD_MAX_EP_COUNT ≤ epIndex epAddr

/-- `USBD_SetupCallback`. An interface request checks its index. -/
def usbdSetupCallback.strays (dev : UsbDevice) : Bool :=
  if dev.setup.recipient = USB_REQ_RECIPIENT_DEVICE then usbdDevRequest.strays dev
  else dev.setup.recipient = USB_REQ_RECIPIENT_ENDPOINT ∧ usbdEpRequest.strays dev

/-! ### The callbacks of the transfers -/

/-- `USBD_CtrlInCallback`. -/
def usbdCtrlInCallback.strays (dev : UsbDevice) : Bool :=
  usbdNeedsZlp dev = false ∧ dev.setup.isIn ∧ dev.configSelector ≠ 0 ∧
    dev.setup.recipient = USB_REQ_RECIPIENT_INTERFACE ∧
    hidDataStage.strays dev dev.setup.indexLow.toNat

/-- `USBD_CtrlOutCallback`. -/
def usbdCtrlOutCallback.strays (dev : UsbDevice) : Bool :=
  dev.setup.length ≠ 0 ∧ dev.setup.isIn = false ∧ dev.configSelector ≠ 0 ∧
    hidDataStage.strays dev dev.setup.indexLow.toNat

/-! ### The interrupt handler -/

/-- The round of a SETUP packet. -/
def usbVIRQHandler.setup.strays (dev : UsbDevice) (epId : Nat) : Bool :=
  let bytes := usbPrvReadPMA dev.pma (dev.pma (bdtRxAddr epId)).toNat 8
  usbdSetupCallback.strays { dev with setup := .ofBytes (.ofList bytes .zero) }

/-- The round of an OUT data packet of the endpoint `n`: the packet is stored, and the callback called
behind the last one. -/
def usbVIRQHandler.out.strays (dev : UsbDevice) (epId n : Nat) : Bool :=
  let dataCount := (dev.pma (bdtRxCount epId) &&& 0x3FF).toNat
  let ep := dev.epOut n
  ep.data.strays dataCount ∨
    (ep.progress = 0 ∨ dataCount < ep.maxPacketSize) ∧ n = 0 ∧ usbdCtrlOutCallback.strays dev

/-- The round of an acknowledged IN packet of the endpoint `n`. -/
def usbVIRQHandler.in.strays (dev : UsbDevice) (n : Nat) : Bool :=
  (dev.epIn n).progress = 0 ∧ n = 0 ∧ usbdCtrlInCallback.strays dev

/-- The first half of a round, for a packet that was received. -/
def usbVIRQHandler.received (dev : UsbDevice) (epId : Nat) : UsbDevice :=
  if dev.epr epId &&& USB_EP_CTR_RX ≠ 0 then
    if dev.epr epId &&& USB_EP_SETUP ≠ 0 then usbVIRQHandler.setup dev epId
    else usbVIRQHandler.out dev epId (dev.epr epId &&& USB_EPADDR_FIELD).toNat
  else dev

/-- A round: `EP.OUT[]` and `EP.IN[]` are taken at the number in the register, then either half may
stray. -/
def usbVIRQHandler.round.strays (dev : UsbDevice) (epId : Nat) : Bool :=
  let epReg := dev.epr epId
  let epNum := (epReg &&& USB_EPADDR_FIELD).toNat
  USBD_MAX_EP_COUNT ≤ epNum ∨
    (epReg &&& USB_EP_CTR_RX ≠ 0 ∧
      if epReg &&& USB_EP_SETUP ≠ 0 then usbVIRQHandler.setup.strays dev epId
      else usbVIRQHandler.out.strays dev epId epNum) ∨
    (epReg &&& USB_EP_CTR_TX ≠ 0 ∧
      usbVIRQHandler.in.strays (usbVIRQHandler.received dev epId) epNum)

/-- The second half takes up the device as the first half leaves it. -/
theorem round_eq_received (dev : UsbDevice) (epId : Nat) :
    usbVIRQHandler.round dev epId =
      if dev.epr epId &&& USB_EP_CTR_TX ≠ 0 then
        usbVIRQHandler.in (usbVIRQHandler.received dev epId) epId
          (dev.epr epId &&& USB_EPADDR_FIELD).toNat
      else usbVIRQHandler.received dev epId := rfl

/-- A round, given up when it strays. -/
def usbVIRQHandler.checkedRound (dev : UsbDevice) (epId : Nat) : Option UsbDevice :=
  if usbVIRQHandler.round.strays dev epId then none else some (usbVIRQHandler.round dev epId)

/-- `USB_vIRQHandler`, with at most `n` rounds of the loop, given up at the first stray access. -/
def usbVIRQHandler.checked : Nat → UsbDevice → Option UsbDevice
  | 0,     dev => some dev
  | n + 1, dev =>
      match pendingEp dev with
      | some epId => (usbVIRQHandler.checkedRound dev epId).bind (checked n)
      | none      => some (usbVIRQHandler.tail dev)

/-- A step of the device makes a stray access. Only the handler does. -/
def UsbAct.strays (dev : UsbDevice) : UsbAct → Bool
  | .irq => (pendingEp dev).any (usbVIRQHandler.round.strays dev)
  | _    => false

end PikvmHid
