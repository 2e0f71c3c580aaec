import PikvmHid.Usb.Epr
import PikvmHid.Usb.PacketMemory
import Mathlib.Logic.Function.Basic

/-!
# `PikvmHid.Usb.Types`: the handles of the USB device

`usb/Include/usb_types.h`, `usbd_types.h` and `usbd_hid.h`, as far as the two HID interfaces
of this device use them, with `app/usbd_config.h`: full speed only, no link power management,
no alternate settings and no OUT reports. `UsbDevice` is `USBD_HandleType` together with the
registers and the packet memory of the peripheral. Lengths are `Nat`; the tables have an entry for
every number. What lies behind the source's arrays is in `PikvmHid.Usb.Stray`.
-/

set_option autoImplicit false

namespace PikvmHid

/-! ### `usbd_config.h` and the constants of `usb_types.h` -/

abbrev USBD_MAX_IF_COUNT : Nat := 4
abbrev USBD_MAX_EP_COUNT : Nat := 8
abbrev USBD_EP0_BUFFER_SIZE : Nat := 64
abbrev USBD_EP0_MAX_PACKET_SIZE : Nat := 64
abbrev USB_EP_INTR_FS_MPS : Nat := 64
abbrev USBD_MAX_CONFIGURATION_COUNT : U8 := 1
abbrev USBD_SPEC_BCD : U16 := 0x0200
abbrev USBD_LANGID_STRING : U16 := 0x409

abbrev USB_FEATURE_EP_HALT : U16 := 0
abbrev USB_FEATURE_REMOTE_WAKEUP : U16 := 1

abbrev USB_REQ_TYPE_STANDARD : U8 := 0
abbrev USB_REQ_TYPE_CLASS : U8 := 1

abbrev USB_REQ_RECIPIENT_DEVICE : U8 := 0
abbrev USB_REQ_RECIPIENT_INTERFACE : U8 := 1
abbrev USB_REQ_RECIPIENT_ENDPOINT : U8 := 2

abbrev USB_REQ_GET_STATUS : U8 := 0x00
abbrev USB_REQ_CLEAR_FEATURE : U8 := 0x01
abbrev USB_REQ_SET_FEATURE : U8 := 0x03
abbrev USB_REQ_SET_ADDRESS : U8 := 0x05
abbrev USB_REQ_GET_DESCRIPTOR : U8 := 0x06
abbrev USB_REQ_GET_CONFIGURATION : U8 := 0x08
abbrev USB_REQ_SET_CONFIGURATION : U8 := 0x09
abbrev USB_REQ_GET_INTERFACE : U8 := 0x0A
abbrev USB_REQ_SET_INTERFACE : U8 := 0x0B

abbrev HID_REQ_GET_REPORT : U8 := 0x01
abbrev HID_REQ_GET_IDLE : U8 := 0x02
abbrev HID_REQ_SET_REPORT : U8 := 0x09
abbrev HID_REQ_SET_IDLE : U8 := 0x0A

/-- `USBD_ReturnType`. -/
inductive UsbdReturn where
  | ok
  | error
  | busy
  | invalid
  deriving DecidableEq, Repr

/-- `USB_EndPointStateType`. -/
inductive EpState where
  | closed
  | idle
  | stall
  | setup
  | data
  | status
  deriving DecidableEq, Repr

/-- `USB_SetupRequestType`. -/
structure SetupRequest where
  requestType : U8
  request : U8
  value : U16
  index : U16
  length : U16
  deriving DecidableEq, Repr

namespace SetupRequest

/-- `RequestType.Recipient`. -/
def recipient (s : SetupRequest) : U8 := s.requestType &&& 0x1F

/-- `RequestType.Type`. -/
def type (s : SetupRequest) : U8 := (s.requestType >>> 5) &&& 0x3

/-- `RequestType.Direction == USB_DIRECTION_IN`. -/
def isIn (s : SetupRequest) : Bool := s.requestType.getLsbD 7

/-- `(uint8_t)Setup.Index`. -/
def indexLow (s : SetupRequest) : U8 := lowByte s.index

/-- The eight bytes of a SETUP packet, stored over the structure. -/
def ofBytes (b : Buffer) : SetupRequest where
  requestType := b 0
  request := b 1
  value := halfword (b 2) (b 3)
  index := halfword (b 4) (b 5)
  length := halfword (b 6) (b 7)

/-- The eight bytes of the packet the host sends. -/
def toBytes (s : SetupRequest) : List U8 :=
  [s.requestType, s.request, lowByte s.value, highByte s.value, lowByte s.index,
    highByte s.index, lowByte s.length, highByte s.length]

/-- A request is read from its eight bytes as it was sent. -/
theorem ofBytes_toBytes (s : SetupRequest) : ofBytes (.ofList s.toBytes .zero) = s := by
  simp [ofBytes, toBytes, Buffer.ofList]

end SetupRequest

/-! ### Endpoints -/

/-- What `Transfer.Data` points to: nothing, `dev->CtrlData + off`, or memory the stack only
reads. -/
inductive DataPtr where
  | null
  | ctrlData (off : Nat)
  | mem (data : Buffer)

namespace DataPtr

/-- The bytes at the pointer. -/
def read (ctrl : Buffer) : DataPtr → Buffer
  | null         => Buffer.zero
  | ctrlData off => ctrl.drop off
  | mem data     => data

/-- `Data += n`. -/
def add (n : Nat) : DataPtr → DataPtr
  | null         => null
  | ctrlData off => ctrlData (off + n)
  | mem data     => mem (data.drop n)

/-- `CtrlData` after bytes are stored at the pointer. A store through another pointer is left out: it
hits memory that the model does not have (`DataPtr.strays`). -/
def write (ctrl : Buffer) (bytes : List U8) : DataPtr → Buffer
  | ctrlData off => fun i => if off ≤ i then bytes.getD (i - off) (ctrl i) else ctrl i
  | _            => ctrl

/-- The bytes behind a pointer that is moved on. -/
theorem read_add (ctrl : Buffer) (p : DataPtr) (n : Nat) :
    (p.add n).read ctrl = (p.read ctrl).drop n := by
  cases p with
  | null => rfl
  | ctrlData off => exact (Buffer.drop_drop ctrl off n).symm
  | mem data => rfl

end DataPtr

/-- `USBD_EpHandleType`. -/
structure UsbEp where
  data : DataPtr
  length : Nat
  progress : Nat
  maxPacketSize : Nat
  type : EpType
  state : EpState
  ifNum : Nat
  regId : Nat

/-! ### Interfaces -/

/-- `USBD_HID_AppType` with its `USBD_HID_ReportConfigType`. The callbacks are null here. -/
structure HidApp where
  name : List U8
  desc : List U8
  inputMaxSize : Nat
  inputInterval : U8
  devType : Nat
  deriving DecidableEq, Repr

/-- `USBD_HID_IfHandleType` with its base. -/
structure HidIfHandle where
  app : HidApp
  inEpNum : U8
  altSelector : U8
  altCount : U8
  request : U8
  idleRate : U8
  deriving DecidableEq, Repr

/-- `USBD_DescriptionType`. Names are their characters without the closing zero; `configBits`
is the byte of `RemoteWakeup` and `SelfPowered`. -/
structure UsbDescription where
  configName : List U8
  maxCurrent : Nat
  configBits : U8
  vendorName : List U8
  vendorId : U16
  productName : List U8
  productId : U16
  version : U16
  deriving DecidableEq, Repr

/-! ### The device -/

/-- The device handle, the endpoint registers, the packet memory, and of the other registers
`DADDR` and the `RESET` flag of `ISTR`. The `i`-th interface is `IF[i]`, and `IfCount` is their
number. The bytes of `ctrlData` from `USBD_EP0_BUFFER_SIZE` on are the memory behind the array. -/
structure UsbDevice where
  desc : UsbDescription
  setup : SetupRequest
  remoteWakeup : Bool
  selfPowered : Bool
  configSelector : U8
  ifs : List HidIfHandle
  epIn : Nat → UsbEp
  epOut : Nat → UsbEp
  ctrlData : Buffer
  epr : Nat → U16
  pma : Pma
  daddr : U8
  reset : Bool

namespace UsbDevice

/-- An IN endpoint stored. -/
def setIn (dev : UsbDevice) (n : Nat) (ep : UsbEp) : UsbDevice :=
  { dev with epIn := Function.update dev.epIn n ep }

/-- An OUT endpoint stored. -/
def setOut (dev : UsbDevice) (n : Nat) (ep : UsbEp) : UsbDevice :=
  { dev with epOut := Function.update dev.epOut n ep }

/-- An endpoint register after one of the macros. -/
def setEpr (dev : UsbDevice) (r : Nat) (f : U16 → U16) : UsbDevice :=
  { dev with epr := Function.update dev.epr r (f (dev.epr r)) }

/-- An IN endpoint that was stored is read back. -/
@[simp] theorem setIn_self (dev : UsbDevice) (n : Nat) (ep : UsbEp) :
    (dev.setIn n ep).epIn n = ep := by
  simp [setIn]

/-- The other IN endpoints stay. -/
theorem setIn_of_ne (dev : UsbDevice) {n m : Nat} (h : m ≠ n) (ep : UsbEp) :
    (dev.setIn n ep).epIn m = dev.epIn m := by
  simp [setIn, h]

/-- The later of two stores counts. -/
@[simp] theorem setIn_setIn (dev : UsbDevice) (n : Nat) (ep ep' : UsbEp) :
    (dev.setIn n ep).setIn n ep' = dev.setIn n ep' := by
  simp [setIn]

/-- An OUT endpoint that was stored is read back. -/
@[simp] theorem setOut_self (dev : UsbDevice) (n : Nat) (ep : UsbEp) :
    (dev.setOut n ep).epOut n = ep := by
  simp [setOut]

/-- The other OUT endpoints stay. -/
theorem setOut_of_ne (dev : UsbDevice) {n m : Nat} (h : m ≠ n) (ep : UsbEp) :
    (dev.setOut n ep).epOut m = dev.epOut m := by
  simp [setOut, h]

/-- The register that was written has what was written. -/
@[simp] theorem setEpr_self (dev : UsbDevice) (r : Nat) (f : U16 → U16) :
    (dev.setEpr r f).epr r = f (dev.epr r) := by
  simp [setEpr]

/-- The other registers stay. -/
theorem setEpr_of_ne (dev : UsbDevice) {r q : Nat} (h : q ≠ r) (f : U16 → U16) :
    (dev.setEpr r f).epr q = dev.epr q := by
  simp [setEpr, h]

/-- Bytes stored at the start of `CtrlData`. -/
def setCtrl (dev : UsbDevice) (bytes : List U8) : UsbDevice :=
  { dev with ctrlData := (DataPtr.ctrlData 0).write dev.ctrlData bytes }

/-- An interface handle changed. -/
def modifyIf (dev : UsbDevice) (i : Nat) (f : HidIfHandle → HidIfHandle) : UsbDevice :=
  { dev with ifs := dev.ifs.modify i f }

/-- A store to the packet memory. -/
def setPma (dev : UsbDevice) (f : Pma → Pma) : UsbDevice := { dev with pma := f dev.pma }

end UsbDevice

/-- `USB_EP_BDT[reg].TX_ADDR`, the halfword of the packet memory. -/
def bdtTxAddr (reg : Nat) : Nat := 4 * reg

/-- `USB_EP_BDT[reg].TX_COUNT`. -/
def bdtTxCount (reg : Nat) : Nat := 4 * reg + 1

/-- `USB_EP_BDT[reg].RX_ADDR`. -/
def bdtRxAddr (reg : Nat) : Nat := 4 * reg + 2

/-- `USB_EP_BDT[reg].RX_COUNT`. -/
def bdtRxCount (reg : Nat) : Nat := 4 * reg + 3

end PikvmHid
