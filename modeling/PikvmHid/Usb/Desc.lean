import PikvmHid.Usb.Xpd

/-!
# `PikvmHid.Usb.Desc`: the descriptors

`usb/Device/usbd_desc.c` and the descriptors of `usb/Class/HID/usbd_hid.c`. A descriptor is the
list of bytes that is stored at the start of `dev->CtrlData`. All names of this device have two
characters or more, so a string is always converted from ASCII.
-/

set_option autoImplicit false

namespace PikvmHid

abbrev USB_DESC_TYPE_DEVICE : U8 := 0x01
abbrev USB_DESC_TYPE_CONFIGURATION : U8 := 0x02
abbrev USB_DESC_TYPE_STRING : U8 := 0x03
abbrev USB_DESC_TYPE_INTERFACE : U8 := 0x04
abbrev USB_DESC_TYPE_ENDPOINT : U8 := 0x05
abbrev HID_DESC_TYPE_HID : U8 := 0x21
abbrev HID_DESC_TYPE_REPORT : U8 := 0x22

abbrev USBD_ISTR_LANGID : U8 := 0x00
abbrev USBD_ISTR_INTERFACES : U8 := 0x01
abbrev USBD_ISTR_VENDOR : U8 := 0x10
abbrev USBD_ISTR_PRODUCT : U8 := 0x20
abbrev USBD_ISTR_CONFIG : U8 := 0x40

/-- A `uint16_t` in a packed structure. -/
def le16 (v : U16) : List U8 := [lowByte v, highByte v]

/-- `USBD_IIF_INDEX(IFNUM, INTNUM)`. -/
def usbdIifIndex (ifNum intNum : U8) : U8 := USBD_ISTR_INTERFACES + ifNum + (intNum <<< 4)

/-- The code of `bmAttributes`, `USB_EP_TYPE_CONTROL` to `USB_EP_TYPE_INTERRUPT`. -/
def EpType.code : EpType → U8
  | .control     => 0
  | .isochronous => 1
  | .bulk        => 2
  | .interrupt   => 3

/-! ### `usbd_desc.c` -/

/-- `USBD_EpDesc`. -/
def usbdEpDesc (dev : UsbDevice) (epAddr : U8) : List U8 :=
  [7, USB_DESC_TYPE_ENDPOINT, epAddr, (dev.ep epAddr).type.code] ++
    le16 (.ofNat 16 (dev.ep epAddr).maxPacketSize) ++ [1]

/-- `usbd_langIdDesc`. -/
def usbdLangIdDesc : List U8 := [4, USB_DESC_TYPE_STRING] ++ le16 USBD_LANGID_STRING

/-- `USBD_DeviceDesc`. -/
def usbdDeviceDesc (dev : UsbDevice) : List U8 :=
  [18, USB_DESC_TYPE_DEVICE] ++ le16 USBD_SPEC_BCD ++
    [0x00, 0x00, 0x00, .ofNat 8 (dev.epOut 0).maxPacketSize] ++
    le16 dev.desc.vendorId ++ le16 dev.desc.productId ++ le16 dev.desc.version ++
    [USBD_ISTR_VENDOR, USBD_ISTR_PRODUCT, 0, USBD_MAX_CONFIGURATION_COUNT]

/-- `USBD_GetStringDesc`. -/
def usbdGetStringDesc (str : List U8) : List U8 :=
  [.ofNat 8 (2 + 2 * str.length), USB_DESC_TYPE_STRING] ++ str.flatMap fun ch => [ch, 0]

/-! ### The HID interface -/

/-- `hid_desc.HIDCD` with the given `wItemLength`. -/
def hidClassDesc (wItemLength : U16) : List U8 :=
  [9, HID_DESC_TYPE_HID] ++ le16 0x0111 ++ [0x00, 1, HID_DESC_TYPE_REPORT] ++ le16 wItemLength

/-- `hid_getDesc`. A keyboard is a boot interface, a mouse has only its protocol set. -/
def hidGetDesc (dev : UsbDevice) (itf : HidIfHandle) (ifNum : U8) : List U8 :=
  [9, USB_DESC_TYPE_INTERFACE, ifNum, 0, 1, 0x03,
    if itf.app.devType = 1 then 1 else 0x00,
    if itf.app.devType = 1 then 1 else if itf.app.devType = 2 then 2 else 0x00,
    usbdIifIndex ifNum 0] ++
  hidClassDesc (.ofNat 16 itf.app.desc.length) ++
  (usbdEpDesc dev itf.inEpNum).dropLast ++ [itf.app.inputInterval]

/-- `hid_getString`: the name, whatever the index inside the interface. -/
def hidGetString (itf : HidIfHandle) (_intNum : U8) : List U8 := itf.app.name

/-! ### The configuration -/

/-- The interface descriptors that the loop of `USBD_ConfigDesc` collects from `ifNum` on. -/
def usbdConfigDesc.interfaces (dev : UsbDevice) : List HidIfHandle → U8 → List U8
  | [],        _     => []
  | itf :: is, ifNum => hidGetDesc dev itf ifNum ++ interfaces dev is (ifNum + 1)

/-- `USBD_ConfigDesc`. -/
def usbdConfigDesc (dev : UsbDevice) : List U8 :=
  let interfaces := usbdConfigDesc.interfaces dev dev.ifs 0
  [9, USB_DESC_TYPE_CONFIGURATION] ++ le16 (.ofNat 16 (9 + interfaces.length)) ++
    [.ofNat 8 dev.ifs.length, 1, USBD_ISTR_CONFIG, 0x80 ||| dev.desc.configBits,
      .ofNat 8 (dev.desc.maxCurrent / 2)] ++ interfaces

/-! ### Strings -/

/-- `USBD_IfString`. The interface number is an `uint8_t`, so index 0 wraps to 255. -/
def usbdIfString (dev : UsbDevice) : Option (List U8) :=
  let ifNum := (lowByte dev.setup.value &&& 0xF) - USBD_ISTR_INTERFACES
  let intNum := lowByte dev.setup.value >>> 4
  dev.ifs[ifNum.toNat]?.map fun itf => hidGetString itf intNum

/-- The string `USBD_GetDescriptor` looks for by the low byte of `Setup.Value`. -/
def usbdString (dev : UsbDevice) : Option (List U8) :=
  let iIndex := lowByte dev.setup.value
  if iIndex = USBD_ISTR_VENDOR then some dev.desc.vendorName
  else if iIndex = USBD_ISTR_PRODUCT then some dev.desc.productName
  else if iIndex = USBD_ISTR_CONFIG then some dev.desc.configName
  else usbdIfString dev

end PikvmHid
