import PikvmHid.App.CommonKvm
import PikvmHid.Usb.Device

/-!
# `PikvmHid.App.UsbDevice`: the report descriptors and the device

`app/usb_device.c` with `HID_KB_MS_COMB` 0 and `ABSOLUTE_MOUSE_MODE` 1: the report descriptors of
the two interfaces, with which the device tells the USB host what its reports look like, and the
set-up of the device.
-/

set_option autoImplicit false

namespace PikvmHid

/-- `HID_KB_ReportDesc`. -/
def hidKbReportDesc : List U8 :=
  [0x05, 0x01, 0x09, 0x06, 0xa1, 0x01, 0x05, 0x07,
   -- modifier byte
   0x19, 0xe0, 0x29, 0xe7, 0x15, 0x00, 0x25, 0x01, 0x75, 0x01, 0x95, 0x08, 0x81, 0x02,
   -- reserved byte
   0x95, 0x01, 0x75, 0x08, 0x81, 0x03,
   -- LED report and its padding, an output
   0x95, 0x05, 0x75, 0x01, 0x05, 0x08, 0x19, 0x01, 0x29, 0x05, 0x91, 0x02,
   0x95, 0x01, 0x75, 0x03, 0x91, 0x03,
   -- six key codes, 0 to 101
   0x95, 0x06, 0x75, 0x08, 0x15, 0x00, 0x25, 0x65, 0x05, 0x07, 0x19, 0x00, 0x29, 0x65,
   0x81, 0x00,
   0xc0]

/-- `HID_MS_ReportDesc`. -/
def hidMsReportDesc : List U8 :=
  [0x05, 0x01, 0x09, 0x02, 0xa1, 0x01, 0x09, 0x01, 0xa1, 0x00,
   -- three buttons and their padding
   0x05, 0x09, 0x19, 0x01, 0x29, 0x03, 0x15, 0x00, 0x25, 0x01, 0x95, 0x03, 0x75, 0x01,
   0x81, 0x02, 0x95, 0x01, 0x75, 0x05, 0x81, 0x01,
   -- X and Y, 0 to 32767
   0x05, 0x01, 0x09, 0x30, 0x09, 0x31, 0x15, 0x00, 0x26, 0xff, 0x7f, 0x75, 0x10, 0x95, 0x02,
   0x81, 0x02,
   -- wheel, -127 to 127
   0x09, 0x38, 0x15, 0x81, 0x25, 0x7f, 0x75, 0x08, 0x95, 0x01, 0x81, 0x06,
   0xc0, 0xc0]

/-- The descriptor of an interface. -/
def reportDesc : HidIf → List U8
  | .hidKbIf => hidKbReportDesc
  | .hidMsIf => hidMsReportDesc

/-! ### The device -/

/-- `hdev_cfg`. The names are "MX", "MX HID Emulator" and "MX Keyboard and Mouse config". -/
def hdevCfg : UsbDescription where
  vendorName := [0x4D, 0x58]
  vendorId := 0x0483
  productName :=
    [0x4D, 0x58, 0x20, 0x48, 0x49, 0x44, 0x20, 0x45, 0x6D, 0x75, 0x6C, 0x61, 0x74, 0x6F, 0x72]
  productId := 0x5740
  version := 0x0100
  configName :=
    [0x4D, 0x58, 0x20, 0x4B, 0x65, 0x79, 0x62, 0x6F, 0x61, 0x72, 0x64, 0x20, 0x61, 0x6E, 0x64,
     0x20, 0x4D, 0x6F, 0x75, 0x73, 0x65, 0x20, 0x63, 0x6F, 0x6E, 0x66, 0x69, 0x67]
  maxCurrent := 100
  configBits := 0

/-- `hid_kb_app` with `hid_kb_report`, named "KB Emulator". -/
def hidKbApp : HidApp where
  name := [0x4B, 0x42, 0x20, 0x45, 0x6D, 0x75, 0x6C, 0x61, 0x74, 0x6F, 0x72]
  desc := hidKbReportDesc
  inputMaxSize := HID_KB_REPORT_BYTE
  inputInterval := 20
  devType := 1

/-- `hid_ms_app` with `hid_ms_report`, named "MS Emulator". -/
def hidMsApp : HidApp where
  name := [0x4D, 0x53, 0x20, 0x45, 0x6D, 0x75, 0x6C, 0x61, 0x74, 0x6F, 0x72]
  desc := hidMsReportDesc
  inputMaxSize := HID_MS_REPORT_BYTE
  inputInterval := 20
  devType := 2

/-- `h_hid_kb_if` and `h_hid_ms_if`, with `Config.InEpNum` as `usb_device_init` sets it. -/
def hidIfHandle : HidIf → HidIfHandle
  | .hidKbIf =>
      { app := hidKbApp, inEpNum := 0x87, altSelector := 0, altCount := 1, request := 0, idleRate := 0 }
  | .hidMsIf =>
      { app := hidMsApp, inEpNum := 0x85, altSelector := 0, altCount := 1, request := 0, idleRate := 0 }

/-- An endpoint handle before anything is stored in it. -/
def usbEpZero : UsbEp where
  data := .null
  length := 0
  progress := 0
  maxPacketSize := 0
  type := .control
  state := .closed
  ifNum := 0
  regId := 0

/-- `h_usb_device` before `usb_device_init`, with the registers after power-on. The packet memory
holds anything. -/
def usbDeviceZero (pma : Pma) : UsbDevice where
  desc := hdevCfg
  setup := { requestType := 0, request := 0, value := 0, index := 0, length := 0 }
  remoteWakeup := false
  selfPowered := false
  configSelector := 0
  ifs := []
  epIn := fun _ => usbEpZero
  epOut := fun _ => usbEpZero
  ctrlData := .zero
  epr := fun _ => 0
  pma := pma
  daddr := 0
  reset := false

/-- `usb_device_init`: the keyboard is interface 0 and the mouse interface 1. -/
def usbDeviceInit (pma : Pma) : UsbDevice :=
  let dev := (usbdHidMountInterface (hidIfHandle .hidKbIf) (usbDeviceZero pma)).2
  let dev := (usbdHidMountInterface (hidIfHandle .hidMsIf) dev).2
  usbdInit dev hdevCfg

end PikvmHid
