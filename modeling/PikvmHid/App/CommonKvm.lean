import PikvmHid.Include.Stdint

/-!
# `PikvmHid.App.CommonKvm`: sending reports and responses

`app/common_kvm.h`, `app/common_kvm.c`, and the report sizes of `app/usb_device.h`. The
USB stack behind `USBD_HID_ReportIn` is the environment: `usb n` says whether the
`n`-th call of a command is accepted. Every call is recorded, with the report it was
given. A response is the list of bytes `send_uart_raw` puts on UART3. The debug output
on UART1 is left out.
-/

set_option autoImplicit false

namespace PikvmHid

/-! ### `usb_device.h` -/

abbrev HID_KB_MS_COMB : Nat := 0

abbrev HID_KB_REPORT_RAW_BYTE : Nat := 8

abbrev HID_KB_REPORT_BYTE : Nat := HID_KB_REPORT_RAW_BYTE

abbrev HID_MS_REPORT_BYTE : Nat := HID_KB_REPORT_BYTE - 2

/-! ### `common_kvm.h` -/

abbrev MAX_CMD_LEN : Nat := 20

abbrev HID_DEV_KEYBOARD : U8 := 1

abbrev HID_DEV_MOUSE : U8 := 2

abbrev HID_DEV_ALL : U8 := 0xFF

abbrev USB_FNR_LCK : U16 := 0x2000

/-- The two interfaces, `hid_kb_if` and `hid_ms_if`. -/
inductive HidIf where
  | hidKbIf
  | hidMsIf
  deriving DecidableEq, Repr

/-- One call of `USBD_HID_ReportIn`: the interface, the report, and whether the call
returned `USBD_E_OK`. -/
structure ReportIn where
  itf : HidIf
  report : List U8
  ok : Bool
  deriving DecidableEq, Repr

/-! ### `hid_state` -/

/-- `set_hid_state`. -/
def setHidState (hidState device : U8) (state : Bool) : U8 :=
  if device = HID_DEV_ALL then if state then 0xff else 0x00
  else if device ≠ HID_DEV_KEYBOARD ∧ device ≠ HID_DEV_MOUSE then hidState
  else if state then hidState ||| ((1 : U8) <<< device)
  else hidState &&& ~~~((1 : U8) <<< device)

/-- `get_hid_state`. -/
def getHidState (hidState device : U8) : Bool :=
  if device ≠ HID_DEV_KEYBOARD ∧ device ≠ HID_DEV_MOUSE then false
  else hidState &&& ((1 : U8) <<< device) ≠ 0

/-! ### `send_hid_report` -/

/-- The loop of `send_hid_report` before its `n`-th call, with `retry` more behind it.
It returns the calls and the outcome of the last. -/
def sendHidReport.loop (usb : Nat → Bool) (itf : HidIf) (report : List U8) :
    Nat → Nat → List ReportIn × Bool
  | 0,         n => ([⟨itf, report, usb n⟩], usb n)
  | retry + 1, n =>
      if usb n then ([⟨itf, report, true⟩], true)
      else
        let r := loop usb itf report retry (n + 1)
        (⟨itf, report, false⟩ :: r.1, r.2)

/-- `send_hid_report`: the calls made, and the return value. -/
def sendHidReport (usb : Nat → Bool) (itf : HidIf) (data : Buffer) (length retry : Nat) :
    List ReportIn × Nat :=
  let r := sendHidReport.loop usb itf (data.bytes length) retry 0
  (r.1, if r.2 then length else 0)

end PikvmHid
