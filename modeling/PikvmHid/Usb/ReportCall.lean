import PikvmHid.Usb.Bus

/-!
# `PikvmHid.Usb.ReportCall`: a call of `USBD_HID_ReportIn` with interrupts in between

The tasks run with the interrupts enabled. So the handler, and the bus, can come between any two
stores of `USBD_EpSend`: from the test of `State` until the register is `VALID`. `usbSystem` is the
device with a task that makes these stores one by one. `usbMachine` makes them all at once.
-/

set_option autoImplicit false

namespace PikvmHid

/-- Where a call has got to. -/
inductive CallPoint where
  /-- `State` was found to be `IDLE`. -/
  | tested
  /-- `State` is `DATA`. -/
  | marked
  /-- `Transfer.Data` is set. -/
  | aimed
  /-- `Transfer.Progress` is set. -/
  | counted
  /-- `Transfer.Length` is set. -/
  | loaded
  /-- The next packet has this size and goes to this address. -/
  | sized (size pmaAddress : Nat)
  /-- The loop of `USB_prvWritePMA`, with so many halfwords to go. -/
  | writing (n : Nat) (src : Buffer) (dst : Nat)

/-- A call of `USBD_HID_ReportIn` for the interface `i` that will return `USBD_E_OK`. -/
structure ReportCall where
  i : Nat
  epAddr : U8
  bytes : List U8
  point : CallPoint

/-- The device and the call that is under way. -/
structure UsbSystem where
  dev : UsbDevice
  call : Option ReportCall

/-- `USBD_HID_ReportIn` up to the test of `State`. The answer to `GET_REPORT`, which no interface of
this device asks for, is one step. -/
def usbdHidReportIn.begin (dev : UsbDevice) (i : Nat) (bytes : List U8) : UsbSystem × List UsbObs :=
  match dev.ifs[i]? with
  | some itf =>
      let data := Buffer.ofList bytes .zero
      let reportId := lowByte dev.setup.value
      if itf.request ≠ 0 ∧ (reportId = 0 ∨ reportId = data 0) then
        let r := usbdHidReportIn dev i data bytes.length
        (⟨r.2, none⟩, [.report i bytes (r.1 = .ok)])
      else
        let ep := dev.epIn (itf.inEpNum &&& 0xF).toNat
        if ep.state = .idle ∨ ep.type = .isochronous then
          (⟨dev, some ⟨i, itf.inEpNum, bytes, .tested⟩⟩, [])
        else (⟨dev, none⟩, [.report i bytes false])
  | none => (⟨dev, none⟩, [.report i bytes false])

/-- The next store of the call. With the last one the report counts as accepted: nothing is left to do
but to return `USBD_E_OK`. -/
def ReportCall.proceed (call : ReportCall) (dev : UsbDevice) : UsbSystem × List UsbObs :=
  let n := (call.epAddr &&& 0xF).toNat
  let ep := dev.epIn n
  let goOn (dev : UsbDevice) (point : CallPoint) : UsbSystem × List UsbObs :=
    (⟨dev, some { call with point := point }⟩, [])
  match call.point with
  -- `USBD_EpSend`
  | .tested => goOn (dev.setIn n { ep with state := .data }) .marked
  -- `USB_vEpSend`
  | .marked => goOn (dev.setIn n { ep with data := .mem (.ofList call.bytes .zero) }) .aimed
  | .aimed => goOn (dev.setIn n { ep with progress := call.bytes.length }) .counted
  | .counted => goOn (dev.setIn n { ep with length := call.bytes.length }) .loaded
  -- `USB_prvTransmitPacket`
  | .loaded =>
      let r := usbPrvNextPacketSize ep
      goOn (dev.setIn n r.2) (.sized r.1 (dev.pma (bdtTxAddr ep.regId)).toNat)
  | .sized size pmaAddress =>
      goOn (dev.setPma fun p => p.set (bdtTxCount ep.regId) (.ofNat 16 size))
        (.writing ((size + 1) / 2) (ep.data.read dev.ctrlData) (pmaAddress / 2))
  | .writing (k + 1) src dst =>
      goOn (dev.setPma fun p => p.set dst (halfword (src 0) (src 1)))
        (.writing k (src.drop 2) (dst + 1))
  | .writing 0 _ _ =>
      (⟨dev.setEpr ep.regId (setStatus .tx .valid), none⟩, [.report call.i call.bytes true])

/-- What happens next. -/
inductive SystemAct where
  /-- A step of the device. A report begins a call. -/
  | device (i : UsbAct)
  /-- The task goes on with its call. -/
  | task

/-- The device and its bus, with a task that can be interrupted. While a call is under way no other one
begins. -/
def usbSystem : Lib.Machine UsbSystem SystemAct UsbObs where
  step s
    | .device (.reportIn i bytes) =>
        match s.call with
        | some _ => (s, [])
        | none   => usbdHidReportIn.begin s.dev i bytes
    | .device i => (⟨(usbMachine.step s.dev i).1, s.call⟩, (usbMachine.step s.dev i).2)
    | .task =>
        match s.call with
        | some call => call.proceed s.dev
        | none      => (s, [])

end PikvmHid
