import PikvmHid.Spec.UsbControl

/-!
# `PikvmHid.Spec.UsbWrites`: control writes

A `SET_REPORT` request, whose data stage goes to the device. The host sends packets to endpoint 0, and
the handler stores them in `CtrlData`.

* `ReportRequest`, `WriteRequest`: a `SET_REPORT` request that the device takes, and one with data.
* `outBytes`: the bytes of the packets that endpoint 0 takes in a run.
* `KeepsWrite`: steps that belong to the transfer or do not concern it.
-/

set_option autoImplicit false

namespace PikvmHid

/-- A `SET_REPORT` request for an interface of the configured device. -/
structure ReportRequest (dev : UsbDevice) (req : SetupRequest) : Prop
    extends TakenRequest dev req where
  requestType : req.requestType = 0x21
  request : req.request = HID_REQ_SET_REPORT
  config : dev.configSelector ≠ 0
  mounted : req.indexLow.toNat < dev.ifs.length

/-- Such a request with a data stage. -/
structure WriteRequest (dev : UsbDevice) (req : SetupRequest) : Prop
    extends ReportRequest dev req where
  length : req.length ≠ 0

/-- The bytes of a packet, if endpoint 0 takes it: then its completion flag goes up. -/
def outTaken (dev : UsbDevice) : UsbAct → List U8
  | .outToken n bytes =>
      if n = 0 ∧ (eprHalf .rx (dev.epr 0)).ctr = false ∧
          (eprHalf .rx ((busOut dev 0 bytes).epr 0)).ctr = true then bytes
      else []
  | _ => []

/-- The bytes that endpoint 0 takes in a run. -/
def outBytes (dev : UsbDevice) : List UsbAct → List U8
  | []      => []
  | i :: is => outTaken dev i ++ outBytes (usbMachine.step dev i).1 is

/-- No new request and no reset. -/
def KeepsWrite : UsbAct → Prop
  | .setup _  => False
  | .busReset => False
  | _         => True

end PikvmHid
