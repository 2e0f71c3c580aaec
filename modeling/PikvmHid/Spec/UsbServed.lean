import PikvmHid.Spec.UsbAborts
import PikvmHid.Spec.UsbReports

/-!
# `PikvmHid.Spec.UsbServed`: the requests that the handler serves

* `takenRequests`: the requests whose SETUP packets the peripheral takes in a run.
* `waitingRequest`: the request in the packet memory that the handler has yet to see.
* `servedRequests`: those that it sees.
* `AddressFrom`, `ConfigurationFrom`: the address and the configuration are as before, as after a
  reset, or those of a request.
-/

set_option autoImplicit false

namespace PikvmHid

/-- The request of a SETUP packet that is taken. -/
def takenRequest (dev : UsbDevice) : UsbAct → List SetupRequest
  | .setup req => if Takes dev req then [req] else []
  | _          => []

/-- The request that waits for the handler. -/
def waitingRequest (dev : UsbDevice) : List SetupRequest :=
  if (eprHalf .rx (dev.epr 0)).ctr = true ∧ (eprFields (dev.epr 0)).setup = true then
    [bufferedSetup dev 0]
  else []

/-- The handler sees the request that waits. -/
def servedRequest (dev : UsbDevice) : UsbAct → List SetupRequest
  | .irq => waitingRequest dev
  | _    => []

/-- A `SET_ADDRESS` request as `USBD_CtrlInCallback` knows it. -/
def SetupRequest.SetsAddress (s : SetupRequest) : Prop :=
  s.requestType = 0x00 ∧ s.request = USB_REQ_SET_ADDRESS

/-- A `SET_CONFIGURATION` request. -/
def SetupRequest.SetsConfiguration (s : SetupRequest) : Prop :=
  s.type = USB_REQ_TYPE_STANDARD ∧ s.recipient = USB_REQ_RECIPIENT_DEVICE ∧
    s.request = USB_REQ_SET_CONFIGURATION ∧ lowByte s.value ≤ USBD_MAX_CONFIGURATION_COUNT

/-- `DADDR` is as before, zero, or enables address 0 or the address of one of the requests. -/
def AddressFrom (reqs : List SetupRequest) (daddr daddr' : U8) : Prop :=
  daddr' = daddr ∨ daddr' = 0 ∨ daddr' = 0x80 ∨
    ∃ s ∈ reqs, s.SetsAddress ∧ daddr' = 0x80 ||| (lowByte s.value &&& 0x7F)

/-- The configuration is as before, none, or the one of one of the requests. -/
def ConfigurationFrom (reqs : List SetupRequest) (n n' : U8) : Prop :=
  n' = n ∨ n' = 0 ∨ ∃ s ∈ reqs, s.SetsConfiguration ∧ n' = lowByte s.value

end PikvmHid
