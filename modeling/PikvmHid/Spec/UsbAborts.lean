import PikvmHid.Spec.UsbWrites

/-!
# `PikvmHid.Spec.UsbAborts`: a request while a transfer is under way

A host may drop a control transfer and begin the next with a new SETUP packet, eight bytes. The
peripheral takes it only if they fit the receive buffer that the driver has told it of, and the driver
makes that buffer as small as the packet that is due.

* `ctrlCapacity`: the size of that buffer.
* `Takes`: a SETUP packet is taken.
* `DropsTransfer`: steps of a host that does not go on with the transfer.
* `TakesRequests`: what a device whose handler is done makes of SETUP packets.
-/

set_option autoImplicit false

namespace PikvmHid

/-- The bytes the control endpoint receives at most. -/
def ctrlCapacity (dev : UsbDevice) : Nat := rxCapacity (dev.pma (bdtRxCount 0))

/-- The completion flag is up after the SETUP packet, and was not before. -/
def Takes (dev : UsbDevice) (req : SetupRequest) : Prop :=
  (eprHalf .rx (dev.epr 0)).ctr = false ∧ (eprHalf .rx ((busSetup dev req).epr 0)).ctr = true

instance (dev : UsbDevice) (req : SetupRequest) : Decidable (Takes dev req) :=
  inferInstanceAs (Decidable (_ ∧ _))

/-- No OUT packet to endpoint 0, and no reset. -/
def DropsTransfer : UsbAct → Prop
  | .outToken n _ => n ≠ 0
  | .busReset     => False
  | _             => True

/-- A request is taken if the buffer has room for it. -/
structure TakesRequests (c : UsbDevice × List UsbObs) : Prop where
  takes : ∀ req, Takes c.1 req ↔ 8 ≤ ctrlCapacity c.1
  /-- Without the room the endpoint is ready for a shorter packet. -/
  ready : ctrlCapacity c.1 < 8 → (eprHalf .rx (c.1.epr 0)).stat = .valid
  /-- Nor does a later request get through. -/
  refuses : ctrlCapacity c.1 < 8 → ∀ post, (∀ i ∈ post, DropsTransfer i) →
    usbMachine.Meets Contained c post → ∀ req, ¬ Takes (usbMachine.exec c post).1 req
  /-- `SET_REPORT` without data: the host gets the status packet, and then the handler is done. -/
  completes : ∀ req, ReportRequest c.1 req → req.length = 0 →
    let c' := usbMachine.exec c [.setup req, .irq, .inToken 0 true, .irq]
    c'.2 = c.2 ++ [.packet 0 true [] true] ∧ pendingEp c'.1 = none
  /-- There, as wherever the handler is done with this request, the room is lost. -/
  leaves : ∀ req, ReportRequest c.1 req → req.length = 0 → ∀ post, (∀ i ∈ post, DropsTransfer i) →
    usbMachine.Meets Contained c (.setup req :: post) →
      pendingEp (usbMachine.exec c (.setup req :: post)).1 = none →
        ctrlCapacity (usbMachine.exec c (.setup req :: post)).1 < 8

end PikvmHid
