import PikvmHid.Spec.UsbStates
import PikvmHid.Usb.ReportCall

/-!
# `PikvmHid.Spec.UsbSystem`: calls that are not disturbed

A call of `USBD_HID_ReportIn` shares the endpoint with the interrupt handler, and nothing locks it.
A request that opens, closes or halts the endpoint between two stores of the call, or a bus reset that
is served there, leaves the handle and the register in states that do not belong together.
`Undisturbed` asks that none does. Everything else may come between two stores.
-/

set_option autoImplicit false

namespace PikvmHid

/-- The device after start-up, and no call. -/
def systemInit (pma : Pma) : UsbSystem := ⟨usbDeviceInit pma, none⟩

/-- The handler is about to reconfigure the pipes, by a request or for the bus reset. -/
def Disturbing (dev : UsbDevice) : Prop :=
  Reconfiguring dev ∨ dev.reset = true ∧ pendingEp dev = none

instance (dev : UsbDevice) : Decidable (Disturbing dev) :=
  inferInstanceAs (Decidable (_ ∨ _ ∧ _))

/-- While a call is under way the handler does not reconfigure the pipes. -/
def Undisturbed (c : UsbSystem × List UsbObs) : SystemAct → Prop
  | .device .irq => c.1.call.isSome = true → ¬ Disturbing c.1.dev
  | _            => True

instance (c : UsbSystem × List UsbObs) (i : SystemAct) : Decidable (Undisturbed c i) :=
  match i with
  | .device .irq => inferInstanceAs (Decidable (_ → _))
  | .device (.reportIn ..) => .isTrue trivial
  | .device (.inToken ..) => .isTrue trivial
  | .device (.outToken ..) => .isTrue trivial
  | .device (.setup ..) => .isTrue trivial
  | .device .busReset => .isTrue trivial
  | .task => .isTrue trivial

/-- A condition on the steps of the device. -/
def OnDevice (K : UsbDevice × List UsbObs → UsbAct → Prop) (c : UsbSystem × List UsbObs) :
    SystemAct → Prop
  | .device i => K (c.1.dev, c.2) i
  | .task     => True

instance (K : UsbDevice × List UsbObs → UsbAct → Prop) [∀ c i, Decidable (K c i)]
    (c : UsbSystem × List UsbObs) (i : SystemAct) : Decidable (OnDevice K c i) :=
  match i with
  | .device i => inferInstanceAs (Decidable (K (c.1.dev, c.2) i))
  | .task => .isTrue trivial

/-- A step of the device without a stray access and with no completion in the way of a request that
reconfigures. -/
def ContainedCalm (c : UsbDevice × List UsbObs) (i : UsbAct) : Prop := Contained c i ∧ Calm c i

instance (c : UsbDevice × List UsbObs) (i : UsbAct) : Decidable (ContainedCalm c i) :=
  inferInstanceAs (Decidable (_ ∧ _))

/-- A step of the system: what the device does is contained and calm, and no call is disturbed. -/
def SystemCalm (c : UsbSystem × List UsbObs) (i : SystemAct) : Prop :=
  OnDevice ContainedCalm c i ∧ Undisturbed c i

instance (c : UsbSystem × List UsbObs) (i : SystemAct) : Decidable (SystemCalm c i) :=
  inferInstanceAs (Decidable (_ ∧ _))

/-- What a report endpoint may look like. While a call for it is under way its handle is idle or has
a report, and its register still waits for one. -/
def SystemPipe (s : UsbSystem) (itf : HidIf) (state : EpState) (stat : EpStatus) (ctr : Bool) :
    Prop :=
  if ∃ call ∈ s.call, call.i = itf.index then
    (state = .idle ∨ state = .data) ∧ stat = .nak ∧ ctr = false
  else PipeState state stat ctr

end PikvmHid
