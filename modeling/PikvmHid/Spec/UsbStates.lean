import PikvmHid.Spec.UsbReports

/-!
# `PikvmHid.Spec.UsbStates`: the states of a report endpoint

A report endpoint has a state in its handle and another one in its register: the status bits and
the completion flag. The stack keeps them together by hand. `PipeState` lists the combinations
that are meant.

They come apart when a request reconfigures an endpoint whose last report is acknowledged but not
handled: the handler serves the control register first, and then takes the old completion for
one of the new configuration. So `Calm` asks that no such completion waits.
-/

set_option autoImplicit false

namespace PikvmHid

/-- The state of the handle, the status of the register and its completion flag. -/
inductive PipeState : EpState → EpStatus → Bool → Prop where
  | closed : PipeState .closed .dis false
  | idle : PipeState .idle .nak false
  | waits : PipeState .data .valid false
  | sent : PipeState .data .nak true
  | halted : PipeState .stall .stall false

/-- The handler is about to serve a request that reconfigures the pipes. -/
def Reconfiguring (dev : UsbDevice) : Prop :=
  (eprHalf .rx (dev.epr 0)).ctr = true ∧ (eprFields (dev.epr 0)).setup = true ∧
    (bufferedSetup dev 0).Reconfigures

instance (dev : UsbDevice) : Decidable (Reconfiguring dev) :=
  inferInstanceAs (Decidable (_ ∧ _ ∧ _))

/-- No completion of a report waits when the handler serves a request that reconfigures. -/
def Calm (c : UsbDevice × List UsbObs) : UsbAct → Prop
  | .irq => Reconfiguring c.1 → ∀ itf, (eprHalf .tx (pipeReg c.1 itf)).ctr = false
  | _    => True

instance (c : UsbDevice × List UsbObs) (i : UsbAct) : Decidable (Calm c i) :=
  match i with
  | .irq => inferInstanceAs (Decidable (_ → ∀ _, _))
  | .inToken .. => .isTrue trivial
  | .outToken .. => .isTrue trivial
  | .setup .. => .isTrue trivial
  | .busReset => .isTrue trivial
  | .reportIn .. => .isTrue trivial

end PikvmHid
