import PikvmHid.Kernel.Kernel

/-!
# `PikvmHid.Spec.SendMsg`: all of a message or nothing

`Kernel_send_msg` queues a message whole, or fails and leaves the queue as it was. A sender
that sees it fail may then try again later, and no reader sees the half of a message.
-/

set_option autoImplicit false

namespace PikvmHid

/-- The call returns true with the message behind what was queued, or false with nothing
changed. -/
def AllOrNothing (k : Kernel) (qname : Nat) (data : List U8) : Prop :=
  ((kernelSendMsg k qname data).1 = true ∧
      (kernelSendMsg k qname data).2.contents qname = k.contents qname ++ data) ∨
    ((kernelSendMsg k qname data).1 = false ∧
      (kernelSendMsg k qname data).2.contents qname = k.contents qname)

/-- The bytes a queue has room for. -/
def Kernel.room (k : Kernel) (qname : Nat) : Nat :=
  MSG_Q_SIZE_BYTE - 1 - (k.contents qname).length

end PikvmHid
