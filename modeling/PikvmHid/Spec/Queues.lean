import PikvmHid.Kernel.Kernel
import PikvmHid.Lib.BoundedFifo

/-!
# `PikvmHid.Spec.Queues`: the message queues as first-in, first-out queues

A call is a queue name and an operation: `push` is `Kernel_msgQ_enqueue`, `pop` is
`Kernel_msgQ_dequeue`, `take` is `Kernel_recv_msg` and `clear` is `Kernel_flush_msg`.
`queues` makes the calls on the kernel. `fifos` is what they should do: each name has a
bounded queue of its own. The functions accept any name, and a name out of range stands
for a queue that takes nothing.
-/

set_option autoImplicit false

namespace PikvmHid

open Lib Lib.BoundedFifo

/-- A call on a queue. -/
abbrev QueueCall := Nat × Op U8

/-- One call on the kernel. -/
def queueStep (k : Kernel) : QueueCall → Kernel × List (Nat × Result U8)
  | (qname, .push data)  =>
      match k.enqueue qname data with
      | none    => (k, [(qname, .pushed false)])
      | some k' => (k', [(qname, .pushed true)])
  | (qname, .pop)        =>
      match k.dequeue qname with
      | none         => (k, [(qname, .popped none)])
      | some (b, k') => (k', [(qname, .popped (some b))])
  | (qname, .take count) =>
      let r := kernelRecvMsg k qname count
      (r.2, [(qname, .taken r.1)])
  | (qname, .clear)      => (kernelFlushMsg k qname, [(qname, .cleared)])

/-- The queues of the kernel. -/
def queues : Machine Kernel QueueCall (Nat × Result U8) := ⟨queueStep⟩

/-- The bytes that fit in a queue: one slot stays free. -/
def capacityOf (qname : Nat) : Nat :=
  if qname < KernelMsgQ_Num then MSG_Q_SIZE_BYTE - 1 else 0

/-- A bounded queue for each name. -/
def fifos : Machine (Nat → List U8) QueueCall (Nat × Result U8) :=
  Machine.family fun qname => fifo (capacityOf qname)

/-- The call reports that it could not do anything. -/
def Failed : Result U8 → Prop
  | .pushed ok => ok = false
  | .popped b  => b = none
  | .taken l   => l = []
  | .cleared   => False

end PikvmHid
