import PikvmHid.Kernel.Kernel
import PikvmHid.Lib.Machine

/-!
# `PikvmHid.Spec.Events`: what the event calls should report

A run of `Kernel_send_events` and `Kernel_wait_events` calls with any lists. The trace keeps
which flags a send made pending and what a wait returned.

* `ReportsOne`: a send adds its list to the pending flags, and a wait reports the lowest
  flag of its list that is pending and clears it, or `KernelEventFlag_Empty`.
* `EventsOk`: so does each call of the run, and each time a flag becomes pending it is
  reported once, to a task that compares the result with this flag.
* `LowestIsPending`: no wait passes by a flag of its list that is not pending on the way to
  one that is.
-/

set_option autoImplicit false

namespace PikvmHid

open Lib

/-- The two calls. -/
inductive EventCall where
  | send (list : U32)
  | wait (list : U32)

/-- What a call leaves in the trace. -/
inductive EventObs where
  | raised (flags : U32)
  | reported (flag : U32)
  deriving DecidableEq

/-- One call on the kernel. -/
def eventStep (k : Kernel) : EventCall → Kernel × List EventObs
  | .send list => (kernelSendEvents k list, [.raised (list &&& ~~~k.sEventFlag)])
  | .wait list => ((kernelWaitEvents k list).2, [.reported (kernelWaitEvents k list).1])

/-- The event calls as a machine. -/
def events : Machine Kernel EventCall EventObs := ⟨eventStep⟩

/-- The flag of bit `b`. -/
def flagOf (b : Nat) : U32 := (1 : U32) <<< b

/-- `b` is the lowest bit of `v`. -/
def IsLowestBit (v : U32) (b : Nat) : Prop :=
  v.getLsbD b = true ∧ ∀ j, j < b → v.getLsbD j = false

/-- What the next call should do. -/
def ReportsOne (c : Kernel × List EventObs) : EventCall → Prop
  | .send list =>
      kernelSendEvents c.1 list = { c.1 with sEventFlag := c.1.sEventFlag ||| list }
  | .wait list =>
      (c.1.sEventFlag &&& list = 0 ∧ kernelWaitEvents c.1 list = (KernelEventFlag_Empty, c.1)) ∨
        ∃ b, IsLowestBit (c.1.sEventFlag &&& list) b ∧
          kernelWaitEvents c.1 list
            = (flagOf b, { c.1 with sEventFlag := c.1.sEventFlag &&& ~~~flagOf b })

/-- How often the flag of bit `b` became pending. -/
def raises (b : Nat) (t : List EventObs) : Nat :=
  t.countP fun
    | .raised flags => flags.getLsbD b
    | .reported _   => false

/-- How often the flag of bit `b` was reported, by itself. -/
def reports (b : Nat) (t : List EventObs) : Nat := t.count (.reported (flagOf b))

/-- Each call is as it should be, and at any time each flag has been reported as often as it
became pending, but for the last time if it still is. -/
structure EventsOk (start : Kernel) (calls : List EventCall) : Prop where
  steps : events.Meets ReportsOne (start, []) calls
  reported : ∀ pre, pre <+: calls → ∀ b, b < 32 →
    (start.sEventFlag.getLsbD b).toNat + raises b (events.exec (start, []) pre).2
      = reports b (events.exec (start, []) pre).2
        + ((events.exec (start, []) pre).1.sEventFlag.getLsbD b).toNat

/-- No flag of the list is pending, or the lowest one is. -/
def LowestIsPending (c : Kernel × List EventObs) : EventCall → Prop
  | .send _    => True
  | .wait list =>
      c.1.sEventFlag &&& list = 0 ∨
        ∃ b, IsLowestBit list b ∧ c.1.sEventFlag.getLsbD b = true

end PikvmHid
