import PikvmHid.Include.Stdint

/-!
# `PikvmHid.Kernel.Event`: the event flags

`kernel/event.h` and `kernel/event.c`. The static `sEventFlag` is the argument and the
result of each function.
-/

set_option autoImplicit false

namespace PikvmHid

/-! ### `KernelEventFlag_t` -/

def KernelEventFlag_CmdIn : U32 := 0x00000001

def KernelEventFlag_Empty : U32 := 0x00000000

/-- `Kernel_event_flag_set`. -/
def kernelEventFlagSet (sEventFlag event : U32) : U32 := sEventFlag ||| event

/-- `Kernel_event_flag_clear`. -/
def kernelEventFlagClear (sEventFlag event : U32) : U32 := sEventFlag &&& ~~~event

/-- `Kernel_event_flag_check`: whether a flag of `event` is set. If so, the flags of
`event` are cleared. -/
def kernelEventFlagCheck (sEventFlag event : U32) : Bool × U32 :=
  if sEventFlag &&& event ≠ 0 then (true, kernelEventFlagClear sEventFlag event)
  else (false, sEventFlag)

end PikvmHid
