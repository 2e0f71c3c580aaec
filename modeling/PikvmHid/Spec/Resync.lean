import PikvmHid.Spec.Boundaries

/-!
# `PikvmHid.Spec.Resync`: the first byte behind a silence

More than 50 ticks without a byte end a frame that is under way. The next byte starts one,
so a sender gets in step again by waiting.
-/

set_option autoImplicit false

namespace PikvmHid

open Lib

/-- The bytes of one frame that fits the buffer, at most 50 ticks apart. -/
structure FrameWritten (is : List Interrupt) : Prop where
  isFrame : IsBinaryFrame (is.map (·.ch)) ∨ IsRawFrame (is.map (·.ch))
  length_le : is.length ≤ UART_RX_BUF_LEN
  gaps : is.IsChain fun a b => b.tick - a.tick ≤ 50

/-- The byte that comes at `tick` is stored as the first one, and a frame that starts with
it goes to `Kernel_send_msg` with its last byte, and nothing before. -/
structure Resyncs (s : UartIsr) (tick : U32) : Prop where
  stored : storeIndex s tick = 0
  emitted : ∀ i is, i.tick = tick → FrameWritten (i :: is) →
    (uartIsr.exec (s, []) (i :: is)).2.map (·.frame)
      = List.replicate is.length none ++ [some ((i :: is).map (·.ch))]

/-- A frame is under way, and the tick count wraps in a gap of 51 ticks. -/
def WrapHidesGap (s : UartIsr) (tick : U32) : Prop :=
  (0 < s.cmdCnt ∧ s.cmdCnt < UART_RX_BUF_LEN) ∧ tick < s.lastTick ∧ tick - s.lastTick = 51

instance (s : UartIsr) (tick : U32) : Decidable (WrapHidesGap s tick) :=
  inferInstanceAs (Decidable (_ ∧ _))

end PikvmHid
