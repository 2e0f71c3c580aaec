import Mathlib.Data.List.Chain
import PikvmHid.Lib.Machine
import PikvmHid.Proofs.Framing

/-!
# `PikvmHid.Spec.Boundaries`: where a frame may start

The receive interrupt by itself, on any bytes at any ticks. The kernel that an interrupt
finds is part of its label, since the task changes it in between. The trace keeps what was
received and the frames that went to `Kernel_send_msg`, whether the queue took them or not.

* `FrameOk`: the frame is the last bytes received, and has the shape of a frame; `gap` says
  which bytes may stand in one frame, and `starts` where its first byte may be.
* `FrameBoundary`: the first byte of all, a byte behind a frame, or one behind a gap.
* `Restart`: the interrupt also starts again when its buffer is full.
-/

set_option autoImplicit false

namespace PikvmHid

open Lib

/-- One interrupt: the received byte, its tick, and the kernel at that time. -/
structure Interrupt where
  ch : U8
  tick : U32
  kernel : Kernel

/-- What was received, and the frame that went to `Kernel_send_msg`. -/
structure Received where
  ch : U8
  tick : U32
  frame : Option (List U8)
  deriving DecidableEq

/-- The frame that `Hal_uart_isr` hands to `Kernel_send_msg`, if it completes one. -/
def frameSent (s : UartIsr) (ch : U8) (tick : U32) : Option (List U8) :=
  let idx := storeIndex s tick
  let cmdBuf := s.cmdBuf.set idx ch (storeIndex_lt s tick)
  if sendFrame (cmdBuf.get 0) (idx + 1) ch then some (cmdBuf.toList.take (idx + 1)) else none

/-- The statics of the interrupt as a machine. -/
def uartIsr : Machine UartIsr Interrupt Received where
  step s i := ((halUartIsr s i.kernel i.ch i.tick).isr,
    [⟨i.ch, i.tick, frameSent s i.ch i.tick⟩])

/-! ### Gaps and boundaries -/

/-- At most 50 ticks lie between two bytes. -/
def WithinGap (a b : Received) : Prop := b.tick - a.tick ≤ 50

instance (a b : Received) : Decidable (WithinGap a b) :=
  inferInstanceAs (Decidable (_ ≤ _))

/-- At most 50 ticks lie between two bytes, or 51 in which the tick count wraps. -/
def WithinGapUnlessWrap (a b : Received) : Prop :=
  WithinGap a b ∨ (b.tick < a.tick ∧ b.tick - a.tick = 51)

/-- The byte is the first one, or stands behind a frame or behind more than 50 ticks. -/
def FrameBoundary (before : List Received) (o : Received) : Prop :=
  before = [] ∨ ∃ last ∈ before.getLast?, last.frame ≠ none ∨ ¬ WithinGap last o

instance (before : List Received) (o : Received) : Decidable (FrameBoundary before o) :=
  inferInstanceAs (Decidable (_ ∨ _))

/-- The byte is at a boundary, or behind a full buffer of bytes that start at such a place
and complete no frame. -/
inductive Restart : List Received → Received → Prop where
  | boundary {before : List Received} {o : Received} (h : FrameBoundary before o) :
      Restart before o
  | full {before line : List Received} {first o : Received} (hhead : line.head? = some first)
      (hstart : Restart before first) (hlen : line.length = UART_RX_BUF_LEN)
      (hgap : line.IsChain WithinGapUnlessWrap) (hquiet : ∀ x ∈ line, x.frame = none) :
      Restart (before ++ line) o

/-! ### Frames -/

/-- The bytes received, up to the one that completes a frame, end with the frame. -/
structure FrameOk (gap : Received → Received → Prop)
    (starts : List Received → Received → Prop) (t : List Received) (frame : List U8) :
    Prop where
  bytes : (t.drop (t.length - frame.length)).map (·.ch) = frame
  gaps : (t.drop (t.length - frame.length)).IsChain gap
  shape : IsBinaryFrame frame ∨ IsRawFrame frame ∧ frame.length ≤ UART_RX_BUF_LEN
  start : ∀ o ∈ (t.drop (t.length - frame.length)).head?,
    starts (t.take (t.length - frame.length)) o

/-- Every frame of a trace. -/
def Framed (gap : Received → Received → Prop) (starts : List Received → Received → Prop)
    (t : List Received) : Prop :=
  ∀ pre o frame, pre ++ [o] <+: t → o.frame = some frame → FrameOk gap starts (pre ++ [o]) frame

end PikvmHid
