import PikvmHid.App.CliTask

/-!
# `PikvmHid.Spec.Link`: the device over plain lists

The device of `PikvmHid.App.CliTask` with its storage abstracted: the circular buffer is
the list of bytes it holds, the receive buffer is the list of bytes collected so far,
and the event flags are one Boolean. This is what the serial link is for: bytes are
collected into frames, frames queue up as bytes, and the task takes bytes off the queue
until it has a command.

`Dev.toLink` maps the device to this model, and
`PikvmHid.Proofs.Link` proves that the two make the same observations in every run.
-/

set_option autoImplicit false

namespace PikvmHid

open Lib

/-- The state of the link. -/
structure Link where
  /-- The bytes of the queue `KernelMsgQ_DebugCmd`, oldest first. -/
  queue : List U8
  /-- The flag `KernelEventFlag_CmdIn`. -/
  cmdIn : Bool
  /-- The bytes of the frame under way in the interrupt. -/
  collected : List U8
  lastTick : U32
  kvm : KvmState
  pc : Pc

namespace Link

/-- What the queue takes at most. -/
abbrev capacity : Nat := MSG_Q_SIZE_BYTE - 1

/-- The link at reset. -/
def boot : Link := ⟨[], false, [], 0, .boot, .waitEvents⟩

/-- The frame the byte `ch` at `tick` completes, if it completes one. -/
def completes (l : Link) (ch : U8) (tick : U32) : Option (List U8) :=
  let bytes := withByte l.lastTick l.collected ch tick
  if sendFrame (bytes.headD 0) bytes.length ch then some bytes else none

/-- A complete frame goes to the queue and sets the flag, or empties the queue when it
does not fit. -/
def deliver (l : Link) (frame : List U8) : Link × List Obs :=
  if l.queue.length + frame.length ≤ capacity then
    ({ l with queue := l.queue ++ frame, cmdIn := true }, [.accept frame])
  else ({ l with queue := [] }, [])

/-- The interrupt. -/
def isrStep (l : Link) (ch : U8) (tick : U32) : Link × List Obs :=
  match l.completes ch tick with
  | none => ({ l with
      collected := withByte l.lastTick l.collected ch tick, lastTick := tick }, [])
  | some frame => { l with collected := [], lastTick := tick }.deliver frame

/-- What an interrupt does: it collects a byte, or it completes a frame and the frame is
accepted, or it completes a frame and the queue is emptied. -/
theorem isrStep_cases (l : Link) (ch : U8) (tick : U32) :
    (l.completes ch tick = none ∧
      l.isrStep ch tick = ({ l with
        collected := withByte l.lastTick l.collected ch tick, lastTick := tick }, [])) ∨
    ∃ frame, l.completes ch tick = some frame ∧
      ((l.queue.length + frame.length ≤ capacity ∧
        l.isrStep ch tick = ({ l with
          queue := l.queue ++ frame, cmdIn := true, collected := [], lastTick := tick },
          [.accept frame])) ∨
       (capacity < l.queue.length + frame.length ∧
        l.isrStep ch tick = ({ l with queue := [], collected := [], lastTick := tick }, []))) := by
  unfold isrStep
  cases hf : l.completes ch tick with
  | none => exact Or.inl ⟨rfl, rfl⟩
  | some frame =>
      refine Or.inr ⟨frame, rfl, ?_⟩
      by_cases hfit : l.queue.length + frame.length ≤ capacity
      · exact Or.inl ⟨hfit, if_pos hfit⟩
      · exact Or.inr ⟨Nat.lt_of_not_le hfit, if_neg hfit⟩

/-- The task. -/
def taskStep (l : Link) (env : TaskEnv) : Link × List Obs :=
  match l.pc with
  | .waitEvents =>
      ({ l with cmdIn := false, pc := if l.cmdIn then .recvMsg 0 env.cmdBuf else .yield }, [])
  | .recvMsg i cmdBuf =>
      ({ l with queue := l.queue.tail, pc := afterRecv i cmdBuf l.queue.head? }, [])
  | .dispatch i cmdBuf =>
      let out := handleCommandTail env l.kvm cmdBuf i
      ({ l with kvm := out.state, pc := .transmit out.response },
        handled (handlerOf cmdBuf) (cmdBuf.bytes i) out)
  | .transmit []          => ({ l with pc := .yield }, [])
  | .transmit (b :: rest) => ({ l with pc := .transmit rest }, [.transmit b])
  | .yield                => ({ l with pc := .waitEvents }, [])

/-- One step of the link. -/
def step (l : Link) : Act → Link × List Obs
  | .isr ch tick => l.isrStep ch tick
  | .task env    => l.taskStep env

end Link

/-- The link as a machine. -/
def link : Machine Link Act Obs := ⟨Link.step⟩

/-- The link a device implements. -/
def Dev.toLink (d : Dev) : Link where
  queue := d.kernel.contents KernelMsgQ_DebugCmd
  cmdIn := decide (d.kernel.sEventFlag &&& KernelEventFlag_CmdIn ≠ 0)
  collected := d.isr.collected
  lastTick := d.isr.lastTick
  kvm := d.kvm
  pc := d.pc

end PikvmHid
