import PikvmHid.Spec.Link

/-!
# `PikvmHid.Spec.Host`: the host on the other end of UART3

A host writes messages one byte after the other, as the classes of `script/hid_test.py` do.
It sees the device only through the bytes on UART3. `StopAndWait` is its discipline: it
starts a message when all responses to the messages before are there, and between two
bytes of one message it lets at most 50 ticks go by. Ticks may wrap between any two
bytes.

`hosted` is the device with a host beside it. A step of the interrupt takes the host's
next byte, a step of the task leaves the host alone.

`HandlerRun` says what the commands of a run do: each is given to its handler, in the state that the
commands before have left.
-/

set_option autoImplicit false

namespace PikvmHid

open Lib

/-- What a host has done, and what it has left to do. -/
structure Host where
  /-- The messages it has not started. -/
  todo : List (List U8)
  /-- What is left of the message under way. -/
  cur : List U8
  /-- The number of messages it has started. -/
  sent : Nat
  /-- The tick of its last byte. -/
  lastTick : U32

namespace Host

/-- A host with these messages to write. -/
def start (messages : List (List U8)) : Host := ⟨messages, [], 0, 0⟩

/-- The byte it writes next. -/
def next? (h : Host) : Option U8 :=
  match h.cur, h.todo with
  | b :: _, _            => some b
  | [],     (b :: _) :: _ => some b
  | [],     _            => none

/-- It writes its next byte at `tick`. -/
def write (h : Host) (tick : U32) : Host :=
  match h.cur, h.todo with
  | _ :: rest, _          => { h with cur := rest, lastTick := tick }
  | [],        m :: todo  => ⟨todo, m.tail, h.sent + 1, tick⟩
  | [],        []         => h

/-- The host's part of a step. -/
def follow (h : Host) : Act → Host
  | .isr _ tick => h.write tick
  | .task _     => h

/-- Each message it has started has its response, and all of their bytes are out. None of the
responses is empty (`InOrder.replies`). -/
def Answered (h : Host) (t : List Obs) : Prop :=
  (responses t).length = h.sent ∧ transmitted t = (responses t).flatten

instance (h : Host) (t : List Obs) : Decidable (h.Answered t) :=
  inferInstanceAs (Decidable (_ ∧ _))

/-- The discipline. A received byte is the host's next one. The first byte of a message
waits for the responses, and any other byte comes at most 50 ticks after the one
before. -/
def StopAndWait (h : Host) (t : List Obs) : Act → Prop
  | .task _      => True
  | .isr ch tick => h.next? = some ch ∧
      if h.cur = [] then h.Answered t else tick - h.lastTick ≤ 50

instance (h : Host) (t : List Obs) : DecidablePred (h.StopAndWait t)
  | .task _      => isTrue trivial
  | .isr ch tick => inferInstanceAs (Decidable (h.next? = some ch ∧
      if h.cur = [] then h.Answered t else tick - h.lastTick ≤ 50))

end Host

/-- The device with a host beside it. -/
def hosted : Machine (Dev × Host) Act Obs := device.withParty Host.follow

/-- The link with a host beside it. -/
def hostedLink : Machine (Link × Host) Act Obs := link.withParty Host.follow

/-- The host keeps its discipline in a step. -/
def HostOk {σ : Type} (c : (σ × Host) × List Obs) (a : Act) : Prop := c.1.2.StopAndWait c.2 a

instance {σ : Type} (c : (σ × Host) × List Obs) (a : Act) : Decidable (HostOk c a) :=
  inferInstanceAs (Decidable (c.1.2.StopAndWait c.2 a))

/-! ### The handlers -/

/-- A call of a handler. -/
def handlerCall (handler : Handler) (env : HandlerEnv) (st : KvmState) (cmdBuf : Buffer)
    (cmdLen : Nat) : HandlerOut :=
  match handler with
  | .pikvm  => handlePikvmCommand env st cmdBuf cmdLen
  | .rawkvm => handleRawkvmCommand env st cmdBuf cmdLen

/-- The calls of a run that starts in the state `st`, with what their handlers leave. Each handler
finds the state that the calls before have left, behind the lock tracking of `handle_command`,
and a buffer that starts with its command. -/
inductive HandlerRun (st : KvmState) : List (Handler × List U8) → List HandlerOut → KvmState → Prop where
  | nil : HandlerRun st [] [] st
  | call {calls : List (Handler × List U8)} {outs : List HandlerOut} {st' : KvmState}
      (before : HandlerRun st calls outs st') (handler : Handler) (env : TaskEnv) (cmdBuf : Buffer)
      (cmdLen : Nat) :
      HandlerRun st (calls ++ [(handler, cmdBuf.bytes cmdLen)])
        (outs ++ [handlerCall handler env.handler (trackLock st' env.fnr) cmdBuf cmdLen])
        (handlerCall handler env.handler (trackLock st' env.fnr) cmdBuf cmdLen).state

/-- The calls, the reports and the responses of a run from `st` to `st'` are those of the
handlers. -/
def ByHandlers (st st' : KvmState) (t : List Obs) : Prop :=
  ∃ outs, HandlerRun st (dispatched t) outs st' ∧
    reportIns t = outs.flatMap HandlerOut.reportIns ∧
    responses t = outs.map HandlerOut.response

/-! ### An idle device -/

/-- An idle device: nothing is collected, nothing waits in the queue, the event `CmdIn` is not
pending, and the task is between two commands, before `Kernel_wait_events` or `Kernel_yield`. A
device with a pending event is not idle, it owes a response to that event. -/
structure Idle (d : Dev) : Prop where
  accumulator : d.isr.cmdCnt = 0
  queue : d.kernel.contents KernelMsgQ_DebugCmd = []
  event : d.kernel.sEventFlag &&& KernelEventFlag_CmdIn = 0
  pc : d.pc = .waitEvents ∨ d.pc = .yield

/-- An idle device has collected no byte of a frame. -/
theorem Idle.collected_eq {d : Dev} (h : Idle d) : d.isr.collected = [] := by
  rw [UartIsr.collected, h.accumulator, List.take_zero]

/-- The device at reset is idle. -/
theorem Idle.boot : Idle Dev.boot := ⟨rfl, rfl, rfl, Or.inl rfl⟩

end PikvmHid
