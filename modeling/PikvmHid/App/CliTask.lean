import PikvmHid.App.HidRawkvm
import PikvmHid.Lib.Machine

/-!
# `PikvmHid.App.CliTask`: the command task and the interrupt beside it

`app/cli_task.c`, together with `Hal_uart_isr` as the other party. The device is one
machine with two kinds of step: an interrupt with a received byte and its tick, and a
step of the task. The task stops at every kernel call and at every transmitted byte, so
an interrupt can fall between any two of these. What the task reads from its
environment is in the label of the step: the stack where its local arrays lie, the
sampled frame number register, and the outcomes of the USB calls.

`Kernel_yield` changes nothing here: `main.c` creates one task, and the scheduler
selects it again.
-/

set_option autoImplicit false

namespace PikvmHid

open Lib

/-- Where `cli_task` stands. -/
inductive Pc where
  /-- Before `Kernel_wait_events`. -/
  | waitEvents
  /-- In the loop of `handle_command`, before `Kernel_recv_msg` for `cmd_buf[i]`. -/
  | recvMsg (i : Nat) (cmdBuf : Buffer)
  /-- Behind the loop with `valid` set, before the handler is called. -/
  | dispatch (i : Nat) (cmdBuf : Buffer)
  /-- In `send_uart_raw`, with these bytes left. -/
  | transmit (rest : List U8)
  /-- Before `Kernel_yield`. -/
  | yield

/-- The two command handlers. -/
inductive Handler where
  | pikvm
  | rawkvm
  deriving DecidableEq, Repr

/-- What shows of the device from outside, and where its parties meet. -/
inductive Obs where
  /-- `Kernel_send_msg` took a frame. -/
  | accept (frame : List U8)
  /-- A handler was called with a buffer whose first `cmd_len` bytes are these. -/
  | dispatch (handler : Handler) (cmd : List U8)
  /-- `USBD_HID_ReportIn` was called. -/
  | reportIn (call : ReportIn)
  /-- A response was started. -/
  | response (bytes : List U8)
  /-- A byte went out on UART3. -/
  | transmit (b : U8)
  deriving DecidableEq, Repr

/-! ### Reading a trace -/

/-- The frames that `Kernel_send_msg` took, as received. -/
def accepted (t : List Obs) : List (List U8) :=
  t.filterMap fun | .accept frame => some frame | _ => none

/-- The handler calls, each with its handler and the first `cmd_len` bytes of its
buffer. -/
def dispatched (t : List Obs) : List (Handler × List U8) :=
  t.filterMap fun | .dispatch h cmd => some (h, cmd) | _ => none

/-- The calls of `USBD_HID_ReportIn`. -/
def reportIns (t : List Obs) : List ReportIn :=
  t.filterMap fun | .reportIn call => some call | _ => none

/-- The responses started. -/
def responses (t : List Obs) : List (List U8) :=
  t.filterMap fun | .response bytes => some bytes | _ => none

/-- The bytes that went out on UART3. -/
def transmitted (t : List Obs) : List U8 :=
  t.filterMap fun | .transmit b => some b | _ => none

section
variable (s t : List Obs)

/-- The frames accepted along a longer run. -/
@[simp] theorem accepted_append : accepted (s ++ t) = accepted s ++ accepted t :=
  List.filterMap_append

/-- The commands dispatched along it. -/
@[simp] theorem dispatched_append : dispatched (s ++ t) = dispatched s ++ dispatched t :=
  List.filterMap_append

/-- The report calls along it. -/
@[simp] theorem reportIns_append : reportIns (s ++ t) = reportIns s ++ reportIns t :=
  List.filterMap_append

/-- The responses along it. -/
@[simp] theorem responses_append : responses (s ++ t) = responses s ++ responses t :=
  List.filterMap_append

/-- The bytes transmitted along it. -/
@[simp] theorem transmitted_append : transmitted (s ++ t) = transmitted s ++ transmitted t :=
  List.filterMap_append

end

/-- What a handler call shows: the call, its reports, and the start of its response. -/
def handled (h : Handler) (cmd : List U8) (out : HandlerOut) : List Obs :=
  .dispatch h cmd :: (out.reportIns.map .reportIn ++ [.response out.response])

section
variable (h : Handler) (cmd : List U8) (out : HandlerOut)

/-- Handling a command accepts no frame. -/
@[simp] theorem accepted_handled : accepted (handled h cmd out) = [] := by
  simp [accepted, handled]

/-- It dispatches that command. -/
@[simp] theorem dispatched_handled : dispatched (handled h cmd out) = [(h, cmd)] := by
  simp [dispatched, handled]

/-- It makes the report calls of the handler's output. -/
@[simp] theorem reportIns_handled : reportIns (handled h cmd out) = out.reportIns := by
  simp [reportIns, handled]

/-- It gives the response of that output. -/
@[simp] theorem responses_handled : responses (handled h cmd out) = [out.response] := by
  simp [responses, handled]

/-- It transmits nothing yet. -/
@[simp] theorem transmitted_handled : transmitted (handled h cmd out) = [] := by
  simp [transmitted, handled]

end

/-! ### The device -/

/-- The statics of the device, and where its task stands. -/
structure Dev where
  kernel : Kernel
  isr : UartIsr
  kvm : KvmState
  pc : Pc

/-- The device at reset. -/
def Dev.boot : Dev := ⟨.boot, .boot, .boot, .waitEvents⟩

/-- What a step of the task reads: the stack where `cmd_buf` lies, the frame number
register, and what the handlers read. -/
structure TaskEnv where
  cmdBuf : Buffer
  fnr : U16
  handler : HandlerEnv

/-- The labels: a received byte with its tick, or a step of the task. -/
inductive Act where
  | isr (ch : U8) (tick : U32)
  | task (env : TaskEnv)

/-- The lock tracking of `handle_command`: a sample without lock marks both devices
offline, and the first sample with lock marks both online. -/
def trackLock (st : KvmState) (fnr : U16) : KvmState :=
  let hidState :=
    if fnr &&& USB_FNR_LCK = 0 then setHidState st.hidState HID_DEV_ALL false
    else if st.lastFnr &&& USB_FNR_LCK = 0 then setHidState st.hidState HID_DEV_ALL true
    else st.hidState
  { st with hidState := hidState, lastFnr := fnr }

/-- The handler the first byte of the buffer selects. -/
def handlerOf (cmdBuf : Buffer) : Handler := if cmdBuf 0 = MAGIC then .pikvm else .rawkvm

/-- The part of `handle_command` behind its loop, for a valid command. -/
def handleCommandTail (env : TaskEnv) (st : KvmState) (cmdBuf : Buffer) (i : Nat) :
    HandlerOut :=
  let st := trackLock st env.fnr
  match handlerOf cmdBuf with
  | .pikvm  => handlePikvmCommand env.handler st cmdBuf i
  | .rawkvm => handleRawkvmCommand env.handler st cmdBuf i

/-- The loop body of `handle_command` once `Kernel_recv_msg` returned: where the task
goes with the byte, or without one. -/
def afterRecv (i : Nat) (cmdBuf : Buffer) : Option U8 → Pc
  | none    => .dispatch i (cmdBuf.set i 0)
  | some ch =>
      if cmdBuf 0 ≠ MAGIC ∧ IsEol ch then .dispatch i (cmdBuf.set i 0)
      else if i + 1 < MAX_CMD_LEN then .recvMsg (i + 1) (cmdBuf.set i ch)
      else .yield

/-- What a call of `handle_command` leaves: the kernel, the handler it called with its
`cmd_len`, and what that handler left. -/
structure CommandOut where
  kernel : Kernel
  called : Option (Handler × Nat)
  state : KvmState
  reportIns : List ReportIn
  response : List U8

/-- The loop of `handle_command`, `n` bytes before its end: the kernel, and `i` and the buffer
if `valid` is set. -/
def handleCommand.loop : Nat → Kernel → Nat → Buffer → Kernel × Option (Nat × Buffer)
  | 0,     k, _, _      => (k, none)
  | n + 1, k, i, cmdBuf =>
      let r := kernelRecvMsg k KernelMsgQ_DebugCmd 1
      match afterRecv i cmdBuf r.1.head? with
      | .dispatch i cmdBuf => (r.2, some (i, cmdBuf))
      | .recvMsg i cmdBuf  => loop n r.2 i cmdBuf
      | _                  => (r.2, none)

/-- `handle_command` as one call, with no interrupt in between. -/
def handleCommand (env : TaskEnv) (k : Kernel) (st : KvmState) : CommandOut :=
  let r := handleCommand.loop MAX_CMD_LEN k 0 env.cmdBuf
  match r.2 with
  | none             => ⟨r.1, none, st, [], []⟩
  | some (i, cmdBuf) =>
      let out := handleCommandTail env st cmdBuf i
      ⟨r.1, some (handlerOf cmdBuf, i), out.state, out.reportIns, out.response⟩

/-- One step of `cli_task`. -/
def cliTaskStep (d : Dev) (env : TaskEnv) : Dev × List Obs :=
  match d.pc with
  | .waitEvents =>
      let r := kernelWaitEvents d.kernel KernelEventFlag_CmdIn
      let pc := if r.1 = KernelEventFlag_CmdIn then .recvMsg 0 env.cmdBuf else .yield
      ({ d with kernel := r.2, pc := pc }, [])
  | .recvMsg i cmdBuf =>
      let r := kernelRecvMsg d.kernel KernelMsgQ_DebugCmd 1
      ({ d with kernel := r.2, pc := afterRecv i cmdBuf r.1.head? }, [])
  | .dispatch i cmdBuf =>
      let out := handleCommandTail env d.kvm cmdBuf i
      ({ d with kvm := out.state, pc := .transmit out.response },
        handled (handlerOf cmdBuf) (cmdBuf.bytes i) out)
  | .transmit []          => ({ d with pc := .yield }, [])
  | .transmit (b :: rest) => ({ d with pc := .transmit rest }, [.transmit b])
  | .yield                => ({ d with pc := .waitEvents }, [])

/-- One step of the device. -/
def Dev.step (d : Dev) : Act → Dev × List Obs
  | .isr ch tick =>
      let out := halUartIsr d.isr d.kernel ch tick
      ({ d with kernel := out.kernel, isr := out.isr }, (out.accepted.map .accept).toList)
  | .task env => cliTaskStep d env

/-- The device as a machine. -/
def device : Machine Dev Act Obs := ⟨Dev.step⟩

/-! ### Runs -/

/-- The environment of a device with USB lock and a clear stack, whose USB calls all
succeed. -/
def TaskEnv.ok : TaskEnv := ⟨.zero, USB_FNR_LCK, ⟨.zero, fun _ => true⟩⟩

/-- The frame of `CMD_PING`. -/
def pingFrame : List U8 := withCrc [MAGIC, CMD_PING, 0, 0, 0, 0]

/-- The bytes are received one after the other at one tick. -/
def received (bytes : List U8) (tick : U32) : List Act := bytes.map fun b => .isr b tick

/-- The task takes `n` steps in one environment. -/
def taskSteps (n : Nat) (env : TaskEnv) : List Act := List.replicate n (.task env)

end PikvmHid
