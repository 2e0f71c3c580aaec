import PikvmHid.Proofs.Crc
import PikvmHid.Proofs.Link
import PikvmHid.Spec.Host

/-!
# `PikvmHid.Proofs.Answers`: what goes out

The response of the binary handler is eight bytes with a checksum
(`isBinaryResponse_sendUartRsp`), the response of the raw handler is one of its texts. Two
results hold of every run, whatever was received:

* the bytes on UART3 are the responses, one after the other (`transmitting_step`);
* each handler call has one outcome, and the reports and the responses are those of the
  outcomes in the order of the calls (`answers_step`). What is known of a single call,
  a relation `R` between the command and its outcome, is known of all of them.
* the outcomes are those of the handlers that the first bytes select, each in the state the
  call before has left (`byHandlers_step`), so no response is empty (`ByHandlers.replies`).
-/

set_option autoImplicit false

namespace PikvmHid

open Lib

/-! ### The responses of the binary handler -/

/-- A response of the binary protocol: eight bytes from `MAGIC_RESP`, of which the last
two are the `crc16` of the first six, high byte first. -/
structure IsBinaryResponse (r : List U8) : Prop where
  length_eq : r.length = 8
  head_eq : r.head? = some MAGIC_RESP
  crc_eq : r.drop 6 = [highByte (crc16 (Buffer.ofList r .zero) 6),
    lowByte (crc16 (Buffer.ofList r .zero) 6)]

/-- Six bytes that begin with the magic byte, and their CRC, are a binary response. -/
theorem isBinaryResponse_withCrc {head : List U8} (hlen : head.length = 6)
    (hhead : head.head? = some MAGIC_RESP) : IsBinaryResponse (withCrc head) := by
  have hlen' : (withCrc head).length = 8 := by simp [withCrc, hlen]
  refine ⟨hlen', ?_, ?_⟩
  · rw [withCrc, List.head?_append, hhead]
    rfl
  · rw [crc16_withCrc hlen, withCrc, ← hlen, List.drop_left]

/-- So is whatever `send_uart_rsp` sends. -/
theorem isBinaryResponse_sendUartRsp (st : KvmState) (code : U8) :
    IsBinaryResponse (sendUartRsp st code).2 := by
  have hhead : ∀ code, (responseHead st.hidState code).length = 6 ∧
      (responseHead st.hidState code).head? = some MAGIC_RESP := by
    intro code
    unfold responseHead
    split <;> exact ⟨rfl, rfl⟩
  unfold sendUartRsp
  split
  · exact isBinaryResponse_withCrc (hhead _).1 (hhead _).2
  · exact isBinaryResponse_withCrc (hhead _).1 (hhead _).2

/-- A response has a byte. -/
theorem IsBinaryResponse.ne_nil {r : List U8} (h : IsBinaryResponse r) : r ≠ [] := by
  rintro rfl
  exact absurd h.length_eq (by decide)

/-- The text responses start with another byte. -/
theorem IsBinaryResponse.ne_rawResponse {r : List U8} (h : IsBinaryResponse r)
    (error : Nat) : r ≠ rawResponse error := by
  rintro rfl
  have hhead := h.head_eq
  have htext : (rawResponse error).head? = some 0x24 := by
    unfold rawResponse
    split <;> rfl
  rw [htext] at hhead
  exact absurd hhead (by decide)

/-! ### The length of a response -/

/-- The raw handler answers with one of its two texts. -/
theorem handleRawkvmCommand_response (env : HandlerEnv) (st : KvmState) (cmdBuf : Buffer)
    (cmdLen : Nat) :
    ∃ error, (handleRawkvmCommand env st cmdBuf cmdLen).response = rawResponse error := by
  unfold handleRawkvmCommand
  cases rawTarget (cmdBuf 0) with
  | none => exact ⟨2, rfl⟩
  | some target =>
      by_cases hlen : cmdLen = 0
      · exact ⟨1, by simp only [if_pos hlen]⟩
      · simp only [if_neg hlen]
        exact ⟨_, rfl⟩

/-- No response has more than eight bytes. -/
theorem length_response_le (env : TaskEnv) (st : KvmState) (cmdBuf : Buffer) (i : Nat) :
    (handleCommandTail env st cmdBuf i).response.length ≤ 8 := by
  unfold handleCommandTail
  cases handlerOf cmdBuf with
  | pikvm => exact Nat.le_of_eq (isBinaryResponse_sendUartRsp _ _).length_eq
  | rawkvm =>
      obtain ⟨error, herror⟩ :=
        handleRawkvmCommand_response env.handler (trackLock st env.fnr) cmdBuf i
      show (handleRawkvmCommand env.handler (trackLock st env.fnr) cmdBuf i).response.length ≤ 8
      rw [herror]
      unfold rawResponse
      split <;> simp

/-! ### The bytes on UART3 -/

/-- The bytes of the response under way that are still to go out. -/
def toSend : Pc → List U8
  | .transmit rest => rest
  | _              => []

/-- The bytes of the responses are the ones that went out and the ones still to go
out. -/
def Transmitting (c : Link × List Obs) : Prop :=
  (responses c.2).flatten = transmitted c.2 ++ toSend c.1.pc

/-- While a frame is received nothing is to be sent. -/
theorem toSend_afterRecv (i : Nat) (cmdBuf : Buffer) (b : Option U8) :
    toSend (afterRecv i cmdBuf b) = [] := by
  cases b with
  | none => rfl
  | some ch =>
      simp only [afterRecv]
      by_cases hstop : cmdBuf 0 ≠ MAGIC ∧ IsEol ch
      · rw [if_pos hstop]
        rfl
      · rw [if_neg hstop]
        by_cases hroom : i + 1 < MAX_CMD_LEN
        · rw [if_pos hroom]
          rfl
        · rw [if_neg hroom]
          rfl

/-- Every step keeps the transmitted bytes in order. -/
theorem transmitting_step (c : Link × List Obs) (a : Act) (h : Transmitting c) :
    Transmitting (link.next c a) := by
  obtain ⟨l, t⟩ := c
  unfold Transmitting at h
  cases a with
  | isr ch tick =>
      show (responses (t ++ (l.isrStep ch tick).2)).flatten
        = transmitted (t ++ (l.isrStep ch tick).2) ++ toSend (l.isrStep ch tick).1.pc
      rcases l.isrStep_cases ch tick with ⟨-, hstep⟩ | ⟨frame, -, ⟨-, hstep⟩ | ⟨-, hstep⟩⟩ <;>
        rw [hstep] <;> simpa [responses, transmitted] using h
  | task env =>
      show (responses (t ++ (l.taskStep env).2)).flatten
        = transmitted (t ++ (l.taskStep env).2) ++ toSend (l.taskStep env).1.pc
      unfold Link.taskStep
      cases hpc : l.pc with
      | waitEvents => cases hcmdIn : l.cmdIn <;> simpa [hpc, toSend] using h
      | recvMsg i cmdBuf =>
          simp only [hpc, toSend, List.append_nil] at h
          simp only [toSend_afterRecv, List.append_nil]
          exact h
      | dispatch i cmdBuf =>
          -- The whole response is still to go out.
          simp only [hpc, toSend, List.append_nil] at h
          simp [toSend, h]
      | transmit rest =>
          rw [hpc] at h
          cases rest with
          | nil => simpa [toSend] using h
          | cons b rest => simpa [toSend, responses, transmitted] using h
      | yield => simpa [hpc, toSend] using h

/-- The bytes that went out are the responses in their order, up to the bytes of the last
one still to go out. -/
theorem Transmitting.isPrefix {c : Link × List Obs} (h : Transmitting c) :
    transmitted c.2 <+: (responses c.2).flatten := ⟨toSend c.1.pc, h.symm⟩

/-! ### One outcome for each handler call -/

/-- Each handler call has an outcome that `R` relates to its command, and the reports and
the responses are those of the outcomes. -/
def Answers (R : Handler × List U8 → HandlerOut → Prop) (t : List Obs) : Prop :=
  ∃ outs, List.Forall₂ R (dispatched t) outs ∧
    reportIns t = outs.flatMap HandlerOut.reportIns ∧
    responses t = outs.map HandlerOut.response

/-- The environment of a task step satisfies `E`. -/
def InEnv (E : TaskEnv → Prop) : Act → Prop
  | .isr _ _  => True
  | .task env => E env

section
variable {E : TaskEnv → Prop} {R : Handler × List U8 → HandlerOut → Prop}

/-- A command and its output are one more pair. -/
theorem Answers.handled {t : List Obs} (h : Answers R t) {handler : Handler}
    {cmd : List U8} {out : HandlerOut} (hR : R (handler, cmd) out) :
    Answers R (t ++ handled handler cmd out) := by
  obtain ⟨outs, houts, hreports, hresponses⟩ := h
  refine ⟨outs ++ [out], ?_, ?_, ?_⟩
  · rw [dispatched_append, dispatched_handled]
    exact List.rel_append houts (List.Forall₂.cons hR List.Forall₂.nil)
  · simp [hreports]
  · simp [hresponses]

/-- Observations other than a handler call's change nothing. -/
theorem Answers.silent {t obs : List Obs} (h : Answers R t) (hd : dispatched obs = [])
    (hr : reportIns obs = []) (hs : responses obs = []) : Answers R (t ++ obs) := by
  obtain ⟨outs, houts, hreports, hresponses⟩ := h
  exact ⟨outs, by simpa [hd] using houts, by simpa [hr] using hreports,
    by simpa [hs] using hresponses⟩

/-- Every step keeps the pairs, if the handlers keep the relation. -/
theorem answers_step
    (hR : ∀ env st cmdBuf i, E env →
      R (handlerOf cmdBuf, cmdBuf.bytes i) (handleCommandTail env st cmdBuf i))
    (c : Link × List Obs) (a : Act) (h : Answers R c.2) (hE : InEnv E a) :
    Answers R (link.next c a).2 := by
  obtain ⟨l, t⟩ := c
  cases a with
  | isr ch tick =>
      show Answers R (t ++ (l.isrStep ch tick).2)
      rcases l.isrStep_cases ch tick with ⟨-, hstep⟩ | ⟨frame, -, ⟨-, hstep⟩ | ⟨-, hstep⟩⟩ <;>
        rw [hstep] <;> exact h.silent rfl rfl rfl
  | task env =>
      show Answers R (t ++ (l.taskStep env).2)
      unfold Link.taskStep
      cases l.pc with
      | dispatch i cmdBuf => exact h.handled (hR env l.kvm cmdBuf i hE)
      | transmit rest => cases rest <;> exact h.silent rfl rfl rfl
      | waitEvents | recvMsg | yield => exact h.silent rfl rfl rfl

end

/-! ### The handlers behind the calls -/

/-- Behind the lock tracking, `handle_command` calls the handler that the first byte selects. -/
theorem handleCommandTail_eq (env : TaskEnv) (st : KvmState) (cmdBuf : Buffer) (i : Nat) :
    handleCommandTail env st cmdBuf i
      = handlerCall (handlerOf cmdBuf) env.handler (trackLock st env.fnr) cmdBuf i := by
  unfold handleCommandTail
  cases handlerOf cmdBuf with
  | pikvm => rfl
  | rawkvm => rfl

/-- A text response has a byte. -/
theorem rawResponse_ne_nil (error : Nat) : rawResponse error ≠ [] := by
  unfold rawResponse
  split
  · exact List.cons_ne_nil _ _
  · exact List.cons_ne_nil _ _

/-- Each handler answers: its response is not empty. -/
theorem response_handlerCall_ne_nil (handler : Handler) (env : HandlerEnv) (st : KvmState)
    (cmdBuf : Buffer) (cmdLen : Nat) :
    (handlerCall handler env st cmdBuf cmdLen).response ≠ [] := by
  cases handler with
  | pikvm => exact (isBinaryResponse_sendUartRsp _ _).ne_nil
  | rawkvm =>
      obtain ⟨error, herror⟩ := handleRawkvmCommand_response env st cmdBuf cmdLen
      intro hnil
      exact rawResponse_ne_nil error (herror.symm.trans hnil)

/-- One outcome for each call. -/
theorem HandlerRun.length_eq {st st' : KvmState} {calls : List (Handler × List U8)}
    {outs : List HandlerOut} (h : HandlerRun st calls outs st') : outs.length = calls.length := by
  induction h with
  | nil => rfl
  | call _ _ _ _ _ ih => rw [List.length_append, List.length_append, ih]; rfl

/-- None of the responses is empty. -/
theorem HandlerRun.response_ne_nil {st st' : KvmState} {calls : List (Handler × List U8)}
    {outs : List HandlerOut} (h : HandlerRun st calls outs st') :
    ∀ out ∈ outs, out.response ≠ [] := by
  induction h with
  | nil => exact nofun
  | call _ handler env cmdBuf cmdLen ih =>
      intro out hout
      rcases List.mem_append.mp hout with hout | hout
      · exact ih out hout
      · rw [List.mem_singleton.mp hout]
        exact response_handlerCall_ne_nil handler env.handler _ cmdBuf cmdLen

section
variable {st st' : KvmState} {t : List Obs}

/-- One response for each call. -/
theorem ByHandlers.length_responses (h : ByHandlers st st' t) :
    (responses t).length = (dispatched t).length := by
  obtain ⟨outs, houts, -, hresponses⟩ := h
  rw [hresponses, List.length_map, houts.length_eq]

/-- No response is empty. -/
theorem ByHandlers.replies (h : ByHandlers st st' t) : ∀ r ∈ responses t, r ≠ [] := by
  obtain ⟨outs, houts, -, hresponses⟩ := h
  intro r hr
  rw [hresponses] at hr
  obtain ⟨out, hout, rfl⟩ := List.mem_map.mp hr
  exact houts.response_ne_nil out hout

/-- Observations other than a handler call's change nothing. -/
theorem ByHandlers.silent (h : ByHandlers st st' t) {obs : List Obs} (hd : dispatched obs = [])
    (hr : reportIns obs = []) (hs : responses obs = []) : ByHandlers st st' (t ++ obs) := by
  obtain ⟨outs, houts, hreports, hresponses⟩ := h
  exact ⟨outs, by simpa [hd] using houts, by simpa [hr] using hreports,
    by simpa [hs] using hresponses⟩

/-- A handler call goes behind the others. -/
theorem ByHandlers.call (h : ByHandlers st st' t) (env : TaskEnv) (cmdBuf : Buffer) (i : Nat) :
    ByHandlers st (handleCommandTail env st' cmdBuf i).state
      (t ++ handled (handlerOf cmdBuf) (cmdBuf.bytes i) (handleCommandTail env st' cmdBuf i)) := by
  obtain ⟨outs, houts, hreports, hresponses⟩ := h
  rw [handleCommandTail_eq]
  refine ⟨outs ++ [handlerCall (handlerOf cmdBuf) env.handler (trackLock st' env.fnr) cmdBuf i],
    ?_, ?_, ?_⟩
  · rw [dispatched_append, dispatched_handled]
    exact houts.call (handlerOf cmdBuf) env cmdBuf i
  · simp [hreports]
  · simp [hresponses]

end

/-- Every step keeps what the handlers were given. -/
theorem byHandlers_step {st : KvmState} (c : Link × List Obs) (a : Act)
    (h : ByHandlers st c.1.kvm c.2) : ByHandlers st (link.next c a).1.kvm (link.next c a).2 := by
  obtain ⟨l, t⟩ := c
  cases a with
  | isr ch tick =>
      show ByHandlers st (l.isrStep ch tick).1.kvm (t ++ (l.isrStep ch tick).2)
      rcases l.isrStep_cases ch tick with ⟨-, hstep⟩ | ⟨frame, -, ⟨-, hstep⟩ | ⟨-, hstep⟩⟩ <;>
        rw [hstep] <;> exact h.silent rfl rfl rfl
  | task env =>
      show ByHandlers st (l.taskStep env).1.kvm (t ++ (l.taskStep env).2)
      unfold Link.taskStep
      cases l.pc with
      | dispatch i cmdBuf => exact h.call env cmdBuf i
      | transmit rest => cases rest <;> exact h.silent rfl rfl rfl
      | waitEvents | recvMsg | yield => exact h.silent rfl rfl rfl

end PikvmHid
