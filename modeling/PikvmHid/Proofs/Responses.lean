import PikvmHid.Proofs.Calls
import PikvmHid.Spec.Responses

/-!
# `PikvmHid.Proofs.Responses`: every call is answered

`handle_pikvm_command` hands a code to `send_uart_rsp`: that of the call's outcome, or 0 for
a valid `CMD_REPEAT` (`Call.handle_outcome`). `send_uart_rsp` keeps the last code that is
not 0, so its `prev_code` is the code of the latest outcome (`prevCodeInv_next`).

`responds_run`: in every run every call is answered as the protocol says, however many
`CMD_REPEAT` come in between.
-/

set_option autoImplicit false

namespace PikvmHid

open Lib

/-! ### A response -/

/-- The head is before its CRC. -/
theorem take_withCrc {head : List U8} (hlen : head.length = 6) :
    (withCrc head).take 6 = head := by
  rw [withCrc, ← hlen]
  exact List.take_left

/-- The CRC is right. -/
theorem crcOk_withCrc {head : List U8} (hlen : head.length = 6) :
    CrcOk (.ofList (withCrc head) .zero) := by
  have hbytes : ∀ k, Buffer.ofList (withCrc head) .zero (6 + k)
      = [highByte (crc16 (.ofList head .zero) 6), lowByte (crc16 (.ofList head .zero) 6)].getD
          k 0 := by
    intro k
    show (withCrc head).getD (6 + k) 0 = _
    rw [withCrc, List.getD_eq_getElem?_getD, List.getElem?_append_right (by omega), hlen,
      Nat.add_sub_cancel_left]
    rfl
  rw [CrcOk, crc16_withCrc hlen, hbytes 0, hbytes 1]
  exact (highByte_append_lowByte _).symm

/-- The header check rejects a wrong CRC and no other. -/
theorem crcOk_iff (b : Buffer) (n : Nat) : CrcOk b ↔ headerCheck b n ≠ RESP_CRC_ERROR := by
  rw [ne_eq, headerCheck_eq_crcError_iff, not_not]
  exact Iff.rfl

namespace Outcome

/-- The code that stands for the outcome in `send_uart_rsp`. -/
def code : Outcome → U8
  | .none         => RESP_NONE
  | .crcError     => RESP_CRC_ERROR
  | .invalidError => RESP_INVALID_ERROR
  | .pong         => PONG_OK

/-- No code is zero. -/
theorem code_ne_zero (o : Outcome) : o.code ≠ 0 := by
  cases o <;> decide

/-- A response has six bytes before its CRC. -/
theorem length_head (st : KvmState) (o : Outcome) : (o.head st).length = 6 := by
  cases o <;> rfl

/-- Bit 7 of the code selects the form of the response. -/
theorem responseHead_code (st : KvmState) (o : Outcome) :
    responseHead st.hidState o.code = o.head st := by
  cases o <;> rfl

/-- `send_uart_rsp` sends the code with the state at hand. -/
theorem sendUartRsp_code (st : KvmState) (o : Outcome) :
    sendUartRsp st o.code = ({ st with prevCode := o.code }, withCrc (o.head st)) := by
  rw [sendUartRsp, if_neg o.code_ne_zero, responseHead_code]

end Outcome

/-! ### The code of a call -/

/-- The code that the switch ends with, and what it leaves alone. -/
theorem commandSwitch_code (env : HandlerEnv) (st : KvmState) (cmdBuf : Buffer) :
    (commandSwitch env st cmdBuf).2
        = (if ¬ Supported (cmdBuf 1) then RESP_INVALID_ERROR
          else if cmdBuf 1 = CMD_REPEAT then 0 else PONG_OK) ∧
      (commandSwitch env st cmdBuf).1.1.prevCode = st.prevCode ∧
      (cmdBuf 1 = CMD_REPEAT → (commandSwitch env st cmdBuf).1.2 = []) := by
  unfold Supported
  rcases commandSwitch_cases env st cmdBuf with ⟨hcode, h⟩ | ⟨hcode, h⟩ | ⟨hcode, h⟩ |
    ⟨hcode, h⟩ | ⟨hcode, h⟩ | ⟨hcode, h⟩
  · rw [h]
    rcases hcode with hcode | hcode <;> simp [hcode]
  · rw [h, hcode]
    exact ⟨rfl, rfl, fun _ => rfl⟩
  · rw [h, hcode]
    exact ⟨rfl, rfl, fun hne => absurd hne (by decide)⟩
  · have hprev : (cmdButtonMove env st cmdBuf).1.prevCode = st.prevCode := by
      simp only [cmdButtonMove, sendMouseReport]
      split <;> rfl
    rw [h]
    rcases hcode with hcode | hcode <;> simp [hcode, hprev]
  · have hprev : (cmdKey env st cmdBuf).1.prevCode = st.prevCode := by
      simp only [cmdKey]
      split
      · rfl
      · split <;> rfl
    rw [h, hcode]
    exact ⟨rfl, hprev, fun hne => absurd hne (by decide)⟩
  · rw [h, if_pos hcode]
    exact ⟨rfl, rfl, fun _ => rfl⟩

/-- The code for `send_uart_rsp` is that of the call's outcome, or 0 for a valid `CMD_REPEAT`,
which sends nothing. -/
theorem Call.code_outcome (st : KvmState) (c : Call) :
    let r := if headerCheck c.cmdBuf c.cmdLen = RESP_NONE then commandSwitch c.env st c.cmdBuf
      else ((st, []), headerCheck c.cmdBuf c.cmdLen)
    r.2 = c.outcome.elim 0 Outcome.code ∧ r.1.1.prevCode = st.prevCode ∧
      (c.outcome = none → r.1.2 = []) := by
  intro r
  by_cases hcrc : CrcOk c.cmdBuf
  · have hcheck := headerCheck_of_crc hcrc c.cmdLen
    by_cases hheader : c.cmdBuf 0 ≠ MAGIC ∨ c.cmdLen ≠ 8
    · have hr : r = ((st, []), RESP_INVALID_ERROR) := by
        simp only [r, hcheck, if_pos hheader]
        rfl
      have houtcome : c.outcome = some .invalidError := by
        rw [outcome, if_neg (not_not_intro hcrc), if_pos (hheader.imp_right Or.inl)]
      rw [hr, houtcome]
      exact ⟨rfl, rfl, fun _ => rfl⟩
    · -- Both checks pass, and the switch decides.
      have hr : r = commandSwitch c.env st c.cmdBuf := by
        simp only [r, hcheck, if_neg hheader, if_true]
      have houtcome : c.outcome = if ¬ Supported (c.cmdBuf 1) then some .invalidError
          else if c.cmdBuf 1 = CMD_REPEAT then none else some .pong := by
        rw [outcome, if_neg (not_not_intro hcrc)]
        refine if_congr ?_ rfl rfl
        rw [← or_assoc, or_iff_right hheader]
        exact Iff.rfl
      obtain ⟨hcode, hprev, hrepeat⟩ := commandSwitch_code c.env st c.cmdBuf
      rw [hr, hcode, houtcome]
      by_cases hsupported : Supported (c.cmdBuf 1)
      · rw [if_neg (not_not_intro hsupported), if_neg (not_not_intro hsupported)]
        by_cases hcode : c.cmdBuf 1 = CMD_REPEAT
        · rw [if_pos hcode, if_pos hcode]
          exact ⟨rfl, hprev, fun _ => hrepeat hcode⟩
        · rw [if_neg hcode, if_neg hcode]
          exact ⟨rfl, hprev, fun hnone => absurd hnone (Option.some_ne_none _)⟩
      · rw [if_pos hsupported, if_pos hsupported]
        exact ⟨rfl, hprev, fun hnone => absurd hnone (Option.some_ne_none _)⟩
  · have hr : r = ((st, []), RESP_CRC_ERROR) := by
      simp only [r, (headerCheck_eq_crcError_iff c.cmdBuf c.cmdLen).mpr hcrc]
      rfl
    have houtcome : c.outcome = some .crcError := by rw [outcome, if_pos hcrc]
    rw [hr, houtcome]
    exact ⟨rfl, rfl, fun _ => rfl⟩

/-- `send_uart_rsp` gets that code. -/
theorem Call.handle_outcome (st : KvmState) (c : Call) : ∃ st' reportIns,
    c.handle st = ⟨(sendUartRsp st' (c.outcome.elim 0 Outcome.code)).1, reportIns,
        (sendUartRsp st' (c.outcome.elim 0 Outcome.code)).2⟩ ∧
      st'.prevCode = st.prevCode ∧ (c.outcome = none → reportIns = []) := by
  obtain ⟨hcode, hprev, hrepeat⟩ := c.code_outcome st
  refine ⟨_, _, ?_, hprev, hrepeat⟩
  rw [← hcode]
  rfl

/-! ### The latest outcome -/

/-- One more call decides what is answered next. -/
theorem answered_concat (cmds : List Call) (c : Call) :
    answered (cmds ++ [c]) = c.outcome.getD (answered cmds) := by
  rw [answered, List.filterMap_append]
  cases h : c.outcome with
  | none => simp [h, answered]
  | some o => simp [h]

/-- `prev_code` is the code of the latest outcome. -/
def PrevCodeInv (c : KvmState × CallTrace Call) : Prop :=
  c.1.prevCode = (answered c.2.commands).code

/-- With the latest outcome in `prev_code`, the call is answered with the outcome that it
makes the latest, and leaves that in `prev_code`. -/
theorem Call.handle_answered (st : KvmState) (c : Call) (cmds : List Call)
    (h : st.prevCode = (answered cmds).code) :
    (c.handle st).state.prevCode = (answered (cmds ++ [c])).code ∧
      (c.handle st).response
        = withCrc ((answered (cmds ++ [c])).head (c.handle st).state) := by
  obtain ⟨st', reportIns, heq, hprev, -⟩ := c.handle_outcome st
  rw [heq, answered_concat]
  cases c.outcome with
  | none =>
      -- Code 0: the code of the latest outcome is used again.
      have hcode : st'.prevCode = (answered cmds).code := hprev.trans h
      refine ⟨hcode, ?_⟩
      show withCrc (responseHead st'.hidState st'.prevCode) = _
      rw [hcode, Outcome.responseHead_code]
      rfl
  | some o =>
      rw [Option.elim_some, Outcome.sendUartRsp_code]
      refine ⟨rfl, congrArg withCrc ?_⟩
      show o.head st' = o.head { st' with prevCode := o.code }
      cases o <;> rfl

/-- Every call keeps the invariant. -/
theorem prevCodeInv_next (c : KvmState × CallTrace Call) (i : Call) (h : PrevCodeInv c) :
    PrevCodeInv (pikvm.next c i) := by
  rw [PrevCodeInv, commands_pikvm_next]
  exact (i.handle_answered c.1 _ h).1

/-- In every state with the latest outcome in `prev_code` the call is answered as the
protocol says. -/
theorem responds_of_inv (c : KvmState × CallTrace Call) (i : Call) (h : PrevCodeInv c) :
    Responds c i := by
  have hresponse := (i.handle_answered c.1 _ h).2
  have hlen := Outcome.length_head (i.handle c.1).state (answered (c.2.commands ++ [i]))
  refine ⟨?_, ?_, ?_, ?_, ?_⟩
  · rw [hresponse]
    simp [withCrc, hlen]
  · rw [hresponse]
    exact take_withCrc hlen
  · rw [hresponse]
    exact crcOk_withCrc hlen
  · rw [hresponse]
    exact (crcOk_iff _ 8).mp (crcOk_withCrc hlen)
  · intro hnone
    obtain ⟨st', reportIns, heq, -, hquiet⟩ := i.handle_outcome c.1
    rw [heq]
    exact hquiet hnone

/-- In every run from reset every call is answered as the protocol says. -/
theorem responds_run (calls : List Call) : pikvm.Meets Responds start calls :=
  pikvm.meets_of_invariant prevCodeInv_next responds_of_inv (show PrevCodeInv start from rfl)
    calls

end PikvmHid
