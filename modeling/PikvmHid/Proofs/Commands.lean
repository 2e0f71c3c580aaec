import PikvmHid.Proofs.Crc
import PikvmHid.Spec.Commands

/-!
# `PikvmHid.Proofs.Commands`: commands, their calls and their traces

The parts that the keyboard and the mouse share.

* `commandSwitch_cases`, `sendUartRsp_eq`: what the switch and the response can do.
* `handle_reportIns`, `handle_state`: a valid frame goes through the switch, and the
  response changes nothing but the code to repeat.
* `sendHidReport_calls`: `send_hid_report` makes failed calls and one last call, which
  decides its outcome, all with the same report.
* `lastAccepted_attempt`: what the USB host has after such an attempt.
* `commands_exec`: the trace of a run lists its commands.
-/

set_option autoImplicit false

namespace PikvmHid

open Lib

/-! ### The switch and the response -/

/-- The branches of the switch. -/
theorem commandSwitch_cases (env : HandlerEnv) (st : KvmState) (cmdBuf : Buffer) :
    ((cmdBuf 1 = CMD_PING ∨ cmdBuf 1 = CMD_CLEAR_HID) ∧
      commandSwitch env st cmdBuf = ((st, []), PONG_OK)) ∨
    (cmdBuf 1 = CMD_REPEAT ∧ commandSwitch env st cmdBuf = ((st, []), 0)) ∨
    (cmdBuf 1 = CMD_WHEEL ∧
      commandSwitch env st cmdBuf = (cmdWheel env st cmdBuf, PONG_OK)) ∨
    ((cmdBuf 1 = CMD_BUTTON ∨ cmdBuf 1 = CMD_MOVE) ∧
      commandSwitch env st cmdBuf = (cmdButtonMove env st cmdBuf, PONG_OK)) ∨
    (cmdBuf 1 = CMD_KEY ∧ commandSwitch env st cmdBuf = (cmdKey env st cmdBuf, PONG_OK)) ∨
    (cmdBuf 1 ∉ [CMD_PING, CMD_REPEAT, CMD_CLEAR_HID, CMD_KEY, CMD_MOVE, CMD_BUTTON,
        CMD_WHEEL] ∧
      commandSwitch env st cmdBuf = ((st, []), RESP_INVALID_ERROR)) := by
  -- The cases of the switch in the order of the source.
  unfold commandSwitch
  split
  · next hping => exact Or.inl ⟨Or.inl hping, rfl⟩
  split
  · next hclear => exact Or.inl ⟨Or.inr hclear, rfl⟩
  refine Or.inr ?_
  split
  · next hrepeat => exact Or.inl ⟨hrepeat, rfl⟩
  refine Or.inr ?_
  split
  · next hwheel => exact Or.inl ⟨hwheel, rfl⟩
  refine Or.inr ?_
  split
  · next hbutton => exact Or.inl ⟨hbutton, rfl⟩
  refine Or.inr ?_
  split
  · next hkey => exact Or.inl ⟨hkey, rfl⟩
  · next hping hclear hrepeat hwheel hbutton hkey =>
      rw [not_or] at hbutton
      refine Or.inr ⟨?_, rfl⟩
      simp only [List.mem_cons, List.not_mem_nil, or_false, not_or]
      exact ⟨hping, hrepeat, hclear, hkey, hbutton.2, hbutton.1, hwheel⟩

/-- The response is built from `hid_state` and a code, and changes nothing but the code to
repeat. -/
theorem sendUartRsp_eq (st : KvmState) (code : U8) : ∃ code',
    sendUartRsp st code
      = ({ st with prevCode := code' }, withCrc (responseHead st.hidState code')) := by
  unfold sendUartRsp
  split
  · exact ⟨st.prevCode, rfl⟩
  · exact ⟨code, rfl⟩

namespace Command

/-- The frame `MAGIC code a b c d` with its checksum. -/
def ofBytes (env : HandlerEnv) (code a b c d : U8) : Command where
  cmdBuf := .ofList (withCrc [MAGIC, code, a, b, c, d]) .zero
  env := env
  valid := headerCheck_withCrc code a b c d .zero

variable (st : KvmState) (c : Command)

/-- The report calls of a command are those of its case. -/
theorem handle_reportIns :
    (c.handle st).reportIns = (commandSwitch c.env st c.cmdBuf).1.2 := by
  simp only [handle, handlePikvmCommand, c.valid, if_true]

/-- The state after it is that of its case, but for `prevCode`. -/
theorem handle_state : ∃ code, (c.handle st).state
    = { (commandSwitch c.env st c.cmdBuf).1.1 with prevCode := code } := by
  obtain ⟨code, hrsp⟩ := sendUartRsp_eq (commandSwitch c.env st c.cmdBuf).1.1
    (commandSwitch c.env st c.cmdBuf).2
  refine ⟨code, ?_⟩
  simp only [handle, handlePikvmCommand, c.valid, if_true, hrsp]

end Command

/-! ### The calls of an attempt -/

/-- The calls of one `send_hid_report`: `n` failed ones before the last. -/
def attempt (itf : HidIf) (report : List U8) (n : Nat) (sent : Bool) : List ReportIn :=
  List.replicate n ⟨itf, report, false⟩ ++ [⟨itf, report, sent⟩]

/-- The loop of `send_hid_report` makes failed calls and one last call: it stops at the first
call that is accepted, and no later than after `retry` failed ones. -/
theorem sendHidReport_loop_eq (usb : Nat → Bool) (itf : HidIf) (report : List U8)
    (retry n : Nat) : ∃ failed ≤ retry,
      ((sendHidReport.loop usb itf report retry n).2 = false → failed = retry) ∧
      sendHidReport.loop usb itf report retry n
        = (attempt itf report failed (sendHidReport.loop usb itf report retry n).2,
            (sendHidReport.loop usb itf report retry n).2) := by
  induction retry generalizing n with
  | zero => exact ⟨0, Nat.le_refl 0, fun _ => rfl, rfl⟩
  | succ retry ih =>
      rw [sendHidReport.loop]
      by_cases h : usb n = true
      · rw [if_pos h]
        exact ⟨0, Nat.zero_le _, fun hfalse => absurd hfalse Bool.noConfusion, rfl⟩
      · -- A failed call goes in front of the attempt of the rest of the loop.
        obtain ⟨failed, hle, hall, heq⟩ := ih (n + 1)
        rw [if_neg h]
        refine ⟨failed + 1, Nat.succ_le_succ hle, fun hfalse => ?_, ?_⟩
        · rw [hall hfalse]
        · have hcalls := congrArg Prod.fst heq
          simp only [attempt, List.replicate_succ, List.cons_append] at hcalls ⊢
          rw [← hcalls]

/-- The loop ends with an accepted call exactly if one of its tries is accepted. -/
theorem sendHidReport_loop_sent_iff (usb : Nat → Bool) (itf : HidIf) (report : List U8)
    (retry n : Nat) : (sendHidReport.loop usb itf report retry n).2 = true ↔
      ∃ j ≤ retry, usb (n + j) = true := by
  induction retry generalizing n with
  | zero => simp [sendHidReport.loop]
  | succ retry ih =>
      -- Try `n` decides, or the tries behind it do.
      rw [sendHidReport.loop]
      by_cases h : usb n = true
      · rw [if_pos h]
        exact iff_of_true rfl ⟨0, Nat.zero_le _, h⟩
      · rw [if_neg h]
        refine (ih (n + 1)).trans ⟨?_, ?_⟩
        · rintro ⟨j, hj, hok⟩
          exact ⟨j + 1, Nat.succ_le_succ hj, by rwa [Nat.add_right_comm] at hok⟩
        · rintro ⟨j, hj, hok⟩
          cases j with
          | zero => exact absurd hok h
          | succ j =>
              refine ⟨j, Nat.le_of_succ_le_succ hj, ?_⟩
              rwa [Nat.add_right_comm]

/-- `send_hid_report` makes one attempt with the report, and returns the length exactly if
one of its tries is accepted. -/
theorem sendHidReport_calls (usb : Nat → Bool) (itf : HidIf) (data : Buffer)
    {length : Nat} (hlen : length ≠ 0) (retry : Nat) :
    ∃ failed sent, (sendHidReport usb itf data length retry).1
        = attempt itf (data.bytes length) failed sent ∧
      decide ((sendHidReport usb itf data length retry).2 = length) = sent ∧
      (sent = true ↔ ∃ n ≤ retry, usb n = true) ∧
      failed ≤ retry ∧ (sent = false → failed = retry) := by
  obtain ⟨failed, hle, hall, heq⟩ := sendHidReport_loop_eq usb itf (data.bytes length) retry 0
  have hsent := sendHidReport_loop_sent_iff usb itf (data.bytes length) retry 0
  simp only [Nat.zero_add] at hsent
  refine ⟨failed, (sendHidReport.loop usb itf (data.bytes length) retry 0).2,
    congrArg Prod.fst heq, ?_, hsent, hle, hall⟩
  simp only [sendHidReport]
  split
  · next h => rw [h, decide_eq_true rfl]
  · next h => rw [decide_eq_false hlen.symm, Bool.eq_false_iff.mpr h]

section
variable (itf : HidIf) (report : List U8) (n : Nat) (sent : Bool)

/-- An attempt makes a call. -/
@[simp] theorem attempt_ne_nil : attempt itf report n sent ≠ [] :=
  List.append_ne_nil_of_right_ne_nil _ (List.cons_ne_nil _ _)

/-- Its last call has its outcome. -/
@[simp] theorem getLast?_attempt (calls : List ReportIn) :
    (calls ++ attempt itf report n sent).getLast? = some ⟨itf, report, sent⟩ := by
  rw [attempt, ← List.append_assoc, List.getLast?_concat]

/-- That call is one of the attempt. -/
theorem last_mem_attempt : ⟨itf, report, sent⟩ ∈ attempt itf report n sent :=
  List.mem_append_right _ (List.mem_singleton_self _)

/-- All calls are for its interface. -/
theorem itf_of_mem_attempt {call : ReportIn} (h : call ∈ attempt itf report n sent) :
    call.itf = itf := by
  rcases List.mem_append.mp h with h | h
  · rw [List.eq_of_mem_replicate h]
  · rw [List.mem_singleton.mp h]

/-- Every call of the attempt has the report. -/
theorem report_of_mem_attempt {call : ReportIn} (h : call ∈ attempt itf report n sent) :
    call.report = report := by
  rcases List.mem_append.mp h with h | h
  · rw [List.eq_of_mem_replicate h]
  · rw [List.mem_singleton.mp h]

/-- An accepted call of the attempt can only be the last one. -/
theorem sent_of_mem_attempt {call : ReportIn} (h : call ∈ attempt itf report n sent)
    (hok : call.ok = true) : sent = true := by
  rcases List.mem_append.mp h with h | h
  · rw [List.eq_of_mem_replicate h] at hok
    exact absurd hok Bool.false_ne_true
  · rwa [List.mem_singleton.mp h] at hok

/-- The calls of an attempt differ in their outcome only, and there is one, so a property of
what they send is one of this report. -/
theorem forall_mem_attempt {P : HidIf → List U8 → Prop} :
    (∀ call ∈ attempt itf report n sent, P call.itf call.report) ↔ P itf report := by
  constructor
  · intro h
    exact h _ (last_mem_attempt itf report n sent)
  · intro h call hmem
    rwa [itf_of_mem_attempt _ _ _ _ hmem, report_of_mem_attempt _ _ _ _ hmem]

/-- The attempt succeeds with its last call. -/
theorem exists_mem_attempt_ok :
    (∃ call ∈ attempt itf report n sent, call.ok = true) ↔ sent = true := by
  constructor
  · rintro ⟨call, hmem, hok⟩
    exact sent_of_mem_attempt itf report n sent hmem hok
  · intro hsent
    exact ⟨_, last_mem_attempt itf report n sent, hsent⟩

/-- Some call succeeds when the attempt does. -/
theorem any_attempt : (attempt itf report n sent).any (·.ok) = sent := by
  simp [attempt]

/-- One succeeds at most. -/
theorem filter_attempt :
    (attempt itf report n sent).filter (·.ok)
      = if sent then [⟨itf, report, true⟩] else [] := by
  rw [attempt, List.filter_append, List.filter_replicate_of_neg (by simp), List.nil_append]
  cases sent <;> rfl

/-- The USB host has the report of the attempt if that succeeds, and what it had before
otherwise. -/
theorem lastAccepted_attempt (calls : List ReportIn) :
    lastAccepted (calls ++ attempt itf report n sent)
      = if sent then some report else lastAccepted calls := by
  rw [lastAccepted, List.filter_append, filter_attempt]
  cases sent with
  | true => rw [if_pos rfl, if_pos rfl, List.getLast?_concat]; rfl
  | false => rw [if_neg Bool.false_ne_true, if_neg Bool.false_ne_true, List.append_nil]; rfl

end

/-- The latest element with a property, after one more element. -/
theorem getLast?_filter_concat {α : Type} (p : α → Bool) (l : List α) (a : α) :
    ((l ++ [a]).filter p).getLast? = if p a then some a else (l.filter p).getLast? := by
  rw [List.filter_append]
  by_cases h : p a = true
  · rw [if_pos h, List.filter_cons_of_pos h, List.filter_nil, List.getLast?_concat]
  · rw [if_neg h, List.filter_cons_of_neg h, List.filter_nil, List.append_nil]

/-- The last call of all, if it was accepted, has the last accepted report. -/
theorem lastAccepted_of_getLast? {calls : List ReportIn} {call : ReportIn}
    (h : calls.getLast? = some call) (hok : call.ok = true) :
    lastAccepted calls = some call.report := by
  obtain ⟨before, rfl⟩ := List.getLast?_eq_some_iff.mp h
  rw [lastAccepted, getLast?_filter_concat, if_pos hok]
  rfl

/-! ### Traces -/

section
variable {ι : Type}

/-- The calls of a longer trace. -/
@[simp] theorem Trace.calls_concat (t : Trace ι) (x : ι × List ReportIn) :
    Trace.calls (t ++ [x]) = t.calls ++ x.2 := by
  simp [Trace.calls]

/-- The commands of a longer trace. -/
@[simp] theorem Trace.commands_concat (t : Trace ι) (x : ι × List ReportIn) :
    Trace.commands (t ++ [x]) = t.commands ++ [x.1] := by
  simp [Trace.commands]

variable (command : ι → Command)

/-- The commands after one more. -/
theorem commands_next (c : KvmState × Trace ι) (i : ι) :
    Trace.commands ((handler command).next c i).2 = c.2.commands ++ [i] := by
  simp [Machine.next, handler]

/-- The calls after one more command. -/
theorem calls_next (c : KvmState × Trace ι) (i : ι) :
    Trace.calls ((handler command).next c i).2
      = c.2.calls ++ ((command i).handle c.1).reportIns := by
  simp [Machine.next, handler]

/-- The trace of a run lists its commands. -/
theorem commands_exec (c : KvmState × Trace ι) (is : List ι) :
    Trace.commands ((handler command).exec c is).2 = c.2.commands ++ is := by
  induction is generalizing c with
  | nil => simp
  | cons i is ih => rw [Machine.exec_cons, ih, commands_next, List.append_assoc]; rfl

end

end PikvmHid
