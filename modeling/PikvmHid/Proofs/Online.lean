import PikvmHid.Proofs.Calls
import PikvmHid.Spec.Online

/-!
# `PikvmHid.Proofs.Online`: who writes the online flags

`hid_state` has two writers. `handle_command` sets both devices by the lock of the bus
(`online_trackLock`), and then the handler sets the device of the report it attempts by the
outcome (`Call.handle_online`). The last writer wins.

`flags_follow_run`: so without lock a PONG shows a device offline unless the same command
sent it a report, and with lock it shows the latest attempt since the lock came back. What an
attempt without lock did to its device is overwritten when the lock comes back:
`attempt_without_lock`.
-/

set_option autoImplicit false

namespace PikvmHid

open Lib

/-! ### The two devices -/

/-- The device behind an interface. -/
def hidDev : HidIf → U8
  | .hidKbIf => HID_DEV_KEYBOARD
  | .hidMsIf => HID_DEV_MOUSE

/-- `hid_state` has the device online. -/
def online (st : KvmState) (itf : HidIf) : Bool := getHidState st.hidState (hidDev itf)

/-- Setting both flags sets each. -/
theorem getHidState_setHidState_all (hidState : U8) (state : Bool) (itf : HidIf) :
    getHidState (setHidState hidState HID_DEV_ALL state) (hidDev itf) = state := by
  revert hidState
  cases itf <;> cases state <;> decide +kernel

/-- Setting one leaves the other. -/
theorem getHidState_setHidState (hidState : U8) (itf itf' : HidIf) (state : Bool) :
    getHidState (setHidState hidState (hidDev itf) state) (hidDev itf')
      = if itf = itf' then state else getHidState hidState (hidDev itf') := by
  revert hidState
  cases itf <;> cases itf' <;> cases state <;> decide +kernel

/-! ### The handler -/

/-- The handler makes no attempt and leaves `hid_state`, or it makes one attempt and notes
the outcome for its device. It does not touch `last_fnr`. -/
def NotesAttempt (st : KvmState) (r : KvmState × List ReportIn) : Prop :=
  r.1.lastFnr = st.lastFnr ∧ ((r.2 = [] ∧ r.1.hidState = st.hidState) ∨
    ∃ itf report failed sent, r.2 = attempt itf report failed sent ∧
      r.1.hidState = setHidState st.hidState (hidDev itf) sent)

/-- `CMD_KEY` notes the outcome of its attempt. -/
theorem notesAttempt_cmdKey (env : HandlerEnv) (st : KvmState) (cmdBuf : Buffer) :
    NotesAttempt st (cmdKey env st cmdBuf) := by
  obtain ⟨failed, sent, hcalls, hsent, -⟩ := sendHidReport_calls env.reportIn .hidKbIf
    ((cmdKeyBuild st cmdBuf).hidRpt.drop (1 - HID_KB_MS_COMB))
    (show HID_KB_REPORT_BYTE ≠ 0 by decide) 3
  simp only [cmdKey, hsent]
  split
  · exact ⟨rfl, Or.inl ⟨rfl, rfl⟩⟩
  · split
    · exact ⟨rfl, Or.inl ⟨rfl, rfl⟩⟩
    · exact ⟨rfl, Or.inr ⟨.hidKbIf, _, failed, sent, hcalls, rfl⟩⟩

/-- So does `send_mouse_report`. -/
theorem notesAttempt_sendMouseReport (env : HandlerEnv) (st : KvmState) (hidRpt : Buffer) :
    NotesAttempt st (sendMouseReport env st hidRpt) := by
  obtain ⟨failed, sent, heq⟩ := MouseCommand.sendMouseReport_eq st env hidRpt
  rw [heq]
  exact ⟨rfl, Or.inr ⟨.hidMsIf, _, failed, sent, rfl, rfl⟩⟩

/-- So does every case of the switch. -/
theorem notesAttempt_commandSwitch (env : HandlerEnv) (st : KvmState) (cmdBuf : Buffer) :
    NotesAttempt st (commandSwitch env st cmdBuf).1 := by
  rcases commandSwitch_cases env st cmdBuf with ⟨-, h⟩ | ⟨-, h⟩ | ⟨-, h⟩ | ⟨-, h⟩ | ⟨-, h⟩ |
    ⟨-, h⟩
  · rw [h]
    exact ⟨rfl, Or.inl ⟨rfl, rfl⟩⟩
  · rw [h]
    exact ⟨rfl, Or.inl ⟨rfl, rfl⟩⟩
  · rw [h]
    exact notesAttempt_sendMouseReport env { st with button := 0 } _
  · -- The position and the buttons change before the attempt, `hid_state` does not.
    rw [h]
    simp only [cmdButtonMove]
    split
    · exact notesAttempt_sendMouseReport env { st with posx := _, posy := _ } _
    · exact notesAttempt_sendMouseReport env { st with button := _ } _
  · rw [h]
    exact notesAttempt_cmdKey env st cmdBuf
  · rw [h]
    exact ⟨rfl, Or.inl ⟨rfl, rfl⟩⟩

namespace Call

variable (st : KvmState) (c : Call)

/-- So does every command. -/
theorem handle_notesAttempt : NotesAttempt st ((c.handle st).state, (c.handle st).reportIns) := by
  have hrsp : ∀ st' code, (sendUartRsp st' code).1.hidState = st'.hidState ∧
      (sendUartRsp st' code).1.lastFnr = st'.lastFnr := by
    intro st' code
    obtain ⟨code', h⟩ := sendUartRsp_eq st' code
    rw [h]
    exact ⟨rfl, rfl⟩
  simp only [NotesAttempt, handle, handlePikvmCommand, hrsp]
  split
  · exact notesAttempt_commandSwitch c.env st c.cmdBuf
  · exact ⟨rfl, Or.inl ⟨rfl, rfl⟩⟩

/-- A device is online as before, or by the outcome of the attempt. -/
theorem handle_online (itf : HidIf) : online (c.handle st).state itf
    = if (c.handle st).reports itf = [] then online st itf
      else ((c.handle st).reports itf).any (·.ok) := by
  obtain ⟨-, ⟨hnone, hstate⟩ | ⟨itf', report, failed, sent, hcalls, hstate⟩⟩ :=
    c.handle_notesAttempt st
  · have hreports : (c.handle st).reports itf = [] := by
      rw [HandlerOut.reports, show (c.handle st).reportIns = [] from hnone]
      rfl
    rw [if_pos hreports, online, show (c.handle st).state.hidState = _ from hstate]
    rfl
  · have hreports : (c.handle st).reports itf
        = if itf' = itf then attempt itf' report failed sent else [] := by
      rw [HandlerOut.reports, show (c.handle st).reportIns = _ from hcalls,
        filter_itf_attempt]
    rw [online, show (c.handle st).state.hidState = _ from hstate, getHidState_setHidState,
      hreports]
    by_cases hitf : itf' = itf
    · rw [if_pos hitf, if_pos hitf, if_neg (attempt_ne_nil _ _ _ _), any_attempt]
    · rw [if_neg hitf, if_neg hitf, if_pos rfl]
      rfl

/-- The response is built from what the handler leaves in `hid_state`. -/
theorem handle_response : ∃ code, (c.handle st).response
    = withCrc (responseHead (c.handle st).state.hidState code) := by
  have hrsp : ∀ st' code, ∃ code', (sendUartRsp st' code).2
      = withCrc (responseHead (sendUartRsp st' code).1.hidState code') := by
    intro st' code
    obtain ⟨code', h⟩ := sendUartRsp_eq st' code
    rw [h]
    exact ⟨code', rfl⟩
  exact hrsp _ _

/-- A command leaves the frame number. -/
theorem handle_lastFnr : (c.handle st).state.lastFnr = st.lastFnr :=
  (c.handle_notesAttempt st).1

end Call

/-- The bits of a PONG. -/
theorem showsOffline_iff {hidState code : U8}
    (hpong : IsPong (withCrc (responseHead hidState code))) (itf : HidIf) :
    ShowsOffline itf (withCrc (responseHead hidState code)) ↔
      getHidState hidState (hidDev itf) = false := by
  have hbits : ∀ keyboard mouse : Bool,
      ((PONG_OK ||| (if keyboard then 0 else PONG_KEYBOARD_OFFLINE)
          ||| (if mouse then 0 else PONG_MOUSE_OFFLINE)) &&& offlineBit itf ≠ 0) ↔
        (match itf with | .hidKbIf => keyboard | .hidMsIf => mouse) = false := by
    cases itf <;> decide
  by_cases hcode : code &&& PONG_OK ≠ 0
  · rw [responseHead, if_pos hcode]
    refine (hbits _ _).trans ?_
    cases itf <;> exact Iff.rfl
  · -- Without bit 7 in the code there is none in the response.
    rw [responseHead, if_neg hcode] at hpong
    exact absurd hpong hcode

/-- A PONG shows the device offline exactly if the handler leaves it so. -/
theorem Call.showsOffline_iff {st : KvmState} {c : Call} (hpong : IsPong (c.handle st).response)
    (itf : HidIf) : ShowsOffline itf (c.handle st).response ↔
      online (c.handle st).state itf = false := by
  obtain ⟨code, hresponse⟩ := c.handle_response st
  rw [hresponse] at hpong ⊢
  exact PikvmHid.showsOffline_iff hpong itf

/-! ### `handle_command` -/

/-- `track_lock` stores it. -/
theorem lastFnr_trackLock (st : KvmState) (fnr : U16) : (trackLock st fnr).lastFnr = fnr := rfl

/-- The devices after the sample. Without lock they are offline, the first sample with lock
brings them online, and the ones behind it leave them alone. -/
theorem online_trackLock (st : KvmState) (fnr : U16) (itf : HidIf) :
    online (trackLock st fnr) itf
      = if fnr &&& USB_FNR_LCK = 0 then false
        else if st.lastFnr &&& USB_FNR_LCK = 0 then true else online st itf := by
  unfold online trackLock
  split
  · exact getHidState_setHidState_all _ _ _
  · split
    · exact getHidState_setHidState_all _ _ _
    · rfl

namespace BinaryCommand

variable (st : KvmState) (c : BinaryCommand)

/-- The call of the handler that the command makes. -/
def call (c : BinaryCommand) : Call := ⟨c.cmdBuf, c.cmdLen, c.env.handler⟩

/-- A binary command is `track_lock` and the call. -/
theorem handle_eq : c.handle st = c.call.handle (trackLock st c.env.fnr) := by
  have hhandler : handlerOf c.cmdBuf = .pikvm := if_pos c.isBinary
  simp only [handle, handleCommandTail, hhandler]
  rfl

theorem showsOffline_iff {st : KvmState} {c : BinaryCommand}
    (hpong : IsPong (c.handle st).response) (itf : HidIf) :
    ShowsOffline itf (c.handle st).response ↔ online (c.handle st).state itf = false := by
  rw [handle_eq] at hpong ⊢
  exact Call.showsOffline_iff hpong itf

/-- Without the lock bit the frame counter is not locked. -/
theorem locked_eq_false {c : BinaryCommand} (h : c.locked = false) :
    c.env.fnr &&& USB_FNR_LCK = 0 :=
  not_not.mp (of_decide_eq_false h)

/-- Without lock a device is online by the attempt of the command itself. -/
theorem online_of_unlocked (h : c.locked = false) (itf : HidIf) :
    online (c.handle st).state itf = ((c.handle st).reports itf).any (·.ok) := by
  rw [handle_eq, Call.handle_online, online_trackLock, if_pos (locked_eq_false h)]
  split
  · next hnone =>
      rw [hnone]
      rfl
  · rfl

end BinaryCommand

/-! ### Runs -/

/-- The commands since the lock was lost. -/
theorem sinceLock_concat (t : CallTrace BinaryCommand) (p : BinaryCommand × HandlerOut) :
    sinceLock (t ++ [p]) = if p.1.locked then sinceLock t ++ [p] else [] := by
  cases h : p.1.locked with
  | true => exact List.rtakeWhile_concat_pos _ _ _ h
  | false => exact List.rtakeWhile_concat_neg _ _ _ (by rw [h]; exact Bool.false_ne_true)

/-- The latest attempt, with one more command behind the others. -/
theorem lastSucceeded_concat (itf : HidIf) (t : CallTrace BinaryCommand)
    (p : BinaryCommand × HandlerOut) :
    lastSucceeded itf (t ++ [p])
      = if p.2.reports itf = [] then lastSucceeded itf t else (p.2.reports itf).any (·.ok) := by
  rw [lastSucceeded, CallTrace.lastAttempt, List.map_append, List.map_singleton,
    getLast?_filter_concat]
  by_cases h : p.2.reports itf = []
  · rw [if_neg (by simpa using h), if_pos h]
    rfl
  · rw [if_pos (decide_eq_true h), if_neg h]
    rfl

/-- `last_fnr` has the lock if there are commands since it came, and then every device is
online by its latest attempt among them. -/
structure OnlineInv (c : KvmState × CallTrace BinaryCommand) : Prop where
  lock_iff : c.1.lastFnr &&& USB_FNR_LCK = 0 ↔ sinceLock c.2 = []
  online_eq : sinceLock c.2 ≠ [] → ∀ itf, online c.1 itf = lastSucceeded itf (sinceLock c.2)

/-- With lock, a device is online by its latest attempt since the lock. -/
theorem online_of_locked {c : KvmState × CallTrace BinaryCommand} (h : OnlineInv c)
    {i : BinaryCommand} (hlocked : i.locked = true) (itf : HidIf) :
    online (i.handle c.1).state itf
      = lastSucceeded itf (sinceLock (c.2 ++ [(i, i.handle c.1)])) := by
  have hfnr : ¬ i.env.fnr &&& USB_FNR_LCK = 0 := of_decide_eq_true hlocked
  rw [sinceLock_concat, if_pos hlocked, lastSucceeded_concat, i.handle_eq, Call.handle_online,
    online_trackLock, if_neg hfnr]
  refine if_congr Iff.rfl ?_ rfl
  -- The devices before the handler: all online with the lock just back.
  by_cases hnew : sinceLock c.2 = []
  · rw [if_pos (h.lock_iff.mpr hnew), hnew]
    rfl
  · rw [if_neg (fun hlast => hnew (h.lock_iff.mp hlast))]
    exact h.online_eq hnew itf

/-- Every command keeps the invariant. -/
theorem onlineInv_next (c : KvmState × CallTrace BinaryCommand) (i : BinaryCommand)
    (h : OnlineInv c) : OnlineInv (binary.next c i) where
  lock_iff := by
    show (i.handle c.1).state.lastFnr &&& USB_FNR_LCK = 0
      ↔ sinceLock (c.2 ++ [(i, i.handle c.1)]) = []
    rw [sinceLock_concat, i.handle_eq, Call.handle_lastFnr, lastFnr_trackLock]
    cases hlocked : i.locked with
    | true =>
        have hfnr : ¬ i.env.fnr &&& USB_FNR_LCK = 0 := of_decide_eq_true hlocked
        exact iff_of_false hfnr (by simp)
    | false => exact iff_of_true (BinaryCommand.locked_eq_false hlocked) rfl
  online_eq := by
    intro hne itf
    have hlocked : i.locked = true := by
      by_contra hunlocked
      refine hne ?_
      show sinceLock (c.2 ++ [(i, i.handle c.1)]) = []
      rw [sinceLock_concat, if_neg hunlocked]
    exact online_of_locked h hlocked itf

/-- Which is what the property asks for. -/
theorem flagsFollow_of_inv (c : KvmState × CallTrace BinaryCommand) (i : BinaryCommand)
    (h : OnlineInv c) : FlagsFollow c i where
  unlocked := by
    intro hpong hunlocked itf
    rw [BinaryCommand.showsOffline_iff hpong, i.online_of_unlocked c.1 hunlocked]
    simp
  locked := by
    intro hpong hlocked itf
    rw [BinaryCommand.showsOffline_iff hpong, Bool.not_eq_false, online_of_locked h hlocked]

/-- In every run of binary frames from reset, with any samples and any outcomes of the calls,
a PONG without lock shows a device offline unless the command itself sent it a report, and a
PONG with lock shows it by the latest attempt since the lock came back. -/
theorem flags_follow_run (cmds : List BinaryCommand) :
    binary.Meets FlagsFollow (.boot, []) cmds :=
  binary.meets_of_invariant onlineInv_next flagsFollow_of_inv
    ⟨iff_of_true (by decide) rfl, fun h => absurd rfl h⟩ cmds

/-- The press of A without lock. -/
def pressUnlocked (env : HandlerEnv) : BinaryCommand :=
  ⟨(KeyCommand.ofCode env 1 1).cmdBuf, 8, ⟨.zero, 0, env⟩, rfl⟩

/-- A `CMD_PING` with lock. -/
def pingLocked : BinaryCommand := ⟨.ofList pingFrame .zero, 8, .ok, rfl⟩

/-- Without lock, a press that is sent shows the keyboard online. A press that fails is
forgotten when the lock comes back: the next PONG shows the keyboard online. -/
theorem attempt_without_lock :
    let sent := pressUnlocked ⟨.zero, fun _ => true⟩
    let failed := pressUnlocked ⟨.zero, fun _ => false⟩
    ¬ binary.Meets FlagsTruthful (.boot, []) [sent] ∧
      ¬ binary.Meets FlagsTruthful (.boot, []) [failed, pingLocked] := by
  intro sent failed
  constructor
  · -- A report is sent, and the flags still say offline.
    intro hmeets
    have hoffline : ShowsOffline .hidKbIf (sent.handle .boot).response :=
      hmeets.1.unlocked (by decide +kernel) (by decide +kernel) .hidKbIf
    have honline : ¬ ShowsOffline .hidKbIf (sent.handle .boot).response := by decide +kernel
    exact honline hoffline
  · -- A report fails, and the next flags say online.
    intro hmeets
    let st := (failed.handle .boot).state
    have hflags : ¬ ShowsOffline .hidKbIf (pingLocked.handle st).response ↔
        lastSucceeded .hidKbIf (sinceSample
          ([(failed, failed.handle .boot)] ++ [(pingLocked, pingLocked.handle st)])) = true :=
      hmeets.2.1.locked (by decide +kernel) (by decide +kernel) .hidKbIf
    have honline : ¬ ShowsOffline .hidKbIf (pingLocked.handle st).response := by decide +kernel
    have hlast : lastSucceeded .hidKbIf (sinceSample
        ([(failed, failed.handle .boot)] ++ [(pingLocked, pingLocked.handle st)])) = false := by
      decide +kernel
    rw [hlast] at hflags
    exact absurd (hflags.mp honline) Bool.false_ne_true

end PikvmHid
