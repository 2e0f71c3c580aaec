import PikvmHid.Proofs.Keyboard
import PikvmHid.Proofs.Mouse
import PikvmHid.Spec.Calls

/-!
# `PikvmHid.Proofs.Calls`: what a call of `handle_pikvm_command` can do

A call is a `CMD_KEY` (`Call.handle_key`), one of the mouse commands (`Call.handle_mouse`),
or it makes no `USBD_HID_ReportIn` call and changes no static but the code to repeat
(`Call.handle_quiet`). So a report on an interface is one of a `CMD_KEY` or of a mouse command.

`filterInv_run`: in any run, `last_crc` stands for the last call on the keyboard interface.
-/

set_option autoImplicit false

namespace PikvmHid

open Lib

/-! ### The three kinds of calls -/

namespace Call

variable (st : KvmState) (c : Call)

/-- A valid call is the binary command it stands for. -/
theorem handle_toCommand (h : c.Valid) : c.handle st = (c.toCommand h).handle st := by
  unfold handle Command.handle
  rw [h.cmdLen_eq]
  rfl

/-- A keyboard call is a `CMD_KEY`. -/
theorem handle_key (h : c.IsKey) : c.handle st = (c.toKey h).handle st :=
  c.handle_toCommand st h.1

/-- A mouse call is a mouse command. -/
theorem handle_mouse (h : c.IsMouse) : c.handle st = (c.toMouse h).handle st :=
  c.handle_toCommand st h.1

/-- Any other call sends nothing and leaves the statics as they are. -/
theorem handle_quiet (hkey : ¬ c.IsKey) (hmouse : ¬ c.IsMouse) :
    (c.handle st).reportIns = [] ∧
      ∃ code, (c.handle st).state = { st with prevCode := code } := by
  have hrsp : ∀ code, ∃ code', (sendUartRsp st code).1 = { st with prevCode := code' } :=
    fun code => (sendUartRsp_eq st code).imp fun _ h => congrArg Prod.fst h
  -- The switch leaves the statics alone, too, or is not reached.
  have hswitch : c.Valid → ∃ code, commandSwitch c.env st c.cmdBuf = ((st, []), code) := by
    intro hvalid
    rcases commandSwitch_cases c.env st c.cmdBuf with ⟨-, h⟩ | ⟨-, h⟩ | ⟨hwheel, -⟩ |
      ⟨hbutton, -⟩ | ⟨hcode, -⟩ | ⟨-, h⟩
    · exact ⟨_, h⟩
    · exact ⟨_, h⟩
    · exact absurd ⟨hvalid, Or.inr (Or.inr hwheel)⟩ hmouse
    · exact absurd ⟨hvalid, hbutton.elim (fun h => Or.inr (Or.inl h)) Or.inl⟩ hmouse
    · exact absurd ⟨hvalid, hcode⟩ hkey
    · exact ⟨_, h⟩
  simp only [handle, handlePikvmCommand]
  by_cases hvalid : headerCheck c.cmdBuf c.cmdLen = RESP_NONE
  · obtain ⟨code, heq⟩ := hswitch hvalid
    simp only [if_pos hvalid, heq]
    exact ⟨trivial, hrsp code⟩
  · simp only [if_neg hvalid]
    exact ⟨trivial, hrsp _⟩

end Call

/-! ### The reports of an interface -/

/-- An attempt calls for one interface only. -/
@[simp] theorem filter_itf_attempt (itf itf' : HidIf) (report : List U8) (n : Nat)
    (sent : Bool) : (attempt itf report n sent).filter (·.itf = itf')
      = if itf = itf' then attempt itf report n sent else [] := by
  by_cases h : itf = itf'
  · rw [if_pos h, List.filter_eq_self]
    intro call hmem
    rw [itf_of_mem_attempt _ _ _ _ hmem]
    exact decide_eq_true h
  · rw [if_neg h, List.filter_eq_nil_iff]
    intro call hmem
    rw [itf_of_mem_attempt _ _ _ _ hmem]
    simpa using h

/-- The reports of a `CMD_KEY` go to the keyboard interface. -/
theorem KeyCommand.handle_reports (st : KvmState) (c : KeyCommand) (itf : HidIf) :
    (c.handle st).reports itf
      = if itf = .hidKbIf then c.calls st else [] := by
  show (c.calls st).filter (·.itf = itf) = _
  rcases c.handle_cases st with ⟨-, hnone, -⟩ | ⟨-, -, hnone, -⟩ |
    ⟨-, -, failed, sent, hcalls, -⟩
  · rw [hnone, ite_self]
    rfl
  · rw [hnone, ite_self]
    rfl
  · rw [hcalls, filter_itf_attempt]
    exact if_congr eq_comm rfl rfl

/-- The reports of a mouse command go to the mouse interface. -/
theorem MouseCommand.handle_reports (st : KvmState) (c : MouseCommand) (itf : HidIf) :
    (c.handle st).reports itf
      = if itf = .hidMsIf then c.calls st else [] := by
  obtain ⟨failed, sent, hcalls⟩ := c.calls_eq st
  show (c.calls st).filter (·.itf = itf) = _
  rw [hcalls, filter_itf_attempt]
  exact if_congr eq_comm rfl rfl

namespace CallTrace

variable {ι : Type} (itf : HidIf)

/-- The reports of a longer trace. -/
theorem reports_concat (t : CallTrace ι) (p : ι × HandlerOut) :
    reports itf (t ++ [p]) = reports itf t ++ p.2.reports itf := by
  simp [reports]

/-- The last call is the last try of the latest attempt. -/
theorem reports_getLast? (t : CallTrace ι) :
    (reports itf t).getLast? = (lastAttempt itf t).bind List.getLast? := by
  induction t using List.reverseRecOn with
  | nil => rfl
  | append_singleton t p ih =>
      rw [reports_concat, lastAttempt, List.map_append, List.map_singleton,
        getLast?_filter_concat]
      by_cases h : p.2.reports itf = []
      · rw [if_neg (by simpa using h), h, List.append_nil]
        exact ih
      · rw [if_pos (decide_eq_true h), List.getLast?_append_of_ne_nil _ h]
        rfl

end CallTrace

/-- The reports after one more call. -/
theorem reports_next (c : KvmState × CallTrace Call) (i : Call) (itf : HidIf) :
    CallTrace.reports itf (pikvm.next c i).2
      = CallTrace.reports itf c.2 ++ (i.handle c.1).reports itf :=
  CallTrace.reports_concat itf c.2 _

/-- The commands after one more call. -/
theorem commands_pikvm_next (c : KvmState × CallTrace Call) (i : Call) :
    CallTrace.commands (pikvm.next c i).2 = c.2.commands ++ [i] := by
  simp [CallTrace.commands, Machine.next, pikvm]

/-! ### The checksum of the last report -/

/-- Every call keeps the filter's invariant. -/
theorem filterInv_next (c : KvmState × CallTrace Call) (i : Call)
    (h : FilterInv c.1 (CallTrace.reports .hidKbIf c.2)) :
    FilterInv (pikvm.next c i).1 (CallTrace.reports .hidKbIf (pikvm.next c i).2) := by
  rw [reports_next]
  show FilterInv (i.handle c.1).state _
  by_cases hkey : i.IsKey
  · rw [i.handle_key c.1 hkey, KeyCommand.handle_reports, if_pos rfl]
    exact h.handle (i.toKey hkey)
  · -- No call on the keyboard interface, and `last_crc` stays.
    have hsilent : (i.handle c.1).reports .hidKbIf = [] ∧
        (i.handle c.1).state.lastCrc = c.1.lastCrc := by
      by_cases hmouse : i.IsMouse
      · rw [i.handle_mouse c.1 hmouse, MouseCommand.handle_reports, if_neg (by decide)]
        exact ⟨rfl, ((i.toMouse hmouse).handle_frame c.1).2.1⟩
      · obtain ⟨hnone, code, hstate⟩ := i.handle_quiet c.1 hkey hmouse
        rw [HandlerOut.reports, hnone, hstate]
        exact ⟨rfl, rfl⟩
    rw [hsilent.1, List.append_nil]
    exact ⟨hsilent.2.trans h.lastCrc_eq, h.report_eq⟩

/-- In any run `last_crc` stands for the last call on the keyboard interface. -/
theorem filterInv_run (calls : List Call) :
    FilterInv (pikvm.exec start calls).1
      (CallTrace.reports .hidKbIf (pikvm.exec start calls).2) :=
  pikvm.invariant_all (I := fun c => FilterInv c.1 (CallTrace.reports .hidKbIf c.2))
    filterInv_next (show FilterInv .boot [] from ⟨rfl, nofun⟩) calls

/-! ### Failed attempts -/

/-- A report whose checksum is not the last one is sent. -/
theorem sendsAfresh_of_ne {st : KvmState} {i : KeyCommand} (hbuild : i.Builds)
    (hne : st.lastCrc ≠ reportCrc (i.report st)) : SendsAfresh st i := by
  rcases i.handle_cases st with ⟨hno, -⟩ | ⟨-, hcrc, -⟩ |
    ⟨-, -, failed, sent, hcalls, hlast, -, hle, hall⟩
  · exact absurd hbuild hno
  · exact absurd hcrc hne
  · have hlen : (i.calls st).length = failed + 1 := by
      rw [hcalls]
      simp [attempt]
    refine ⟨?_, ?_, ?_, ?_, ?_, ?_⟩
    · rw [hcalls]
      exact attempt_ne_nil _ _ _ _
    · rw [hlen]
      exact Nat.succ_le_succ hle
    · intro call hmem
      rw [hcalls] at hmem
      exact ⟨itf_of_mem_attempt _ _ _ _ hmem, report_of_mem_attempt _ _ _ _ hmem⟩
    · intro call hmem
      rw [hcalls, attempt, List.dropLast_concat] at hmem
      rw [List.eq_of_mem_replicate hmem]
    · intro hfailed
      rw [hlen, hall (hfailed ⟨.hidKbIf, i.report st, sent⟩ (hcalls ▸ last_mem_attempt _ _ _ _))]
    · -- The checksum of a report is never the 0 that stands for a failure.
      obtain ⟨m, k, hreport⟩ := i.report_eq_keyReport st
      have hcrc : reportCrc (i.report st) ≠ 0 := by
        rw [hreport]
        exact reportCrc_ne_zero m k
      rw [hlast, hcalls, exists_mem_attempt_ok]
      cases sent with
      | true => simpa using hcrc
      | false => simp

/-- In any run, if no keyboard report was attempted yet, or the latest attempt failed in all
its tries, then the next `CMD_KEY` that builds a report sends it. -/
theorem failed_send_not_masked (calls : List Call) (i : KeyCommand)
    (hfailed : LastAttemptFailed .hidKbIf (pikvm.exec start calls).2) (hbuild : i.Builds) :
    SendsAfresh (pikvm.exec start calls).1 i := by
  refine sendsAfresh_of_ne hbuild ?_
  -- An empty call list makes `last_crc` 0, and so does a failed attempt.
  have hlast : (pikvm.exec start calls).1.lastCrc = 0 := by
    rw [(filterInv_run calls).lastCrc_eq, sentCrc, CallTrace.reports_getLast?]
    cases hattempt : CallTrace.lastAttempt .hidKbIf (pikvm.exec start calls).2 with
    | none => rfl
    | some tries =>
        rw [Option.bind_some]
        cases hcall : tries.getLast? with
        | none => rfl
        | some call =>
            have hok := hfailed tries hattempt call (List.mem_of_getLast? hcall)
            simp [hok]
  obtain ⟨m, k, hreport⟩ := i.report_eq_keyReport (pikvm.exec start calls).1
  rw [hlast, hreport]
  exact (reportCrc_ne_zero m k).symm

/-- The press of A fails in all four tries, and the next press of A is tried. -/
theorem failed_send_not_masked_pressA :
    let bad : HandlerEnv := ⟨.zero, fun _ => false⟩
    let press := KeyCommand.ofCode ⟨.zero, fun _ => true⟩ 1 1
    let first : Call := ⟨(KeyCommand.ofCode bad 1 1).cmdBuf, 8, bad⟩
    SendsAfresh (pikvm.exec start [first]).1 press := by
  intro bad press first
  exact failed_send_not_masked [first] press (by decide +kernel) (by decide +kernel)

end PikvmHid
