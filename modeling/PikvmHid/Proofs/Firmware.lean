import PikvmHid.Proofs.HeldKeys
import PikvmHid.Proofs.UsbPipes
import PikvmHid.Spec.Firmware

/-!
# `PikvmHid.Proofs.Firmware`: what the tasks send is what the USB host takes

The reports of the tasks have the size of a packet (`sized_run`), and so the pipes of the USB
device bring them to the host (`sentReports_received`). With that the results about the handlers,
which speak of accepted calls, become results about what the host has taken.
-/

set_option autoImplicit false

namespace PikvmHid

open Lib

/-! ### The size of a report -/

/-- The report of a call is a packet of its endpoint. -/
def ReportIn.Sized (call : ReportIn) : Prop := call.report.length = call.itf.reportSize

/-- `send_hid_report` calls with the size it is given. -/
theorem sized_sendHidReport (usb : Nat → Bool) (itf : HidIf) (data : Buffer) (retry : Nat) :
    ∀ call ∈ (sendHidReport usb itf data itf.reportSize retry).1, call.Sized := by
  obtain ⟨failed, -, -, hcalls⟩ :=
    sendHidReport_loop_eq usb itf (data.bytes itf.reportSize) retry 0
  intro call hcall
  rw [sendHidReport, hcalls] at hcall
  rw [ReportIn.Sized, itf_of_mem_attempt _ _ _ _ hcall, report_of_mem_attempt _ _ _ _ hcall,
    Buffer.length_bytes]

/-- The binary handler calls with the size of the interface. -/
theorem sized_pikvm (env : HandlerEnv) (st : KvmState) (cmdBuf : Buffer) (cmdLen : Nat) :
    ∀ call ∈ (handlePikvmCommand env st cmdBuf cmdLen).reportIns, call.Sized := by
  have hnone : ∀ call ∈ ([] : List ReportIn), call.Sized := fun _ h => absurd h List.not_mem_nil
  have hmouse : ∀ (st : KvmState) (hidRpt : Buffer),
      ∀ call ∈ (sendMouseReport env st hidRpt).2, call.Sized := fun _ _ =>
    sized_sendHidReport env.reportIn .hidMsIf _ 3
  have hkey : ∀ call ∈ (cmdKey env st cmdBuf).2, call.Sized := by
    rw [cmdKey]
    dsimp only
    split
    · exact hnone
    · split
      · exact hnone
      · exact sized_sendHidReport env.reportIn .hidKbIf _ 3
  rw [handlePikvmCommand]
  dsimp only
  split
  · -- Only the mouse and the keyboard cases send anything.
    rcases commandSwitch_cases env st cmdBuf with ⟨-, h⟩ | ⟨-, h⟩ | ⟨-, h⟩ | ⟨-, h⟩ | ⟨-, h⟩ | ⟨-, h⟩
    · rw [h]
      exact hnone
    · rw [h]
      exact hnone
    · rw [h, cmdWheel]
      exact hmouse _ _
    · rw [h, cmdButtonMove]
      exact hmouse _ _
    · rw [h]
      exact hkey
    · rw [h]
      exact hnone
  · exact hnone

/-- A raw target comes with the size of its interface. -/
theorem reportSize_of_rawTarget {ch : U8} {itf : HidIf} {rptLen : Nat} {rptId : U8}
    (h : rawTarget ch = some (itf, rptLen, rptId)) : rptLen = itf.reportSize := by
  rw [rawTarget] at h
  split_ifs at h
  · obtain ⟨rfl, rfl, -⟩ := Prod.mk.injEq .. ▸ Option.some.inj h
    rfl
  · obtain ⟨rfl, rfl, -⟩ := Prod.mk.injEq .. ▸ Option.some.inj h
    rfl

/-- So the raw handler does too. -/
theorem sized_rawkvm (env : HandlerEnv) (st : KvmState) (cmdBuf : Buffer) (cmdLen : Nat) :
    ∀ call ∈ (handleRawkvmCommand env st cmdBuf cmdLen).reportIns, call.Sized := by
  have hnone : ∀ call ∈ ([] : List ReportIn), call.Sized := fun _ h => absurd h List.not_mem_nil
  rw [handleRawkvmCommand]
  cases htarget : rawTarget (cmdBuf 0) with
  | none => exact hnone
  | some target =>
      obtain ⟨itf, rptLen, rptId⟩ := target
      obtain rfl := reportSize_of_rawTarget htarget
      dsimp only
      split
      · exact hnone
      · exact sized_sendHidReport env.reportIn itf _ 3

/-- The reports of a step of the device. -/
theorem sized_step (d : Dev) (i : Act) : ∀ call ∈ reportIns (d.step i).2, call.Sized := by
  have hnone : ∀ call ∈ ([] : List ReportIn), call.Sized := fun _ h => absurd h List.not_mem_nil
  cases i with
  | isr ch tick =>
      rw [Dev.step]
      cases (halUartIsr d.isr d.kernel ch tick).accepted <;> exact hnone
  | task env =>
      rw [Dev.step, cliTaskStep]
      split
      · exact hnone
      · exact hnone
      · rw [reportIns_handled, handleCommandTail]
        split
        · exact sized_pikvm _ _ _ _
        · exact sized_rawkvm _ _ _ _
      · exact hnone
      · exact hnone
      · exact hnone

/-- So does every run of the device. -/
theorem sized_run (d : Dev) (is : List Act) :
    ∀ call ∈ reportIns (device.exec (d, []) is).2, call.Sized := by
  refine device.invariant_all (I := fun c => ∀ call ∈ reportIns c.2, call.Sized) ?_ ?_ is
  · intro c i h call hcall
    rw [Machine.next, reportIns_append, List.mem_append] at hcall
    rcases hcall with hcall | hcall
    · exact h call hcall
    · exact sized_step c.1 i call hcall
  · exact fun _ h => absurd h List.not_mem_nil

/-! ### The calls of a run -/

/-- The report calls along a longer run. -/
theorem usbCalls_append (itf : HidIf) (obs obs' : List UsbObs) :
    usbCalls itf (obs ++ obs') = usbCalls itf obs ++ usbCalls itf obs' :=
  List.filterMap_append

/-- A call of the run is among those that are seen. -/
theorem mem_usbCalls {itf : HidIf} {bytes : List U8} (dev : UsbDevice) {is : List UsbAct}
    (h : .reportIn itf.index bytes ∈ is) :
    ∃ ok, (bytes, ok) ∈ usbCalls itf (usbMachine.exec (dev, []) is).2 := by
  induction is generalizing dev with
  | nil => exact absurd h List.not_mem_nil
  | cons i is ih =>
      rw [Machine.exec_cons, Machine.next, Machine.exec_obs, List.nil_append, usbCalls_append]
      rcases List.mem_cons.mp h with rfl | h
      · let r := usbdHidReportIn dev itf.index (.ofList bytes .zero) bytes.length
        refine ⟨decide (r.1 = .ok), List.mem_append_left _ ?_⟩
        simp only [usbMachine, usbCalls, List.filterMap_cons, if_true]
        exact List.mem_singleton_self _
      · obtain ⟨ok, hok⟩ := ih (usbMachine.step dev i).1 h
        exact ⟨ok, List.mem_append_right _ hok⟩

/-- The reports of a run that fits together with one of the tasks fit in their packets. -/
theorem FitTogether.fitsPacket {calls : List ReportIn} {dev : UsbDevice} {is : List UsbAct}
    (h : FitTogether calls (usbMachine.exec (dev, []) is).2) (hsized : ∀ call ∈ calls, call.Sized) :
    ∀ i ∈ is, FitsPacket i := by
  intro i hi
  cases i with
  | reportIn n bytes =>
      rintro itf rfl
      obtain ⟨ok, hmem⟩ := mem_usbCalls dev hi
      rw [h itf, taskCalls, List.mem_map] at hmem
      obtain ⟨call, hcall, heq⟩ := hmem
      rw [List.mem_filter, decide_eq_true_iff] at hcall
      have hlen := hsized call hcall.1
      have hreport : call.report = bytes := congrArg Prod.fst heq
      rw [ReportIn.Sized, hcall.2, hreport] at hlen
      exact Nat.le_of_eq hlen
  | _ => trivial

/-- The accepted reports are those of the accepted calls. -/
theorem acceptedReports_eq_usbCalls (itf : HidIf) (obs : List UsbObs) :
    acceptedReports itf obs = ((usbCalls itf obs).filter (·.2)).map (·.1) := by
  induction obs with
  | nil => rfl
  | cons o obs ih =>
      rw [acceptedReports] at ih ⊢
      rw [usbCalls] at ih ⊢
      cases o with
      | packet n pid bytes ack => exact ih
      | report i bytes ok =>
          by_cases hi : i = itf.index
          · cases ok <;> simp [hi, ih]
          · simp [hi, ih]

/-- Where the two machines fit together, the reports accepted are the reports sent. -/
theorem FitTogether.acceptedReports {calls : List ReportIn} {obs : List UsbObs}
    (h : FitTogether calls obs) (itf : HidIf) : acceptedReports itf obs = sentReports itf calls := by
  rw [acceptedReports_eq_usbCalls, h itf, sentReports]

/-! ### The host -/

/-- What the tasks send is what the host takes. Take a run of the device from any state, and a run of
the USB device from one with idle pipes, that fit together. As long as the pipes stay open, the
host has taken the reports that the tasks have sent, once and in order, but for at most the last
one, which is still in the endpoint. -/
theorem sentReports_received (pma : Pma) {pre post : List UsbAct} (d : Dev) (is : List Act)
    (hpre : ∀ i ∈ pre, Ordinary i) (hpost : ∀ i ∈ post, KeepsPipes i)
    (hidle : PipesIdle (usbMachine.exec (usbDeviceInit pma, []) pre).1)
    (hfit : FitTogether (reportIns (device.exec (d, []) is).2)
      (usbMachine.exec ((usbMachine.exec (usbDeviceInit pma, []) pre).1, []) post).2) (itf : HidIf) :
    let dev := (usbMachine.exec (usbDeviceInit pma, []) pre).1
    let c := usbMachine.exec (dev, []) post
    let got := receivedReports itf (eprHalf .tx (pipeReg dev itf)).dtog c.2
    let sent := sentReports itf (reportIns (device.exec (d, []) is).2)
    got = sent ∨ ∃ bytes, waiting c.1 itf = [bytes] ∧ got ++ [bytes] = sent := by
  intro dev c got sent
  have hfits := hfit.fitsPacket (sized_run d is)
  have hsent : acceptedReports itf c.2 = sent := hfit.acceptedReports itf
  rw [← hsent]
  exact (allocated_of_idle pma (fun i hi => (hpre i hi).fitsPacket) hidle).receivedReports hidle
    (fun i hi => ⟨hpost i hi, hfits i hi⟩) itf

/-- The frame of a `CMD_KEY` that presses A. -/
def pressFrame : List U8 := withCrc [MAGIC, CMD_KEY, 1, 1, 0, 0]

/-- The frame comes in over the serial line, and the task handles it. -/
theorem pressFrame_received :
    let obs := (device.exec (.boot, []) (received pressFrame 0 ++ taskSteps 12 .ok)).2
    let dev := (usbMachine.exec (usbDeviceInit fun _ => 0, []) configure).1
    let c := usbMachine.exec (dev, []) [.reportIn 0 (keyReport 0 KEY_A), .inToken 7 false,
      .inToken 7 true]
    let got := receivedReports .hidKbIf (eprHalf .tx (pipeReg dev .hidKbIf)).dtog c.2
    got = [keyReport 0 KEY_A] ∧
      (got = sentReports .hidKbIf (reportIns obs) ∨ ∃ bytes, waiting c.1 .hidKbIf = [bytes] ∧
        got ++ [bytes] = sentReports .hidKbIf (reportIns obs)) := by
  refine ⟨by decide +kernel, sentReports_received _ .boot _ ?_ ?_ ?_ ?_ .hidKbIf⟩
  · decide
  · simp [KeepsPipes]
  · exact pipesIdle_configure
  · intro itf
    cases itf <;> decide +kernel

/-- The calls of a `CMD_KEY` are on the keyboard interface. -/
theorem itf_of_keyboard {cmds : List KeyCommand} :
    ∀ call ∈ Trace.calls (keyboard.exec reset cmds).2, call.itf = .hidKbIf := by
  refine keyboard.invariant_all
    (I := fun c => ∀ call ∈ Trace.calls c.2, call.itf = .hidKbIf) ?_ ?_ cmds
  · intro c i h call hcall
    have hcalls : Trace.calls (keyboard.next c i).2 = Trace.calls c.2 ++ i.calls c.1 :=
      calls_next _ c i
    rw [hcalls, List.mem_append] at hcall
    rcases hcall with hcall | hcall
    · exact h call hcall
    · rcases i.handle_cases c.1 with ⟨-, hnone, -⟩ | ⟨-, -, hnone, -⟩ |
        ⟨-, -, failed, sent, hattempt, -⟩
      · rw [hnone] at hcall
        exact absurd hcall List.not_mem_nil
      · rw [hnone] at hcall
        exact absurd hcall List.not_mem_nil
      · rw [hattempt] at hcall
        exact itf_of_mem_attempt _ _ _ _ hcall
  · exact fun _ h => absurd h List.not_mem_nil

/-- What the host sees last is the last accepted report. -/
theorem getLast?_sentReports {itf : HidIf} {calls : List ReportIn}
    (h : ∀ call ∈ calls, call.itf = itf) :
    (sentReports itf calls).getLast? = lastAccepted calls := by
  have hall : calls.filter (·.itf = itf) = calls := by
    rw [List.filter_eq_self]
    intro call hcall
    rw [h call hcall, decide_eq_true_iff]
  rw [sentReports, taskCalls, hall, List.filter_map, List.map_map, lastAccepted, List.getLast?_map]
  rfl

/-- The host shows the keys that are down. The keyboard commands of a run from reset are all sent and
none builds an alias of the report before it. When nothing waits in the endpoint, the last report
that the host has taken is that of the latest command that builds one, with the modifiers that
were down then. -/
theorem host_shows_latest (pma : Pma) {pre post : List UsbAct} {cmds : List KeyCommand}
    (hpre : ∀ i ∈ pre, Ordinary i) (hpost : ∀ i ∈ post, KeepsPipes i ∧ FitsPacket i)
    (hidle : PipesIdle (usbMachine.exec (usbDeviceInit pma, []) pre).1)
    (hsends : ∀ c ∈ cmds, c.Sends) (hno : keyboard.Meets NoAlias reset cmds)
    (hfit : usbCalls .hidKbIf
        (usbMachine.exec ((usbMachine.exec (usbDeviceInit pma, []) pre).1, []) post).2 =
      taskCalls .hidKbIf (Trace.calls (keyboard.exec reset cmds).2))
    (hdrained : waiting
      (usbMachine.exec ((usbMachine.exec (usbDeviceInit pma, []) pre).1, []) post).1 .hidKbIf = []) :
    let dev := (usbMachine.exec (usbDeviceInit pma, []) pre).1
    let c := usbMachine.exec (dev, []) post
    ShowsLatest cmds
      (receivedReports .hidKbIf (eprHalf .tx (pipeReg dev .hidKbIf)).dtog c.2).getLast? := by
  intro dev c
  -- Nothing waits, so the host has taken all that was accepted.
  have hgot := ((allocated_of_idle pma (fun i hi => (hpre i hi).fitsPacket) hidle).receivedReports hidle hpost .hidKbIf).resolve_right
    fun ⟨bytes, hwaits, _⟩ => absurd (hdrained.symm.trans hwaits) (List.cons_ne_nil bytes []).symm
  have hsent : acceptedReports .hidKbIf c.2 =
      sentReports .hidKbIf (Trace.calls (keyboard.exec reset cmds).2) := by
    rw [acceptedReports_eq_usbCalls, hfit, sentReports]
  -- The keyboard side: the last report is that of the keys that are down.
  have hmeets : keyboard.Meets (fun c i => i.Sends ∧ NoAlias c i) reset cmds :=
    keyboard.meets_and ((keyboard.meets_forall_iff reset).mpr hsends) hno
  have hshows := (keyboard.invariant heldInv_next heldInv_reset hmeets).shows
  have hcommands : Trace.commands (keyboard.exec reset cmds).2 = cmds :=
    commands_exec KeyCommand.toCommand reset cmds
  rw [hcommands, ← getLast?_sentReports itf_of_keyboard, ← hsent, ← hgot] at hshows
  exact hshows

/-- Left Ctrl and A go down. -/
theorem ctrlA_shown :
    let env : HandlerEnv := ⟨.zero, fun _ => true⟩
    let cmds := [KeyCommand.ofCode env 77 1, .ofCode env 1 1]
    let dev := (usbMachine.exec (usbDeviceInit fun _ => 0, []) configure).1
    let c := usbMachine.exec (dev, []) [.reportIn 0 (keyReport 1 KEY_A), .inToken 7 false,
      .inToken 7 true]
    let got := receivedReports .hidKbIf (eprHalf .tx (pipeReg dev .hidKbIf)).dtog c.2
    got = [keyReport 1 KEY_A] ∧ ShowsLatest cmds got.getLast? := by
  intro env cmds
  refine ⟨by decide +kernel, host_shows_latest _ ?_ ?_ ?_ ?_ ?_ ?_ ?_⟩
  · decide
  · simpa [keyReport, KeepsPipes, FitsPacket] using reportSize_keyboard
  · exact pipesIdle_configure
  · rw [List.forall_mem_cons, List.forall_mem_singleton]
    exact ⟨⟨0, Nat.zero_le 3, rfl⟩, ⟨0, Nat.zero_le 3, rfl⟩⟩
  · decide +kernel
  · decide +kernel
  · decide +kernel

end PikvmHid
