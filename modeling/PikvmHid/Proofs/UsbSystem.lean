import PikvmHid.Proofs.UsbApart
import PikvmHid.Proofs.UsbStates
import PikvmHid.Spec.UsbSystem

/-!
# `PikvmHid.Proofs.UsbSystem`: a call of `USBD_HID_ReportIn` as one step

The stores of a call touch the endpoint handle and its part of the packet memory only, and no one looks
at these before the register is `VALID`. So what comes in between could as well have come before the
call, and the call is one step at the moment of its last store (`linear_run`). What holds of the runs
of `usbMachine` then holds of the runs of `usbSystem`.
-/

set_option autoImplicit false

namespace PikvmHid

/-! ### A call that is under way -/

/-- The endpoint handle at this point. -/
def CallPoint.handle (bytes : List U8) (ep : UsbEp) : CallPoint → UsbEp
  | .tested => ep
  | .marked => { ep with state := .data }
  | .aimed => { ep with state := .data, data := .mem (.ofList bytes .zero) }
  | .counted =>
      { ep with state := .data, data := .mem (.ofList bytes .zero), progress := bytes.length }
  | .loaded =>
      { ep with
        state := .data, data := .mem (.ofList bytes .zero), progress := bytes.length
        length := bytes.length }
  | .sized .. => ep.reporting bytes
  | .writing .. => ep.reporting bytes

/-- What is in the packet memory at this point: nothing, or so much that the rest of the loop completes
the report. -/
def CallPoint.Stores (itf : HidIf) (bytes : List U8) (stores : Pma → Pma) : CallPoint → Prop
  | .sized size pmaAddress => stores = id ∧ size = bytes.length ∧ pmaAddress = itf.pmaAddress
  | .writing n src dst =>
      itf.pmaAddress / 2 ≤ dst ∧ dst + n ≤ itf.pmaAddress / 2 + (itf.reportSize + 1) / 2 ∧
        ∀ p, usbPrvWritePMA.loop n src dst (stores p) =
          storeReport itf (.ofList bytes .zero) bytes.length p
  | _ => stores = id

/-- A call keeps what its endpoint was allocated. -/
theorem CallPoint.handle_same (point : CallPoint) (bytes : List U8) (ep : UsbEp) :
    (point.handle bytes ep).maxPacketSize = ep.maxPacketSize ∧
      (point.handle bytes ep).type = ep.type ∧ (point.handle bytes ep).regId = ep.regId := by
  cases point <;> exact ⟨rfl, rfl, rfl⟩

/-- A call does not halt its endpoint. -/
theorem CallPoint.handle_state (point : CallPoint) (bytes : List U8) {ep : UsbEp}
    (h : ep.state ≠ .stall) : (point.handle bytes ep).state ≠ .stall := by
  cases point <;> first | exact h | simp [CallPoint.handle, UsbEp.reporting]

/-- An idle endpoint goes over to `DATA`. -/
theorem CallPoint.handle_idle_or_data (point : CallPoint) (bytes : List U8) {ep : UsbEp}
    (h : ep.state = .idle) :
    (point.handle bytes ep).state = .idle ∨ (point.handle bytes ep).state = .data := by
  cases point with
  | tested => exact .inl h
  | _ => exact .inr rfl

/-- The stores of a call at this point. -/
def CallPoint.part {itf : HidIf} (point : CallPoint) (bytes : List U8) {stores : Pma → Pma}
    (hw : Lib.Within itf.region stores) : PartReport itf where
  handle ep := point.handle bytes ep
  stores := stores
  same := point.handle_same bytes
  halted _ := point.handle_state bytes
  within := hw

/-- A call for the interface, and what it has stored over a device that knows nothing of it. -/
structure UnderWay (itf : HidIf) (call : ReportCall) (dev sys : UsbDevice) : Prop where
  i : call.i = itf.index
  epAddr : call.epAddr = itf.inEpNum
  fits : call.bytes.length ≤ itf.reportSize
  part : ∃ stores, ∃ hw : Lib.Within itf.region stores,
    call.point.Stores itf call.bytes stores ∧ sys = (call.point.part call.bytes hw).on dev

namespace PartReport

variable {itf : HidIf} (part : PartReport itf) (dev : UsbDevice)

/-- The endpoint of the report. -/
theorem epIn_self : (part.on dev).epIn itf.epNum = part.handle (dev.epIn itf.epNum) :=
  dev.setIn_self _ _

/-- A store to it. -/
theorem setIn_self (ep : UsbEp) :
    (part.on dev).setIn itf.epNum ep = (dev.setIn itf.epNum ep).setPma part.stores := by
  simp only [on, UsbDevice.setIn, UsbDevice.setPma, Function.update_idem]

/-- The registers are as they were. -/
theorem pipeReg_on (jtf : HidIf) : pipeReg (part.on dev) jtf = pipeReg dev jtf := by
  have hregId : ((part.on dev).epIn jtf.epNum).regId = (dev.epIn jtf.epNum).regId := by
    by_cases hj : jtf.epNum = itf.epNum
    · rw [hj, part.epIn_self]
      exact (part.same _).2.2
    · rw [part.epIn_on dev hj]
  rw [pipeReg, pipeReg, hregId]
  rfl

end PartReport

section
variable {itf : HidIf} {call : ReportCall} {dev sys : UsbDevice}

/-- A call that has stored nothing yet. -/
theorem UnderWay.begun (dev : UsbDevice) {bytes : List U8} (hfits : bytes.length ≤ itf.reportSize) :
    UnderWay itf ⟨itf.index, itf.inEpNum, bytes, .tested⟩ dev dev := by
  refine ⟨rfl, rfl, hfits, id, Lib.Within.id, rfl, ?_⟩
  show dev = { dev with epIn := Function.update dev.epIn itf.epNum (dev.epIn itf.epNum) }
  rw [Function.update_eq_self]

/-- A store to the endpoint handle takes the call to its next point. -/
theorem UnderWay.setIn (h : UnderWay itf call dev sys) (point : CallPoint) {ep : UsbEp}
    (hid : ∀ stores, call.point.Stores itf call.bytes stores → stores = id)
    (hnext : point.Stores itf call.bytes id)
    (hep : ep = point.handle call.bytes (dev.epIn itf.epNum))
    (hproceed : call.proceed sys =
      (⟨sys.setIn itf.epNum ep, some { call with point := point }⟩, [])) :
    ∃ call' sys', UnderWay itf call' dev sys' ∧ call.proceed sys = (⟨sys', some call'⟩, []) := by
  obtain ⟨hi, hepAddr, hfits, stores, hw, hs, rfl⟩ := h
  obtain rfl := hid stores hs
  refine ⟨{ call with point := point }, _, ⟨hi, hepAddr, hfits, id, hw, hnext, ?_⟩, hproceed⟩
  rw [PartReport.setIn_self, hep]
  rfl

/-- The rest of the loop completes the report, so the last halfword does. -/
theorem CallPoint.Stores.last {bytes : List U8} {stores : Pma → Pma} {src : Buffer} {dst : Nat}
    (h : CallPoint.Stores itf bytes stores (.writing 0 src dst)) :
    stores = storeReport itf (.ofList bytes .zero) bytes.length :=
  funext h.2.2

/-- The next store of a call takes it on, and the last one is the call as one step. -/
theorem UnderWay.proceed (h : UnderWay itf call dev sys) (ha : Allocated dev)
    (hidle : (dev.epIn itf.epNum).state = .idle) :
    (∃ call' sys', UnderWay itf call' dev sys' ∧ call.proceed sys = (⟨sys', some call'⟩, [])) ∨
      call.proceed sys =
        (⟨(usbdHidReportIn dev call.i (.ofList call.bytes .zero) call.bytes.length).2, none⟩,
          [.report call.i call.bytes
            ((usbdHidReportIn dev call.i (.ofList call.bytes .zero) call.bytes.length).1 = .ok)]) := by
  obtain ⟨hmps, -, hreg⟩ := ha.tables.report itf
  have hnum : (call.epAddr &&& 0xF).toNat = itf.epNum := by
    rw [h.epAddr]
    cases itf <;> rfl
  -- The handle as the call has stored it.
  have hep : sys.epIn itf.epNum = call.point.handle call.bytes (dev.epIn itf.epNum) := by
    obtain ⟨stores, hw, -, rfl⟩ := h.part
    exact PartReport.epIn_self _ dev
  have hregId : (sys.epIn itf.epNum).regId = itf.regId := by
    rw [hep, (call.point.handle_same call.bytes _).2.2, hreg]
  cases hpoint : call.point with
  | tested =>
      refine .inl (h.setIn .marked (hpoint ▸ fun _ => id) rfl rfl ?_)
      rw [ReportCall.proceed, hpoint, hnum, hep, hpoint]
      rfl
  | marked =>
      refine .inl (h.setIn .aimed (hpoint ▸ fun _ => id) rfl rfl ?_)
      rw [ReportCall.proceed, hpoint, hnum, hep, hpoint]
      rfl
  | aimed =>
      refine .inl (h.setIn .counted (hpoint ▸ fun _ => id) rfl rfl ?_)
      rw [ReportCall.proceed, hpoint, hnum, hep, hpoint]
      rfl
  | counted =>
      refine .inl (h.setIn .loaded (hpoint ▸ fun _ => id) rfl rfl ?_)
      rw [ReportCall.proceed, hpoint, hnum, hep, hpoint]
      rfl
  | loaded =>
      -- The report is one packet.
      have haddr : (sys.pma (bdtTxAddr itf.regId)).toNat = itf.pmaAddress := by
        obtain ⟨stores, hw, hs, hsys⟩ := h.part
        rw [hpoint] at hs
        obtain rfl : stores = id := hs
        rw [hsys]
        show (dev.pma (bdtTxAddr itf.regId)).toNat = itf.pmaAddress
        rw [ha.layout.report itf]
        cases itf <;> rfl
      have hnext : usbPrvNextPacketSize (sys.epIn itf.epNum) =
          (call.bytes.length, (dev.epIn itf.epNum).reporting call.bytes) := by
        rw [hep, hpoint, usbPrvNextPacketSize, if_neg]
        · rfl
        · show ¬ call.bytes.length > (dev.epIn itf.epNum).maxPacketSize
          rw [hmps]
          exact Nat.not_lt.mpr h.fits
      refine .inl (h.setIn (.sized call.bytes.length itf.pmaAddress) (hpoint ▸ fun _ => id)
        ⟨rfl, rfl, rfl⟩ rfl ?_)
      simp only [ReportCall.proceed, hpoint, hnum, hnext, hregId, haddr]
      rfl
  | sized size pmaAddress =>
      obtain ⟨stores, hw, hs, hsys⟩ := h.part
      rw [hpoint] at hs hsys
      obtain ⟨rfl, rfl, rfl⟩ := hs
      have htx : Lib.Within itf.region fun p : Pma => p.set (bdtTxCount itf.regId)
          (.ofNat 16 call.bytes.length) := by
        simp only [Pma.set_eq_update]
        exact Lib.Within.update (.inl rfl) _
      have hbound : (call.bytes.length + 1) / 2 ≤ (itf.reportSize + 1) / 2 :=
        Nat.div_le_div_right (Nat.succ_le_succ h.fits)
      refine .inl ⟨{ call with
        point := .writing ((call.bytes.length + 1) / 2) (.ofList call.bytes .zero)
          (itf.pmaAddress / 2) },
        _, ⟨h.i, h.epAddr, h.fits, _, htx, ⟨Nat.le_refl _, Nat.add_le_add_left hbound _, fun _ => rfl⟩,
          rfl⟩, ?_⟩
      simp only [ReportCall.proceed, hpoint, hnum, hregId]
      rw [hep, hpoint, hsys]
      rfl
  | writing n src dst =>
      obtain ⟨stores, hw, hs, hsys⟩ := h.part
      rw [hpoint] at hs hsys
      cases n with
      | zero =>
          refine .inr ?_
          have hstores := hs.last
          rw [h.i, ha.reportIn_idle itf h.fits hidle]
          simp only [ReportCall.proceed, hpoint, hnum, hregId]
          rw [hsys, h.i, sendReport, ← hstores]
          rfl
      | succ n =>
          obtain ⟨hlow, hhigh, hrest⟩ := hs
          have hset : Lib.Within itf.region
              fun p => Pma.set (stores p) dst (halfword (src 0) (src 1)) := by
            simp only [Pma.set_eq_update]
            exact hw.comp (Lib.Within.update (.inr ⟨hlow, by omega⟩) _)
          refine .inl ⟨{ call with point := .writing n (src.drop 2) (dst + 1) }, _,
            ⟨h.i, h.epAddr, h.fits, _, hset, ⟨by omega, by omega, hrest⟩, rfl⟩, ?_⟩
          simp only [ReportCall.proceed, hpoint]
          rw [hsys]
          rfl

end

/-! ### What comes in between -/

/-- An empty pipe looks the same. -/
theorem QuietPipe.of_view {dev dev' : UsbDevice} {itf : HidIf} (h : QuietPipe dev itf)
    (hview : pipeView dev' itf = pipeView dev itf) : QuietPipe dev' itf := by
  obtain ⟨hstate, -, hstat, hctr⟩ := PipeView.mk.inj hview
  exact ⟨hstate.trans h.state, fun hv => h.stat (hstat.symm.trans hv), hctr.trans h.ctr⟩

/-- The round of a pipe leaves the other one. -/
theorem Allocated.view_round_of_ne {dev : UsbDevice} (h : Allocated dev) {itf jtf : HidIf}
    (hne : itf ≠ jtf) (hflag : flag dev .tx jtf.regId = true) :
    pipeView (usbVIRQHandler.round dev jtf.regId) itf = pipeView dev itf := by
  rcases h.registers.addr jtf with hzero | hown
  · have hnum : (eprFields (dev.epr jtf.regId)).ea.toNat = 0 := by
      rw [hzero]
      rfl
    rw [round_eq_in hnum (h.registers.rx jtf).2 hflag, h.view_irq_in0, if_neg hne]
  · obtain ⟨ep, -, hround⟩ := h.irq_in_pipe jtf
    rw [h.round_pipe jtf hown hflag, hround, view_setIn, if_neg hne, view_flagClear, if_neg hne]

/-- The handler leaves an empty pipe alone, unless it is about to reconfigure it. -/
theorem QuietPipe.irq {dev : UsbDevice} {itf : HidIf} (h : QuietPipe dev itf) (ha : Allocated dev)
    (hcalm : ¬ Disturbing dev) : QuietPipe (usbVIRQHandler.step dev) itf := by
  rw [usbVIRQHandler.step]
  cases hr : pendingEp dev with
  | some r =>
      rcases ha.pendingEp_cases hr with ⟨rfl, -⟩ | ⟨jtf, rfl, hflag⟩
      · -- The control endpoint, with no request that reconfigures.
        have hround : UsbFramed dev (usbVIRQHandler.round dev 0) := by
          refine framed_irq_round0 fun hctr hsetup hreq => hcalm (.inl ⟨?_, ?_, hreq⟩)
          · exact (and_ctr_ne_zero_iff .rx _).mp hctr
          · exact (and_setup_ne_zero_iff _).mp hsetup
        exact h.of_view ((hround ha).2 itf).view
      · exact h.of_view (ha.view_round_of_ne (h.ne_of_flag hflag).symm hflag)
  | none =>
      have hreset : dev.reset = false := Bool.eq_false_iff.mpr fun hreset => hcalm (.inr ⟨hreset, hr⟩)
      rw [usbVIRQHandler.tail, hreset]
      exact h

/-- So does a transaction. -/
theorem QuietPipe.busIn {dev : UsbDevice} {itf : HidIf} (h : QuietPipe dev itf) (n : Nat)
    (ack : Bool) : QuietPipe (busIn dev n ack).1 itf := by
  rw [PikvmHid.busIn]
  split
  · rename_i r hr
    split_ifs with hv
    · -- A `VALID` register is not that of an empty pipe.
      refine h.of_view (keeps_setEpr_of_ne (fun hreg => ?_) _).view
      subst hreg
      exact h.stat hv.2
    · exact h
    · exact h
  · exact h

/-- A bus reset disables it. -/
theorem QuietPipe.busReset {dev : UsbDevice} {itf : HidIf} (h : QuietPipe dev itf) :
    QuietPipe (busReset dev) itf := by
  have hhalf : eprHalf .tx (hwReset (dev.epr itf.regId)) =
      ⟨.dis, false, (eprHalf .tx (dev.epr itf.regId)).ctr⟩ := by
    rw [← half_eprFields, fields_hwReset]
    rfl
  refine ⟨h.state, ?_, (congrArg EprHalf.ctr hhalf).trans h.ctr⟩
  rw [show (PikvmHid.busReset dev).epr itf.regId = hwReset (dev.epr itf.regId) from rfl, hhalf]
  exact fun hv => EpStatus.noConfusion hv

/-- A step of the device, but for a report. -/
def UsbAct.IsReport : UsbAct → Prop
  | .reportIn .. => True
  | _            => False

/-- What comes between two stores of a call could have come before the call. -/
theorem UnderWay.step {itf : HidIf} {call : ReportCall} {dev sys : UsbDevice}
    (h : UnderWay itf call dev sys) (ha : Allocated dev) (hquiet : QuietPipe dev itf)
    (hfits : ∀ jtf, ∀ p ∈ waiting dev jtf, p.length ≤ jtf.reportSize) {i : UsbAct}
    (hi : ¬ i.IsReport) (hcalm : i = .irq → ¬ Disturbing dev) :
    UnderWay itf call (usbMachine.step dev i).1 (usbMachine.step sys i).1 ∧
      (usbMachine.step sys i).2 = (usbMachine.step dev i).2 ∧
      Allocated (usbMachine.step dev i).1 ∧ QuietPipe (usbMachine.step dev i).1 itf := by
  obtain ⟨hindex, hepAddr, hlen, stores, hw, hs, rfl⟩ := h
  have hunder : ∀ dev', UnderWay itf call dev' ((call.point.part call.bytes hw).on dev') :=
    fun _ => ⟨hindex, hepAddr, hlen, stores, hw, hs, rfl⟩
  cases i with
  | inToken n ack =>
      simp only [usbMachine]
      rw [PartReport.busIn_on _ ha hquiet hfits]
      exact ⟨hunder _, rfl, (settled_busIn dev n ack ha).1, hquiet.busIn n ack⟩
  | outToken n bytes =>
      obtain ⟨ha', hkeeps⟩ := framed_busOut dev n bytes ha
      simp only [usbMachine]
      rw [PartReport.busOut_on _ ha]
      exact ⟨hunder _, trivial, ha', hquiet.of_view (hkeeps itf).view⟩
  | setup req =>
      obtain ⟨ha', hkeeps⟩ := framed_busSetup dev req ha
      simp only [usbMachine]
      rw [PartReport.busSetup_on _ ha]
      exact ⟨hunder _, trivial, ha', hquiet.of_view (hkeeps itf).view⟩
  | busReset =>
      simp only [usbMachine]
      rw [PartReport.busReset_on]
      exact ⟨hunder _, trivial, (settled_busReset dev ha).1, hquiet.busReset⟩
  | irq =>
      simp only [usbMachine]
      rw [PartReport.irq_on _ ha hquiet (hcalm rfl)]
      exact ⟨hunder _, trivial, (settled_irq dev ha).1, hquiet.irq ha (hcalm rfl)⟩
  | reportIn n bytes => exact absurd trivial hi

/-- Such a step is contained and calm without the call, too. -/
theorem UnderWay.calm {itf : HidIf} {call : ReportCall} {dev sys : UsbDevice}
    (h : UnderWay itf call dev sys) (ha : Allocated dev) (hquiet : QuietPipe dev itf)
    (obs : List UsbObs) {i : UsbAct} (hi : ¬ i.IsReport) (hstrays : i.strays sys = false)
    (hcalm : i = .irq → ¬ Disturbing sys) :
    (Contained (dev, obs) i ∧ Calm (dev, obs) i) ∧ (i = .irq → ¬ Disturbing dev) := by
  obtain ⟨-, -, -, stores, hw, -, rfl⟩ := h
  cases i with
  | irq =>
      have hundisturbed : ¬ Disturbing dev := fun hd =>
        hcalm rfl ((PartReport.disturbing_on _ ha).mpr hd)
      rw [PartReport.strays_irq_on _ ha hquiet hundisturbed] at hstrays
      exact ⟨⟨⟨trivial, hstrays⟩, fun hreq => absurd (.inl hreq) hundisturbed⟩, fun _ => hundisturbed⟩
  | reportIn n bytes => exact absurd trivial hi
  | inToken n ack => exact ⟨⟨⟨trivial, rfl⟩, trivial⟩, fun hirq => UsbAct.noConfusion hirq⟩
  | outToken n bytes => exact ⟨⟨⟨trivial, rfl⟩, trivial⟩, fun hirq => UsbAct.noConfusion hirq⟩
  | setup req => exact ⟨⟨⟨trivial, rfl⟩, trivial⟩, fun hirq => UsbAct.noConfusion hirq⟩
  | busReset => exact ⟨⟨⟨trivial, rfl⟩, trivial⟩, fun hirq => UsbAct.noConfusion hirq⟩

/-! ### The beginning of a call -/

/-- A call for an empty pipe goes on to its stores. -/
theorem begin_idle {dev : UsbDevice} (h : IfsMounted dev.ifs) (itf : HidIf) (bytes : List U8)
    (hidle : (dev.epIn itf.epNum).state = .idle) :
    usbdHidReportIn.begin dev itf.index bytes =
      (⟨dev, some ⟨itf.index, itf.inEpNum, bytes, .tested⟩⟩, []) := by
  obtain ⟨handle, hi, hep, hreq⟩ := h.getElem? itf
  have hnum : (itf.inEpNum &&& 0xF).toNat = itf.epNum := by cases itf <;> rfl
  simp only [usbdHidReportIn.begin, hi, hreq, hep, hnum, ne_eq, not_true_eq_false, false_and, if_false,
    hidle, true_or, if_true]

/-- Any other call is refused, and nothing changes. -/
theorem begin_refused {dev : UsbDevice} (h : IfsMounted dev.ifs)
    (htype : ∀ itf : HidIf, (dev.epIn itf.epNum).type = .interrupt) {i : Nat} (bytes : List U8)
    (hidle : ∀ itf : HidIf, i = itf.index → (dev.epIn itf.epNum).state ≠ .idle) :
    usbdHidReportIn.begin dev i bytes = (⟨dev, none⟩, [.report i bytes false]) := by
  by_cases hitf : ∃ itf : HidIf, i = itf.index
  · obtain ⟨itf, rfl⟩ := hitf
    obtain ⟨handle, hi, hep, hreq⟩ := h.getElem? itf
    have hnum : (itf.inEpNum &&& 0xF).toNat = itf.epNum := by cases itf <;> rfl
    have hbusy := hidle itf rfl
    simp only [usbdHidReportIn.begin, hi, hreq, hep, hnum, ne_eq, not_true_eq_false, false_and,
      if_false]
    rw [if_neg]
    simp [hbusy, htype itf]
  · have hnone : dev.ifs[i]? = none := by
      cases hi : dev.ifs[i]? with
      | none => rfl
      | some handle =>
          obtain ⟨kind, hkind, -⟩ := h.cases hi
          exact absurd ⟨kind, hkind⟩ hitf
    simp only [usbdHidReportIn.begin, hnone]

/-- As one step it is refused too. -/
theorem ReportsInOrder.reportIn_refused {d : UsbDevice × List UsbObs} (h : ReportsInOrder d) {i : Nat}
    (bytes : List U8) (hidle : ∀ itf : HidIf, i = itf.index → (d.1.epIn itf.epNum).state ≠ .idle) :
    (usbdHidReportIn d.1 i (.ofList bytes .zero) bytes.length).1 ≠ .ok ∧
      (usbdHidReportIn d.1 i (.ofList bytes .zero) bytes.length).2 = d.1 := by
  rcases h with ⟨hfresh, -⟩ | ⟨ha, -, -⟩
  · exact hfresh.reportIn i _ _
  · by_cases hitf : ∃ itf : HidIf, i = itf.index
    · obtain ⟨itf, rfl⟩ := hitf
      rw [ha.reportIn_busy itf bytes (hidle itf rfl)]
      exact ⟨by simp, rfl⟩
    · rw [reportIn_of_no_interface ha.tables.ifs fun itf hi => hitf ⟨itf, hi⟩]
      exact ⟨by simp, rfl⟩

/-! ### The simulation -/

/-- The device of the system is the one of the machine, with the stores of the call if there is one. -/
inductive Beside (s : UsbSystem) (dev : UsbDevice) : Prop where
  | free : s.call = none → s.dev = dev → Beside s dev
  | busy (itf : HidIf) (call : ReportCall) : s.call = some call → UnderWay itf call dev s.dev →
      Allocated dev → QuietPipe dev itf → Beside s dev

/-- What a run of the system has come to, and a run of the machine with the same observations. -/
structure Linear (c : UsbSystem × List UsbObs) (d : UsbDevice × List UsbObs) : Prop where
  obs : c.2 = d.2
  order : ReportsInOrder d
  consistent : Consistent d.1
  beside : Beside c.1 d.1

/-- Both go on. -/
theorem Linear.goOn {c c' : UsbSystem × List UsbObs} {d : UsbDevice × List UsbObs} (h : Linear c d)
    (js : List UsbAct) (hjs : usbMachine.Meets ContainedCalm d js)
    (hobs : c'.2 = (usbMachine.exec d js).2) (hbeside : Beside c'.1 (usbMachine.exec d js).1) :
    ∃ js, usbMachine.Meets ContainedCalm d js ∧ Linear c' (usbMachine.exec d js) := by
  have hinv := usbMachine.invariant (I := fun d => ReportsInOrder d ∧ Consistent d.1)
    (fun d i hd hi => ⟨hd.1.next i hi.1.1, hd.2.next hd.1 ⟨hi.1.1, hi.2⟩⟩)
    ⟨h.order, h.consistent⟩ hjs
  exact ⟨js, hjs, hobs, hinv.1, hinv.2, hbeside⟩

/-- A report that begins a call, or is refused. -/
theorem Linear.begin {c : UsbSystem × List UsbObs} {d : UsbDevice × List UsbObs} (h : Linear c d)
    (hnone : c.1.call = none) (hdev : c.1.dev = d.1) (i : Nat) (bytes : List U8)
    (hfits : FitsPacket (.reportIn i bytes)) :
    ∃ js, usbMachine.Meets ContainedCalm d js ∧
      Linear (usbSystem.next c (.device (.reportIn i bytes))) (usbMachine.exec d js) := by
  have hstep : usbSystem.step c.1 (.device (.reportIn i bytes)) =
      usbdHidReportIn.begin d.1 i bytes := by
    simp only [usbSystem, hnone, hdev]
  have hmounted : IfsMounted d.1.ifs ∧ ∀ itf : HidIf, (d.1.epIn itf.epNum).type = .interrupt := by
    rcases h.order with ⟨hfresh, -⟩ | ⟨ha, -, -⟩
    · exact ⟨hfresh.ifs, fun itf => (hfresh.mounted.report itf).2⟩
    · exact ⟨ha.tables.ifs, fun itf => (ha.tables.report itf).type⟩
  by_cases hidle : ∃ itf : HidIf, i = itf.index ∧ (d.1.epIn itf.epNum).state = .idle
  · obtain ⟨itf, rfl, hidle⟩ := hidle
    rw [begin_idle hmounted.1 itf bytes hidle] at hstep
    -- Before the first reset is served no pipe is open.
    have ha : Allocated d.1 := by
      rcases h.order with ⟨hfresh, -⟩ | ⟨ha, -, -⟩
      · rw [(hfresh.inEp itf.epNum).2.2] at hidle
        exact EpState.noConfusion hidle
      · exact ha
    obtain ⟨hstat, hctr⟩ := (h.consistent itf).quiet hidle
    refine h.goOn [] trivial ?_ ?_
    · rw [Lib.Machine.next, hstep]
      exact (List.append_nil _).trans h.obs
    · rw [Lib.Machine.next, hstep]
      exact .busy itf _ rfl (.begun d.1 (hfits itf rfl)) ha ⟨hidle, hstat, hctr⟩
  · have hbusy : ∀ itf : HidIf, i = itf.index → (d.1.epIn itf.epNum).state ≠ .idle :=
      fun itf hi hs => hidle ⟨itf, hi, hs⟩
    obtain ⟨hnot, hsame⟩ := h.order.reportIn_refused bytes hbusy
    rw [begin_refused hmounted.1 hmounted.2 bytes hbusy] at hstep
    refine h.goOn [.reportIn i bytes] ⟨⟨⟨hfits, rfl⟩, trivial⟩, trivial⟩ ?_ ?_
    · rw [Lib.Machine.next, hstep, h.obs]
      simp [Lib.Machine.next, usbMachine, hnot]
    · rw [Lib.Machine.next, hstep]
      exact .free rfl hsame.symm

/-- A step of the device, beside a call or without one. -/
theorem Linear.device {c : UsbSystem × List UsbObs} {d : UsbDevice × List UsbObs} (h : Linear c d)
    {i : UsbAct} (hi : ¬ i.IsReport) (hstep : usbSystem.step c.1 (.device i) =
      (⟨(usbMachine.step c.1.dev i).1, c.1.call⟩, (usbMachine.step c.1.dev i).2))
    (hK : ContainedCalm (c.1.dev, c.2) i)
    (hcalm : i = .irq → c.1.call.isSome = true → ¬ Disturbing c.1.dev) :
    ∃ js, usbMachine.Meets ContainedCalm d js ∧
      Linear (usbSystem.next c (.device i)) (usbMachine.exec d js) := by
  rcases h.beside with ⟨hnone, hdev⟩ | ⟨itf, call, hsome, hunder, ha, hquiet⟩
  · -- The devices are equal, so they make the same step.
    have hpair : (c.1.dev, c.2) = d := by rw [hdev, h.obs]
    rw [hpair] at hK
    refine h.goOn [i] ⟨hK, trivial⟩ ?_ ?_
    · rw [Lib.Machine.next, hstep, h.obs, hdev]
      rfl
    · rw [Lib.Machine.next, hstep, hdev]
      exact .free hnone rfl
  · -- The machine makes the step before the call, which goes on as it would have.
    have hfits : ∀ jtf, ∀ p ∈ waiting d.1 jtf, p.length ≤ jtf.reportSize := by
      rcases h.order with ⟨hfresh, -⟩ | ⟨-, hfits, -⟩
      · intro jtf p hp
        rw [waiting, hfresh.epr, if_neg (by decide)] at hp
        exact absurd hp List.not_mem_nil
      · exact hfits
    have hundisturbed := fun hirq => hcalm hirq (by rw [hsome]; rfl)
    obtain ⟨hmeets, hcalm'⟩ := hunder.calm ha hquiet d.2 hi hK.1.2 hundisturbed
    obtain ⟨hunder', hobs, ha', hquiet'⟩ := hunder.step ha hquiet hfits hi hcalm'
    refine h.goOn [i] ⟨hmeets, trivial⟩ ?_ ?_
    · rw [Lib.Machine.next, hstep, h.obs, hobs]
      rfl
    · rw [Lib.Machine.next, hstep]
      exact .busy itf call hsome hunder' ha' hquiet'

/-- A store of the task. -/
theorem Linear.task {c : UsbSystem × List UsbObs} {d : UsbDevice × List UsbObs} (h : Linear c d) :
    ∃ js, usbMachine.Meets ContainedCalm d js ∧
      Linear (usbSystem.next c .task) (usbMachine.exec d js) := by
  rcases h.beside with ⟨hnone, hdev⟩ | ⟨itf, call, hsome, hunder, ha, hquiet⟩
  · have hstep : usbSystem.step c.1 .task = (c.1, []) := by simp only [usbSystem, hnone]
    refine h.goOn [] trivial ?_ ?_
    · rw [Lib.Machine.next, hstep]
      exact (List.append_nil _).trans h.obs
    · rw [Lib.Machine.next, hstep]
      exact .free hnone hdev
  · have hstep : usbSystem.step c.1 .task = call.proceed c.1.dev := by simp only [usbSystem, hsome]
    rcases hunder.proceed ha hquiet.state with ⟨call', sys', hunder', hproceed⟩ | hproceed
    · refine h.goOn [] trivial ?_ ?_
      · rw [Lib.Machine.next, hstep, hproceed]
        exact (List.append_nil _).trans h.obs
      · rw [Lib.Machine.next, hstep, hproceed]
        exact .busy itf call' rfl hunder' ha hquiet
    · -- The last store: this is where the machine takes the report.
      have hfits : FitsPacket (.reportIn call.i call.bytes) := by
        intro jtf hj
        have hsame : jtf = itf := by
          have hindex := hj.symm.trans hunder.i
          cases itf <;> cases jtf <;> first | rfl | exact absurd hindex (by decide)
        exact hsame ▸ hunder.fits
      refine h.goOn [.reportIn call.i call.bytes] ⟨⟨⟨hfits, rfl⟩, trivial⟩, trivial⟩ ?_ ?_
      · rw [Lib.Machine.next, hstep, hproceed, h.obs]
        rfl
      · rw [Lib.Machine.next, hstep, hproceed]
        exact .free rfl rfl

/-- A step of the system is a run of the machine. -/
theorem Linear.step {c : UsbSystem × List UsbObs} {d : UsbDevice × List UsbObs} (h : Linear c d)
    {i : SystemAct} (hi : SystemCalm c i) :
    ∃ js, usbMachine.Meets ContainedCalm d js ∧
      Linear (usbSystem.next c i) (usbMachine.exec d js) := by
  obtain ⟨hK, hundisturbed⟩ := hi
  cases i with
  | task => exact h.task
  | device i =>
      cases i with
      | reportIn n bytes =>
          rcases h.beside with ⟨hnone, hdev⟩ | ⟨itf, call, hsome, hunder, ha, hquiet⟩
          · exact h.begin hnone hdev n bytes hK.1.1
          · -- No other call begins.
            have hstep : usbSystem.step c.1 (.device (.reportIn n bytes)) = (c.1, []) := by
              simp only [usbSystem, hsome]
            refine h.goOn [] trivial ?_ ?_
            · rw [Lib.Machine.next, hstep]
              exact (List.append_nil _).trans h.obs
            · rw [Lib.Machine.next, hstep]
              exact .busy itf call hsome hunder ha hquiet
      | irq => exact h.device id rfl hK fun _ => hundisturbed
      | inToken n ack => exact h.device id rfl hK fun hirq => UsbAct.noConfusion hirq
      | outToken n bytes => exact h.device id rfl hK fun hirq => UsbAct.noConfusion hirq
      | setup req => exact h.device id rfl hK fun hirq => UsbAct.noConfusion hirq
      | busReset => exact h.device id rfl hK fun hirq => UsbAct.noConfusion hirq

/-- The system does what the machine can do. -/
theorem simulation_system :
    Lib.Machine.Simulation usbSystem usbMachine SystemCalm ContainedCalm Linear :=
  ⟨fun _ _ _ h hi => h.step hi⟩

/-- Every undisturbed run of the system has its run of the machine. -/
theorem linear_run (pma : Pma) {is : List SystemAct}
    (h : usbSystem.Meets SystemCalm (systemInit pma, []) is) :
    ∃ js, usbMachine.Meets ContainedCalm (usbDeviceInit pma, []) js ∧
      Linear (usbSystem.exec (systemInit pma, []) is) (usbMachine.exec (usbDeviceInit pma, []) js) := by
  have hfresh := fresh_usbDeviceInit pma
  have hinit : Linear (systemInit pma, []) (usbDeviceInit pma, []) :=
    ⟨rfl, .fresh hfresh fun _ => rfl, hfresh.consistent, .free rfl rfl⟩
  exact simulation_system.run hinit h

/-! ### What holds of every run -/

/-- A call can be taken for one step. For every run in which no call is disturbed there is a run of the
device whose calls are one step each, with the same observations, and with the same device when no call
is under way. -/
theorem report_calls_atomic (pma : Pma) {is : List SystemAct}
    (h : usbSystem.Meets SystemCalm (systemInit pma, []) is) :
    ∃ js, usbMachine.Meets ContainedCalm (usbDeviceInit pma, []) js ∧
      (usbSystem.exec (systemInit pma, []) is).2 = (usbMachine.exec (usbDeviceInit pma, []) js).2 ∧
      ((usbSystem.exec (systemInit pma, []) is).1.call = none →
        (usbSystem.exec (systemInit pma, []) is).1.dev =
          (usbMachine.exec (usbDeviceInit pma, []) js).1) := by
  obtain ⟨js, hjs, hlinear⟩ := linear_run pma h
  refine ⟨js, hjs, hlinear.obs, fun hnone => ?_⟩
  rcases hlinear.beside with ⟨-, hdev⟩ | ⟨itf, call, hsome, -⟩
  · exact hdev
  · rw [hnone] at hsome
    exact absurd hsome (by simp)

/-- A key is pressed. The host polls the endpoint all the while, and reads the configuration descriptor.
-/
def interruptedPress : List SystemAct :=
  configure.map .device ++
    [.device (.reportIn 0 [0, 0, 4, 0, 0, 0, 0, 0]), .task, .device (.inToken 7 true),
      .task, .device (.setup getConfiguration), .task, .device .irq, .task, .task,
      .device (.inToken 0 true), .task, .device .irq, .task, .task, .device (.outToken 0 []), .task,
      .device .irq, .task, .device (.inToken 7 true), .task]

/-- The run `interruptedPress` ends without a call. -/
theorem interruptedPress_atomic :
    ∃ js, usbMachine.Meets ContainedCalm (usbDeviceInit fun _ => 0, []) js ∧
      (usbSystem.exec (systemInit fun _ => 0, []) interruptedPress).2 =
        (usbMachine.exec (usbDeviceInit fun _ => 0, []) js).2 ∧
      ((usbSystem.exec (systemInit fun _ => 0, []) interruptedPress).1.call = none →
        (usbSystem.exec (systemInit fun _ => 0, []) interruptedPress).1.dev =
          (usbMachine.exec (usbDeviceInit fun _ => 0, []) js).1) :=
  report_calls_atomic _ (by decide +kernel)

/-- Reports reach the host in order. In every run in which no call is disturbed a report endpoint puts
nothing on the bus but accepted reports, and the packets it gets acknowledged are accepted reports,
each once, in the order in which they were accepted. -/
theorem system_sends_reports (pma : Pma) {is : List SystemAct}
    (h : usbSystem.Meets SystemCalm (systemInit pma, []) is) (itf : HidIf) :
    let obs := (usbSystem.exec (systemInit pma, []) is).2
    SendsReports itf obs ∧ List.Sublist (acknowledged itf obs) (acceptedReports itf obs) := by
  obtain ⟨js, hjs, hlinear⟩ := linear_run pma h
  intro obs
  have hcontained := usbMachine.meets_mono (fun _ _ hi => hi.1) hjs
  have hobs : obs = (usbMachine.exec (usbDeviceInit pma, []) js).2 := hlinear.obs
  rw [hobs]
  exact acknowledged_sublist_accepted pma hcontained itf

/-- Its report is acknowledged at the second attempt. -/
def pressThenPoll : List SystemAct :=
  interruptedPress ++ [.device (.inToken 7 false), .device (.inToken 7 true), .device .irq]

/-- On the run `pressThenPoll` the report reaches the host. -/
theorem pressThenPoll_sends :
    let obs := (usbSystem.exec (systemInit fun _ => 0, []) pressThenPoll).2
    acknowledged .hidKbIf obs = [[0, 0, 4, 0, 0, 0, 0, 0]] ∧ SendsReports .hidKbIf obs ∧
      List.Sublist (acknowledged .hidKbIf obs) (acceptedReports .hidKbIf obs) :=
  ⟨by decide +kernel, system_sends_reports _ (by decide +kernel) .hidKbIf⟩

/-- `SET_INTERFACE` of the keyboard. -/
def setInterface0 : SetupRequest where
  requestType := 0x01
  request := USB_REQ_SET_INTERFACE
  value := 0
  index := 0
  length := 0

/-- A call that is disturbed: the handler opens the endpoint anew while the report of the key A is
written, so the next call finds it idle and writes over the packet that waits. The host gets the one
byte of the second report that is there already, Shift, with the A of the first. -/
example :
    let is : List SystemAct := configure.map .device ++
      [.device (.reportIn 0 [0, 0, 4, 0, 0, 0, 0, 0]), .task, .device (.setup setInterface0),
        .device .irq] ++ List.replicate 10 .task ++
      [.device (.reportIn 0 [2, 0, 5, 0, 0, 0, 0, 0])] ++ List.replicate 7 .task ++
      [.device (.inToken 7 true)]
    let obs := (usbSystem.exec (systemInit fun _ => 0, []) is).2
    acceptedReports .hidKbIf obs = [[0, 0, 4, 0, 0, 0, 0, 0]] ∧
      acknowledged .hidKbIf obs = [[2, 0, 4, 0, 0, 0, 0, 0]] := by
  decide +kernel

/-- A call is taken up when its endpoint is idle, and only then. -/
theorem begin_isSome_iff {dev : UsbDevice} (h : IfsMounted dev.ifs)
    (htype : ∀ itf : HidIf, (dev.epIn itf.epNum).type = .interrupt) (itf : HidIf)
    (bytes : List U8) :
    (usbdHidReportIn.begin dev itf.index bytes).1.call.isSome = true ↔
      (dev.epIn itf.epNum).state = .idle := by
  by_cases hidle : (dev.epIn itf.epNum).state = .idle
  · rw [begin_idle h itf bytes hidle]
    exact iff_of_true rfl hidle
  · rw [begin_refused h htype bytes fun jtf hj => ?_]
    · exact iff_of_false (by simp) hidle
    · have hsame : jtf = itf := by
        cases itf <;> cases jtf <;> first | rfl | exact absurd hj (by decide)
      exact hsame ▸ hidle

/-- In every run in which no call is disturbed a report endpoint is closed exactly when no configuration
is selected, and once resets are served its handle and its register are in one of the five states, or
wait for the rest of a call. A call is taken up when the register is `NAK` and no acknowledged report
waits, and only then. -/
theorem system_pipe_states (pma : Pma) {is : List SystemAct}
    (h : usbSystem.Meets SystemCalm (systemInit pma, []) is) (itf : HidIf) :
    let s := (usbSystem.exec (systemInit pma, []) is).1
    let state := (s.dev.epIn itf.epNum).state
    let reg := eprHalf .tx (pipeReg s.dev itf)
    (state = .closed ↔ s.dev.configSelector = 0) ∧
      (s.dev.reset = false → SystemPipe s itf state reg.stat reg.ctr ∧
        (s.call = none → ∀ bytes,
          ((usbSystem.step s (.device (.reportIn itf.index bytes))).1.call.isSome = true ↔
            reg.stat = .nak ∧ reg.ctr = false))) := by
  intro s state reg
  obtain ⟨js, hjs, hlinear⟩ := linear_run pma h
  obtain ⟨hclosed, hstates⟩ := pipe_states pma hjs itf
  rcases hlinear.beside with ⟨hnone, hdev⟩ | ⟨kind, call, hsome, hunder, ha, hquiet⟩
  · -- No call: the states are those of the machine.
    have hsame : s.dev = (usbMachine.exec (usbDeviceInit pma, []) js).1 := hdev
    rw [← hsame] at hclosed hstates
    refine ⟨hclosed, fun hreset => ⟨?_, fun _ bytes => ?_⟩⟩
    · rw [SystemPipe, if_neg]
      · exact (hstates hreset).1
      · rintro ⟨call, hcall, -⟩
        rw [hnone] at hcall
        exact absurd hcall (by simp)
    · have hmounted : IfsMounted s.dev.ifs ∧ ∀ itf : HidIf,
          (s.dev.epIn itf.epNum).type = .interrupt := by
        rw [hsame]
        rcases hlinear.order with ⟨hfresh, -⟩ | ⟨ha, -, -⟩
        · exact ⟨hfresh.ifs, fun itf => (hfresh.mounted.report itf).2⟩
        · exact ⟨ha.tables.ifs, fun itf => (ha.tables.report itf).type⟩
      have hstep : usbSystem.step s (.device (.reportIn itf.index bytes)) =
          usbdHidReportIn.begin s.dev itf.index bytes := by
        have hnone' : s.call = none := hnone
        simp only [usbSystem, hnone']
      rw [hstep, begin_isSome_iff hmounted.1 hmounted.2]
      exact (hstates hreset).1.idle_iff
  · obtain ⟨hindex, -, -, stores, hw, -, hsys⟩ := hunder
    have hsys' : s.dev = (call.point.part call.bytes hw).on
        (usbMachine.exec (usbDeviceInit pma, []) js).1 := hsys
    have hcall : ∀ {P : Prop}, s.call = none → P := fun hnone =>
      absurd (hsome.symm.trans hnone) (by simp)
    have hreg : reg = eprHalf .tx (pipeReg (usbMachine.exec (usbDeviceInit pma, []) js).1 itf) := by
      show eprHalf .tx (pipeReg s.dev itf) = _
      rw [hsys', PartReport.pipeReg_on]
    have hselector : s.dev.configSelector =
        (usbMachine.exec (usbDeviceInit pma, []) js).1.configSelector := by
      rw [hsys']
      rfl
    have hreset : s.dev.reset = (usbMachine.exec (usbDeviceInit pma, []) js).1.reset := by
      rw [hsys']
      rfl
    rw [hselector, hreset, hreg]
    by_cases hk : itf = kind
    · -- The pipe of the call was idle, and its handle goes over to `DATA`.
      subst hk
      have hstate : state = .idle ∨ state = .data := by
        show (s.dev.epIn itf.epNum).state = .idle ∨ (s.dev.epIn itf.epNum).state = .data
        rw [hsys', PartReport.epIn_self]
        exact call.point.handle_idle_or_data call.bytes hquiet.state
      refine ⟨?_, fun hserved => ⟨?_, fun hnone => hcall hnone⟩⟩
      · rw [← hclosed, hquiet.state]
        rcases hstate with hs | hs
        · rw [hs]
        · rw [hs]
          exact iff_of_false (by simp) (by simp)
      · have hidle := (hstates hserved).1
        rw [hquiet.state] at hidle
        rw [SystemPipe, if_pos ⟨call, hsome, hindex⟩]
        exact ⟨hstate, hidle.of_idle⟩
    · have hstate : state =
          ((usbMachine.exec (usbDeviceInit pma, []) js).1.epIn itf.epNum).state := by
        show (s.dev.epIn itf.epNum).state = _
        rw [hsys', PartReport.epIn_on _ _ fun hn => hk (HidIf.epNum_inj hn)]
      rw [hstate]
      refine ⟨hclosed, fun hserved => ⟨?_, fun hnone => hcall hnone⟩⟩
      rw [SystemPipe, if_neg]
      · exact (hstates hserved).1
      · rintro ⟨call', hcall', hindex'⟩
        obtain rfl := Option.some.inj (hsome.symm.trans hcall')
        have hsame := hindex.symm.trans hindex'
        cases itf <;> cases kind <;> first | exact hk rfl | exact absurd hsame (by decide)

/-- A call that has written one halfword of its report, when the host halts the other endpoint. -/
def haltMeanwhile : List SystemAct :=
  configure.map .device ++ [.device (.reportIn 0 [0, 0, 4, 0, 0, 0, 0, 0])] ++
    List.replicate 7 .task ++ [.device (.setup { haltKeyboard with index := 0x85 })]

/-- After the run `haltMeanwhile` the keyboard's pipe waits for the rest of the report. -/
theorem haltMeanwhile_states :
    let s := (usbSystem.exec (systemInit fun _ => 0, []) haltMeanwhile).1
    let state := (s.dev.epIn HidIf.hidKbIf.epNum).state
    let reg := eprHalf .tx (pipeReg s.dev .hidKbIf)
    (state = .closed ↔ s.dev.configSelector = 0) ∧
      (s.dev.reset = false → SystemPipe s .hidKbIf state reg.stat reg.ctr ∧
        (s.call = none → ∀ bytes,
          ((usbSystem.step s (.device (.reportIn HidIf.hidKbIf.index bytes))).1.call.isSome = true ↔
            reg.stat = .nak ∧ reg.ctr = false))) :=
  system_pipe_states _ (by decide +kernel) .hidKbIf

end PikvmHid
