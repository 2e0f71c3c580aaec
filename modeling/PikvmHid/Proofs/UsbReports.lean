import PikvmHid.Proofs.UsbSending

/-!
# `PikvmHid.Proofs.UsbReports`: reports reach the host in order

In every run of the device, with transactions, bus resets and reports at any moment between two
looks of the interrupt handler at `ISTR`, the packets a report endpoint gets acknowledged are
reports that were accepted, each at most once, in the order in which they were.

The packet that waits in a `VALID` endpoint is the last one that was accepted and not
acknowledged, so it passes from the accepted ones to the acknowledged ones (`Passes`).
-/

set_option autoImplicit false

namespace PikvmHid

/-! ### One step -/

/-- What an acknowledgement takes and what then waits, waited before or was just accepted. -/
def Passes (dev dev' : UsbDevice) (obs : List UsbObs) (itf : HidIf) : Prop :=
  List.Sublist (acknowledged itf obs ++ waiting dev' itf) (waiting dev itf ++ acceptedReports itf obs)

/-- A change that settles the pipes puts nothing on the bus. -/
theorem Settled.passes {dev dev' : UsbDevice} (h : Settled dev dev') (ha : Allocated dev)
    (itf : HidIf) : Passes dev dev' [] itf := by
  rw [Passes]
  simpa [acknowledged, acceptedReports] using ((h ha).2 itf).waiting_sublist

/-- The number of an endpoint belongs to its register. -/
theorem Allocated.eprFor_tx {dev : UsbDevice} (h : Allocated dev) {itf : HidIf} {r : Nat}
    (hr : eprFor dev .tx itf.epNum = some r) : r = itf.regId := by
  obtain ⟨hea, hstat⟩ := eprFor_spec hr
  rcases h.pending_cases (r := r) (by rintro h0; rw [h0] at hstat; exact hstat rfl) with
    rfl | ⟨jtf, rfl⟩
  · rw [h.registers.ctrl] at hea
    exact absurd hea.symm itf.epNum_ne_zero
  · rcases h.registers.addr jtf with h0 | h0 <;> rw [h0] at hea
    · exact absurd hea.symm itf.epNum_ne_zero
    · have : jtf.epNum = itf.epNum := by
        rw [← hea]
        cases jtf <;> rfl
      rw [HidIf.epNum_inj this]

/-- An IN transaction puts on the bus what waited. -/
theorem Allocated.busIn_passes {dev : UsbDevice} (h : Allocated dev) (n : Nat) (ack : Bool)
    (itf : HidIf) : Passes dev (busIn dev n ack).1 (busIn dev n ack).2 itf := by
  have hsub := ((settled_busIn dev n ack h).2 itf).waiting_sublist
  rw [Passes]
  by_cases hn : n = itf.epNum
  · subst hn
    rw [busIn] at hsub ⊢
    split
    · rename_i r hr
      have hreg := h.eprFor_tx hr
      subst hreg
      rw [hr] at hsub
      dsimp only at hsub
      by_cases hv : dev.enabled ∧ (eprHalf .tx (dev.epr itf.regId)).stat = .valid
      · rw [if_pos hv] at hsub ⊢
        cases ack
        · simp [acknowledged, acceptedReports]
        · -- The packet that waited is acknowledged, and none waits now.
          have hnone : waiting (dev.setEpr itf.regId (hwDone .tx)) itf = [] := by
            rw [waiting, UsbDevice.setEpr_self, eprHalf_hwDone, if_neg (by simp)]
          rw [if_pos rfl, hnone, waiting, if_pos hv.2]
          simp [acknowledged, acceptedReports]
      · rw [if_neg hv]
        simp [acknowledged, acceptedReports]
    · simp [acknowledged, acceptedReports]
  · have hobs : acknowledged itf (busIn dev n ack).2 = [] ∧
        acceptedReports itf (busIn dev n ack).2 = [] := by
      rw [busIn]
      split
      · split
        · simp [acknowledged, acceptedReports, hn]
        · exact ⟨rfl, rfl⟩
      · exact ⟨rfl, rfl⟩
    rw [hobs.1, hobs.2, List.nil_append, List.append_nil]
    exact hsub

/-- Nothing that is refused was accepted. -/
theorem passes_refused (dev : UsbDevice) (i : Nat) (bytes : List U8) (itf : HidIf) :
    Passes dev dev [.report i bytes false] itf := by
  rw [Passes]
  simp [acknowledged, acceptedReports]

/-- An accepted report waits, and the other pipe keeps what waits there. -/
theorem Allocated.sendReport_passes {dev : UsbDevice} (h : Allocated dev) (itf : HidIf) (ep : UsbEp)
    {bytes : List U8} (hlen : bytes.length ≤ itf.reportSize) {jtf : HidIf}
    (hfits : ∀ p ∈ waiting dev jtf, p.length ≤ jtf.reportSize) :
    Passes dev (sendReport dev itf ep bytes) [.report itf.index bytes true] jtf := by
  rw [Passes]
  by_cases hj : jtf = itf
  · subst hj
    rw [waiting_sendReport h.layout jtf ep hlen]
    simp [acknowledged, acceptedReports]
  · have hindex : itf.index ≠ jtf.index := by
      cases itf <;> cases jtf <;> first | exact absurd rfl hj | decide
    rw [waiting_sendReport_of_ne h.layout hj ep hlen hfits]
    simp [acknowledged, acceptedReports, hindex]

/-- Before the first bus reset no packet was sent; from then on the acknowledged reports and the
one that waits are, in order, among the accepted ones. -/
inductive ReportsInOrder (c : UsbDevice × List UsbObs) : Prop where
  | fresh : Fresh c.1 → (∀ itf, acknowledged itf c.2 = []) → ReportsInOrder c
  | allocated : Allocated c.1 → (∀ itf, ∀ p ∈ waiting c.1 itf, p.length ≤ itf.reportSize) →
      (∀ itf, List.Sublist (acknowledged itf c.2 ++ waiting c.1 itf) (acceptedReports itf c.2)) →
        ReportsInOrder c

/-- What is acknowledged along a longer run. -/
theorem acknowledged_append (itf : HidIf) (obs obs' : List UsbObs) :
    acknowledged itf (obs ++ obs') = acknowledged itf obs ++ acknowledged itf obs' :=
  List.filterMap_append

/-- What is accepted along a longer run. -/
theorem acceptedReports_append (itf : HidIf) (obs obs' : List UsbObs) :
    acceptedReports itf (obs ++ obs') = acceptedReports itf obs ++ acceptedReports itf obs' :=
  List.filterMap_append

/-- A step that passes keeps the order. -/
theorem sublist_of_passes {dev dev' : UsbDevice} {obs obs' : List UsbObs} {itf : HidIf}
    (h : List.Sublist (acknowledged itf obs ++ waiting dev itf) (acceptedReports itf obs))
    (hpass : Passes dev dev' obs' itf) :
    List.Sublist (acknowledged itf (obs ++ obs') ++ waiting dev' itf)
      (acceptedReports itf (obs ++ obs')) := by
  rw [acknowledged_append, acceptedReports_append, List.append_assoc]
  refine List.Sublist.trans (List.Sublist.append_left hpass _) ?_
  rw [← List.append_assoc]
  exact h.append_right _

/-- A step that settles and passes keeps the order. -/
theorem ReportsInOrder.settled {dev dev' : UsbDevice} {obs obs' : List UsbObs} (ha : Allocated dev)
    (hfits : ∀ itf, ∀ p ∈ waiting dev itf, p.length ≤ itf.reportSize)
    (h : ∀ itf, List.Sublist (acknowledged itf obs ++ waiting dev itf) (acceptedReports itf obs))
    (hs : Settled dev dev') (hpass : ∀ itf, Passes dev dev' obs' itf) :
    ReportsInOrder (dev', obs ++ obs') := by
  refine .allocated (hs ha).1 (fun itf p hp => ?_) fun itf => sublist_of_passes (h itf) (hpass itf)
  exact hfits itf p (((hs ha).2 itf).waiting_sublist.subset hp)

/-! ### Before the first bus reset -/

/-- After `USB_vDevInit` no register answers for an endpoint. -/
theorem Fresh.eprFor {dev : UsbDevice} (h : Fresh dev) (d : EpHalf) (n : Nat) :
    eprFor dev d n = none := by
  refine List.find?_eq_none.mpr fun r _ => ?_
  rw [h.epr r]
  cases d <;> simp [eprHalf, EpHalf.pos, EpStatus.ofBits]

/-- No report is accepted before the first bus reset. -/
theorem Fresh.reportIn {dev : UsbDevice} (h : Fresh dev) (i : Nat) (data : Buffer) (len : Nat) :
    (usbdHidReportIn dev i data len).1 ≠ .ok ∧ (usbdHidReportIn dev i data len).2 = dev := by
  by_cases hi : ∃ itf : HidIf, i = itf.index
  · obtain ⟨itf, rfl⟩ := hi
    have hnum : (itf.inEpNum &&& 0xF).toNat = itf.epNum := by cases itf <;> rfl
    rw [reportIn_eq_epSend h.ifs, usbdEpSend, hnum, if_neg]
    · exact ⟨by simp, rfl⟩
    · simp [(h.inEp itf.epNum).2.2, (h.mounted.report itf).2]
  · rw [reportIn_of_no_interface h.ifs fun itf hitf => hi ⟨itf, hitf⟩]
    exact ⟨by simp, rfl⟩

/-- Until the reset is handled, nothing happens. -/
theorem Fresh.busReset {dev : UsbDevice} (h : Fresh dev) : Fresh (busReset dev) := by
  refine ⟨h.ifs, ⟨h.mounted.report, h.mounted.inRest, h.mounted.out⟩, h.inEp, h.outEp, fun r => ?_,
    h.configSelector⟩
  show hwReset (dev.epr r) = 0
  rw [h.epr]
  decide

/-- `USB_prvCtrlEpOpen` writes the control register only. -/
theorem prvCtrlEpOpen_epr (dev : UsbDevice) {r : Nat} (hr : r ≠ 0) :
    (usbPrvCtrlEpOpen dev).epr r = dev.epr r := by
  simp [usbPrvCtrlEpOpen, UsbDevice.setPma, UsbDevice.setEpr, hr]

/-- There is nothing to handle before it. -/
theorem Fresh.pendingEp {dev : UsbDevice} (h : Fresh dev) : pendingEp dev = none := by
  refine List.find?_eq_none.mpr fun r _ => ?_
  rw [h.epr r]
  decide

/-- The control endpoint is closed. -/
theorem Fresh.busSetup {dev : UsbDevice} (h : Fresh dev) (req : SetupRequest) :
    busSetup dev req = dev := by
  rw [PikvmHid.busSetup, if_neg]
  rw [h.epr 0]
  rintro ⟨-, hstat, -⟩
  exact hstat (by decide)

/-- The reset is taken back and address 0 enabled, before the callback runs. -/
theorem Fresh.addressed {dev : UsbDevice} (h : Fresh dev) :
    Fresh (usbVSetAddress { dev with reset := false } 0) :=
  ⟨h.ifs, ⟨h.mounted.report, h.mounted.inRest, h.mounted.out⟩, h.inEp, h.outEp, h.epr,
    h.configSelector⟩

/-- The handler serves the first bus reset. -/
theorem Fresh.irq {dev : UsbDevice} (h : Fresh dev) :
    usbVIRQHandler.step dev = dev ∨
      dev.reset = true ∧ usbVIRQHandler.step dev = usbVIRQHandler.tail dev ∧
        Allocated (usbVIRQHandler.tail dev) ∧ ∀ itf, waiting (usbVIRQHandler.tail dev) itf = [] := by
  have htail : usbVIRQHandler.step dev = usbVIRQHandler.tail dev := by
    rw [usbVIRQHandler.step, h.pendingEp]
  rw [htail]
  by_cases hreset : dev.reset
  · have hfresh := h.addressed
    -- No configuration is selected, so nothing is closed.
    have hcfg : usbdIfConfig (usbVSetAddress { dev with reset := false } 0) 0 =
        usbVSetAddress { dev with reset := false } 0 := by
      rw [usbdIfConfig, if_neg]
      rw [hfresh.configSelector]
      simp
    have hstate :
        ∀ dev' : UsbDevice, UsbFramed dev' (dev'.setOut 0 { dev'.epOut 0 with state := .idle }) :=
      fun _ => framed_setOut rfl rfl rfl
    have hepr : ∀ itf : HidIf,
        (usbVCtrlEpOpen (usbVSetAddress { dev with reset := false } 0)).epr itf.regId = 0 := by
      intro itf
      rw [usbVCtrlEpOpen, prvCtrlEpOpen_epr _ itf.regId_ne_zero, hfresh.mounted.allocateEPs]
      exact hfresh.epr _
    -- Opening the control endpoint allocates the registers.
    have halloc := hfresh.ctrlEpOpen
    refine .inr ⟨hreset, rfl, ?_⟩
    rw [usbVIRQHandler.tail, if_pos hreset, usbdResetCallback, hcfg]
    generalize usbVCtrlEpOpen (usbVSetAddress { dev with reset := false } 0) = opened at hepr halloc ⊢
    refine ⟨(hstate _ halloc).1, fun itf => ?_⟩
    show waiting opened itf = []
    rw [waiting, hepr]
    rfl
  · exact .inl (if_neg hreset)

/-- A step of a device that has just started: only a bus reset and the handler do anything. -/
theorem Fresh.step_cases {dev : UsbDevice} (h : Fresh dev) (i : UsbAct) :
    (usbMachine.step dev i).1 = dev ∨
      i = .busReset ∧ (usbMachine.step dev i).1 = PikvmHid.busReset dev ∨
      i = .irq ∧ dev.reset = true ∧ (usbMachine.step dev i).1 = usbVIRQHandler.tail dev ∧
        Allocated (usbVIRQHandler.tail dev) ∧ ∀ itf, waiting (usbVIRQHandler.tail dev) itf = [] := by
  cases i with
  | inToken n ack =>
      refine .inl ?_
      simp only [usbMachine, busIn, h.eprFor]
  | outToken n bytes =>
      refine .inl ?_
      simp only [usbMachine, busOut, h.eprFor]
  | setup req => exact .inl (h.busSetup req)
  | busReset => exact .inr (.inl ⟨rfl, rfl⟩)
  | irq => exact h.irq.imp_right fun hserved => .inr ⟨rfl, hserved⟩
  | reportIn i bytes => exact .inl (h.reportIn i _ _).2

/-- Nothing is acknowledged. -/
theorem Fresh.acknowledged {dev : UsbDevice} (h : Fresh dev) (i : UsbAct) (itf : HidIf) :
    acknowledged itf (usbMachine.step dev i).2 = [] := by
  cases i with
  | inToken n ack =>
      simp only [usbMachine, busIn, h.eprFor]
      rfl
  | _ => rfl

/-! ### The run -/

/-- One step keeps the order. -/
theorem ReportsInOrder.next {c : UsbDevice × List UsbObs} (h : ReportsInOrder c) (i : UsbAct)
    (hi : FitsPacket i) : ReportsInOrder (usbMachine.next c i) := by
  obtain ⟨dev, obs⟩ := c
  rcases h with ⟨hfresh, hacked⟩ | ⟨ha, hfits, hsub⟩
  · have hnothing : ∀ itf, acknowledged itf (obs ++ (usbMachine.step dev i).2) = [] := by
      intro itf
      rw [acknowledged_append, hacked, hfresh.acknowledged i, List.append_nil]
    show ReportsInOrder ((usbMachine.step dev i).1, obs ++ (usbMachine.step dev i).2)
    rcases hfresh.step_cases i with hsame | ⟨-, hbus⟩ | ⟨-, -, htail, ha, hnone⟩
    · rw [hsame]
      exact .fresh hfresh hnothing
    · rw [hbus]
      exact .fresh hfresh.busReset hnothing
    · -- The first reset opens the control endpoint, and no report endpoint.
      rw [htail]
      refine .allocated ha (fun itf p hp => ?_) fun itf => ?_
      · rw [hnone] at hp
        exact absurd hp List.not_mem_nil
      · rw [hnone, hnothing, List.append_nil]
        exact List.nil_sublist _
  · have hstep : ∀ dev', Settled dev dev' → ReportsInOrder (dev', obs ++ []) := fun dev' hs =>
      ReportsInOrder.settled ha hfits hsub hs (hs.passes ha)
    cases i with
    | inToken n ack =>
        exact ReportsInOrder.settled ha hfits hsub (settled_busIn dev n ack) (ha.busIn_passes n ack)
    | outToken n bytes => exact hstep _ (framed_busOut dev n bytes).settled
    | setup req => exact hstep _ (framed_busSetup dev req).settled
    | busReset => exact hstep _ (settled_busReset dev)
    | irq => exact hstep _ (settled_irq dev)
    | reportIn i bytes =>
        rw [Lib.Machine.next]
        simp only [usbMachine]
        by_cases hitf : ∃ itf : HidIf, i = itf.index
        · obtain ⟨itf, rfl⟩ := hitf
          have hlen := hi itf rfl
          have hreport := ha.reportIn itf hlen
          split at hreport
          · obtain ⟨ep, hep, hr⟩ := hreport
            rw [hr]
            refine .allocated (ha.sent hep hlen) (fun jtf p hp => ?_) fun jtf =>
              sublist_of_passes (hsub jtf) (ha.sendReport_passes itf ep hlen (hfits jtf))
            by_cases hj : jtf = itf
            · rw [hj, waiting_sendReport ha.layout itf ep hlen, List.mem_singleton] at hp
              rw [hj, hp]
              exact hlen
            · rw [waiting_sendReport_of_ne ha.layout hj ep hlen (hfits jtf)] at hp
              exact hfits jtf p hp
          · rw [hreport]
            exact ReportsInOrder.settled ha hfits hsub (Settled.refl dev) fun jtf =>
              passes_refused dev _ bytes jtf
        · rw [reportIn_of_no_interface ha.tables.ifs fun itf h' => hitf ⟨itf, h'⟩]
          exact ReportsInOrder.settled ha hfits hsub (Settled.refl dev) fun jtf =>
            passes_refused dev _ bytes jtf

/-- Every run from start-up does. -/
theorem inOrder_run (pma : Pma) {is : List UsbAct} (h : ∀ i ∈ is, FitsPacket i) :
    ReportsInOrder (usbMachine.exec (usbDeviceInit pma, []) is) := by
  have hinit : ReportsInOrder (usbDeviceInit pma, []) := .fresh (fresh_usbDeviceInit pma) fun _ => rfl
  exact usbMachine.invariant (fun c i hc hi => hc.next i hi) hinit
    ((usbMachine.meets_forall_iff _).mpr h)

/-! ### The packets on the bus -/

/-- An observation more, which is a report or a packet of the one that waits. -/
theorem SendsReports.concat {itf : HidIf} {obs : List UsbObs} (h : SendsReports itf obs)
    {o : UsbObs} (ho : ∀ pid bytes ack, o = .packet itf.epNum pid bytes ack →
      List.Sublist (acknowledged itf obs ++ [bytes]) (acceptedReports itf obs)) :
    SendsReports itf (obs ++ [o]) := by
  intro before after pid bytes ack heq
  rcases List.eq_nil_or_concat after with rfl | ⟨after', x, rfl⟩
  · obtain ⟨rfl, hlast⟩ := List.append_inj' heq rfl
    exact ho pid bytes ack (List.singleton_inj.mp hlast)
  · rw [List.concat_eq_append, ← List.cons_append, ← List.append_assoc] at heq
    exact h before after' pid bytes ack (List.append_inj' heq rfl).1

/-- What an IN transaction shows of a report endpoint is the packet that waits. -/
theorem Allocated.busIn_waiting {dev : UsbDevice} (h : Allocated dev) (n : Nat) (ack : Bool) :
    (busIn dev n ack).2 = [] ∨ ∃ pid bytes, (busIn dev n ack).2 = [.packet n pid bytes ack] ∧
      ∀ itf : HidIf, n = itf.epNum → waiting dev itf = [bytes] := by
  rw [busIn]
  split
  · rename_i r hr
    split
    · rename_i hvalid
      refine .inr ⟨(eprHalf .tx (dev.epr r)).dtog, txPacket dev r, rfl, fun itf hn => ?_⟩
      subst hn
      obtain rfl := h.eprFor_tx hr
      exact if_pos hvalid.2
    · exact .inl rfl
  · exact .inl rfl

/-- What a step puts on the bus is an accepted report, if the run kept the order. -/
theorem sendsReports_next {c : UsbDevice × List UsbObs} (h : ReportsInOrder c) {itf : HidIf}
    (hsends : SendsReports itf c.2) (i : UsbAct) : SendsReports itf (usbMachine.next c i).2 := by
  obtain ⟨dev, obs⟩ := c
  show SendsReports itf (obs ++ (usbMachine.step dev i).2)
  cases i with
  | inToken n ack =>
      show SendsReports itf (obs ++ (busIn dev n ack).2)
      rcases h with ⟨hfresh, -⟩ | ⟨ha, -, hsub⟩
      · have hnone : (busIn dev n ack).2 = [] := by simp only [busIn, hfresh.eprFor]
        rw [hnone, List.append_nil]
        exact hsends
      · rcases ha.busIn_waiting n ack with hnone | ⟨pid, bytes, hobs, hwaits⟩
        · rw [hnone, List.append_nil]
          exact hsends
        · -- The packet waited, so its report was accepted behind the acknowledged ones.
          rw [hobs]
          refine hsends.concat fun pid' bytes' ack' heq => ?_
          obtain ⟨hn, -, rfl, -⟩ := UsbObs.packet.inj heq
          have hin := hsub itf
          rw [hwaits itf hn] at hin
          exact hin
  | reportIn i bytes =>
      exact hsends.concat fun _ _ _ heq => absurd heq (by simp)
  | outToken n bytes => exact (List.append_nil obs).symm ▸ hsends
  | setup req => exact (List.append_nil obs).symm ▸ hsends
  | busReset => exact (List.append_nil obs).symm ▸ hsends
  | irq => exact (List.append_nil obs).symm ▸ hsends

/-- The reports of a run without stray accesses fit. -/
theorem fitsPacket_of_contained {c : UsbDevice × List UsbObs} {is : List UsbAct}
    (h : usbMachine.Meets Contained c is) : ∀ i ∈ is, FitsPacket i :=
  (usbMachine.meets_forall_iff c).mp (usbMachine.meets_mono (fun _ _ hi => hi.1) h)

/-- Reports reach the host in order. In every run without stray accesses a report endpoint puts
nothing on the bus but accepted reports, and the packets it gets acknowledged are accepted reports,
each once, in the order in which they were accepted. -/
theorem acknowledged_sublist_accepted (pma : Pma) {is : List UsbAct}
    (h : usbMachine.Meets Contained (usbDeviceInit pma, []) is) (itf : HidIf) :
    let obs := (usbMachine.exec (usbDeviceInit pma, []) is).2
    SendsReports itf obs ∧ List.Sublist (acknowledged itf obs) (acceptedReports itf obs) := by
  intro obs
  have hfits := fitsPacket_of_contained h
  constructor
  · have hinit : ReportsInOrder (usbDeviceInit pma, []) :=
      .fresh (fresh_usbDeviceInit pma) fun _ => rfl
    have hinv := usbMachine.invariant (I := fun c => ReportsInOrder c ∧ SendsReports itf c.2)
      (fun c i hc hi => ⟨hc.1.next i hi.1, sendsReports_next hc.1 hc.2 i⟩)
      ⟨hinit, fun _ _ _ _ _ hnil => absurd hnil.symm (by simp)⟩ h
    exact hinv.2
  · rcases inOrder_run pma hfits with ⟨-, hacked⟩ | ⟨-, -, hsub⟩
    · rw [hacked]
      exact List.nil_sublist _
    · exact (List.sublist_append_left _ _).trans (hsub itf)

/-- `SET_CONFIGURATION` of configuration 1. -/
def setConfiguration1 : SetupRequest where
  requestType := 0
  request := USB_REQ_SET_CONFIGURATION
  value := 1
  index := 0
  length := 0

/-- Reset and configuration. -/
def configure : List UsbAct :=
  [.busReset, .irq, .setup setConfiguration1, .irq, .inToken 0 true, .irq]

/-- A key is pressed, its acknowledgement is lost once, and released. -/
def pressAndRelease : List UsbAct :=
  [.reportIn 0 [0, 0, 4, 0, 0, 0, 0, 0], .inToken 7 false, .inToken 7 true, .irq,
    .reportIn 0 [0, 0, 0, 0, 0, 0, 0, 0], .inToken 7 true]

/-- The keyboard interface is the first one. -/
theorem reportSize_keyboard (itf : HidIf) (hi : 0 = itf.index) : 8 ≤ itf.reportSize := by
  cases itf
  · decide
  · exact absurd hi (by decide)

/-- Two reports are acknowledged. -/
example :
    let obs := (usbMachine.exec (usbDeviceInit fun _ => 0, []) (configure ++ pressAndRelease)).2
    acknowledged .hidKbIf obs = [[0, 0, 4, 0, 0, 0, 0, 0], [0, 0, 0, 0, 0, 0, 0, 0]] := by
  decide +kernel

end PikvmHid
