import PikvmHid.Proofs.UsbAllocation

/-!
# `PikvmHid.Proofs.UsbSettled`: what never sends a report

Nothing but an accepted report makes a report endpoint `VALID` or fills its buffer. `settled_irq`
says so of the interrupt handler: whatever request it serves, and also when it opens, closes or
halts the report endpoints, it is settled.
-/

set_option autoImplicit false

namespace PikvmHid

/-! ### Registers of the report endpoints -/

/-- A change of one direction of a register that does not make it `VALID`. -/
structure Shuts (d : EpHalf) (f : U16 → U16) : Prop where
  ea : ∀ e, (eprFields (f e)).ea = (eprFields e).ea
  other : ∀ e, eprHalf d.other (f e) = eprHalf d.other e
  valid : ∀ e, (eprHalf d (f e)).stat = .valid → (eprHalf d e).stat = .valid

/-- The two halves of a register are different. -/
theorem EpHalf.other_ne (d : EpHalf) : d.other ≠ d := by cases d <;> decide

/-- Setting any status but `VALID` makes no half `VALID`. -/
theorem shuts_setStatus (d : EpHalf) {s : EpStatus} (h : s ≠ .valid) : Shuts d (setStatus d s) where
  ea e := ea_setStatus d s e
  other e := by rw [eprHalf_setStatus, if_neg d.other_ne]
  valid e hv := by
    rw [eprHalf_setStatus, if_pos rfl] at hv
    exact absurd hv h

/-- Nor does clearing a data toggle. -/
theorem shuts_toggleClear (d : EpHalf) : Shuts d (toggleClear d) where
  ea e := ea_toggleClear d e
  other e := by rw [eprHalf_toggleClear, if_neg d.other_ne]
  valid e hv := by rwa [eprHalf_toggleClear, if_pos rfl] at hv

/-- Nor does taking a completion. -/
theorem shuts_flagClear (d : EpHalf) : Shuts d (flagClear d) where
  ea e := ea_flagClear d e
  other e := by rw [eprHalf_flagClear, if_neg d.other_ne]
  valid e hv := by rwa [eprHalf_flagClear, if_pos rfl] at hv

/-- The register of a report endpoint, its address zero or its own as before, nothing received,
and not made `VALID`. -/
theorem settled_setEpr {dev : UsbDevice} (itf : HidIf) {f : U16 → U16}
    (hea : ∀ e, (eprFields e).ea = 0 ∨ (eprFields e).ea = .ofNat 4 itf.epNum →
      (eprFields (f e)).ea = 0 ∨ (eprFields (f e)).ea = .ofNat 4 itf.epNum)
    (hrx : ∀ e, eprHalf .rx (f e) = eprHalf .rx e)
    (hvalid : ∀ e, (eprHalf .tx (f e)).stat = .valid → (eprHalf .tx e).stat = .valid) :
    Settled dev (dev.setEpr itf.regId f) := by
  intro h
  -- The tables and the layout are not touched; of the registers only one.
  refine ⟨⟨⟨h.tables.ifs, h.tables.report, h.tables.progress, h.tables.inRest, h.tables.out⟩,
    h.layout, ⟨?_, ?_, ?_, ?_⟩⟩, fun jtf => ⟨rfl, ?_⟩⟩
  · rw [dev.setEpr_of_ne (Ne.symm itf.regId_ne_zero)]
    exact h.registers.ctrl
  · intro jtf
    by_cases hj : jtf.regId = itf.regId
    · rw [hj, dev.setEpr_self, HidIf.regId_inj hj]
      exact hea _ (h.registers.addr itf)
    · rw [dev.setEpr_of_ne hj]
      exact h.registers.addr jtf
  · intro jtf
    by_cases hj : jtf.regId = itf.regId
    · rw [hj, dev.setEpr_self, hrx]
      exact h.registers.rx itf
    · rw [dev.setEpr_of_ne hj]
      exact h.registers.rx jtf
  · intro r hr
    rw [dev.setEpr_of_ne (by cases itf <;> simp only [HidIf.regId] <;> omega)]
    exact h.registers.rest r hr
  · by_cases hj : jtf.regId = itf.regId
    · rw [hj, dev.setEpr_self]
      exact hvalid _
    · rw [dev.setEpr_of_ne hj]
      exact id

/-- A write that makes nothing `VALID` settles the pipes. -/
theorem Shuts.settled {dev : UsbDevice} (itf : HidIf) {f : U16 → U16} (hf : Shuts .tx f) :
    Settled dev (dev.setEpr itf.regId f) :=
  settled_setEpr itf (fun e he => (hf.ea e).symm ▸ he) hf.other hf.valid

/-! ### Endpoint handles -/

/-- An IN endpoint, its set-up and what is to come of its transfer unchanged. -/
theorem settled_setIn {dev : UsbDevice} {n : Nat} {ep : UsbEp}
    (hm : ep.maxPacketSize = (dev.epIn n).maxPacketSize) (ht : ep.type = (dev.epIn n).type)
    (hr : ep.regId = (dev.epIn n).regId) (hp : ep.progress = (dev.epIn n).progress) :
    Settled dev (dev.setIn n ep) := by
  intro h
  refine ⟨⟨⟨h.tables.ifs, ?_, ?_, ?_, h.tables.out⟩, h.layout, h.registers⟩,
    fun itf => ⟨rfl, id⟩⟩
  · intro itf
    by_cases hn : itf.epNum = n
    · subst hn
      rw [dev.setIn_self]
      exact (h.tables.report itf).mk' hm ht hr
    · rw [dev.setIn_of_ne hn]
      exact h.tables.report itf
  · intro itf
    by_cases hn : itf.epNum = n
    · subst hn
      rw [dev.setIn_self]
      exact hp.trans (h.tables.progress itf)
    · rw [dev.setIn_of_ne hn]
      exact h.tables.progress itf
  · intro m hm'
    by_cases hn : m = n
    · subst hn
      rw [dev.setIn_self]
      exact (h.tables.inRest m hm').mk' hm ht hr
    · rw [dev.setIn_of_ne hn]
      exact h.tables.inRest m hm'

/-- The handle at any address. -/
theorem settled_setEp {dev : UsbDevice} {epAddr : U8} {ep : UsbEp}
    (hm : ep.maxPacketSize = (dev.ep epAddr).maxPacketSize) (ht : ep.type = (dev.ep epAddr).type)
    (hr : ep.regId = (dev.ep epAddr).regId) (hp : ep.progress = (dev.ep epAddr).progress) :
    Settled dev (dev.setEp epAddr ep) := by
  rw [UsbDevice.ep] at hm ht hr hp
  rw [UsbDevice.setEp]
  by_cases hin : isInAddr epAddr
  · rw [if_pos hin] at hm ht hr hp ⊢
    exact settled_setIn hm ht hr hp
  · rw [if_neg hin] at hm ht hr hp ⊢
    exact (framed_setOut hm ht hr).settled

/-- The register of an endpoint: a report endpoint has its own, all others the control
register. -/
theorem Allocated.reg_cases {dev : UsbDevice} (h : Allocated dev) (epAddr : U8) :
    (∃ itf : HidIf, isInAddr epAddr ∧ (dev.ep epAddr).regId = itf.regId) ∨
      (dev.ep epAddr).regId = 0 := by
  rw [UsbDevice.ep]
  by_cases hin : isInAddr epAddr
  · rw [if_pos hin]
    by_cases hn : ∃ itf : HidIf, epIndex epAddr = itf.epNum
    · obtain ⟨itf, hn⟩ := hn
      rw [hn]
      exact .inl ⟨itf, hin, (h.tables.report itf).regId⟩
    · exact .inr (h.tables.inRest _ fun itf hitf => hn ⟨itf, hitf⟩).regId
  · rw [if_neg hin]
    exact .inr (h.tables.out _).regId

/-- The endpoint's direction of its register is shut. -/
theorem settled_setEpr_of_shuts {dev : UsbDevice} {epAddr : U8} {r : Nat} {f : U16 → U16}
    (hr : r = (dev.ep epAddr).regId) (hf : Shuts (epHalfOf epAddr) f) :
    Settled dev (dev.setEpr r f) := by
  intro h
  rcases h.reg_cases epAddr with ⟨itf, hin, hreg⟩ | hreg
  · rw [epHalfOf, if_pos hin] at hf
    rw [hr, hreg]
    exact hf.settled itf h
  · rw [hr, hreg]
    exact (framed_setEpr0 fun e he => (hf.ea e).trans he).settled h

/-! ### Opening, closing, halting -/

/-- Closing an endpoint settles the pipes. -/
theorem settled_epClose (dev : UsbDevice) (epAddr : U8) : Settled dev (usbdEpClose dev epAddr) := by
  rw [usbdEpClose, usbVEpClose]
  refine Settled.after (settled_setEp rfl rfl rfl rfl) ?_
  refine Settled.after (settled_setEpr_of_shuts rfl (shuts_setStatus _ (by decide))) ?_
  exact settled_setEpr_of_shuts rfl (shuts_toggleClear _)

/-- So does a halt. -/
theorem settled_setStall (dev : UsbDevice) (epAddr : U8) :
    Settled dev (usbVEpSetStall dev epAddr) :=
  settled_setEpr_of_shuts rfl (shuts_setStatus _ (by decide))

/-- So does the end of one, which leaves the endpoint `NAK`. -/
theorem settled_clearStall (dev : UsbDevice) (epAddr : U8) :
    Settled dev (usbVEpClearStall dev epAddr) := by
  have hclear : Settled dev
      (dev.setEpr (dev.ep epAddr).regId (toggleClear (epHalfOf epAddr))) :=
    settled_setEpr_of_shuts rfl (shuts_toggleClear _)
  rw [usbVEpClearStall]
  refine Settled.after ?_ hclear
  by_cases hin : isInAddr epAddr
  · rw [if_pos hin]
    exact settled_setEpr_of_shuts rfl (shuts_setStatus _ (by decide))
  · -- An OUT endpoint has the control register, which may become `VALID`.
    rw [if_neg hin]
    intro h
    have hreg : (dev.ep epAddr).regId = 0 := by
      rw [UsbDevice.ep, if_neg hin]
      exact (h.tables.out _).regId
    rw [hreg] at h ⊢
    exact (framed_setStatus0 _ _ _).settled h

/-- The interface handles are those of the keyboard and the mouse. -/
theorem IfsMounted.cases {ifs : List HidIfHandle} (h : IfsMounted ifs) {i : Nat}
    {itf : HidIfHandle} (hi : ifs[i]? = some itf) :
    ∃ kind : HidIf, i = kind.index ∧ itf.app = kind.app ∧ itf.inEpNum = kind.inEpNum ∧
      itf.request = 0 := by
  have hmap : (ifs.map fun itf => (itf.app, itf.inEpNum, itf.request))[i]? =
      some (itf.app, itf.inEpNum, itf.request) := by
    rw [List.getElem?_map, hi]
    rfl
  rw [h] at hmap
  have hlt : i < 2 := by
    by_contra hge
    have hlen : 2 ≤ i := Nat.le_of_not_lt hge
    rw [List.getElem?_eq_none hlen] at hmap
    exact absurd hmap (by simp)
  obtain rfl | rfl : i = 0 ∨ i = 1 := by omega
  · simp only [List.getElem?_cons_zero, Option.some.injEq, Prod.mk.injEq] at hmap
    exact ⟨.hidKbIf, rfl, hmap.1.symm, hmap.2.1.symm, hmap.2.2.symm⟩
  · simp only [List.getElem?_cons_succ, List.getElem?_cons_zero, Option.some.injEq,
      Prod.mk.injEq] at hmap
    exact ⟨.hidMsIf, rfl, hmap.1.symm, hmap.2.1.symm, hmap.2.2.symm⟩

/-- The endpoint at the address of an interface is its IN endpoint. -/
theorem ep_inEpNum (dev : UsbDevice) (kind : HidIf) : dev.ep kind.inEpNum = dev.epIn kind.epNum := by
  cases kind <;> rfl

/-- Storing it there is storing the IN endpoint. -/
theorem setEp_inEpNum (dev : UsbDevice) (kind : HidIf) (ep : UsbEp) :
    dev.setEp kind.inEpNum ep = dev.setIn kind.epNum ep := by
  cases kind <;> rfl

/-- Its half of the register is the sending one. -/
theorem epHalfOf_inEpNum (kind : HidIf) : epHalfOf kind.inEpNum = .tx := by cases kind <;> rfl

/-- A report endpoint is opened with its own packet size. -/
theorem settled_epOpen (dev : UsbDevice) (kind : HidIf) :
    Settled dev (usbdEpOpen dev kind.inEpNum .interrupt kind.reportSize) := by
  intro h
  have hrep := h.tables.report kind
  suffices hs : Settled dev (usbdEpOpen dev kind.inEpNum .interrupt kind.reportSize) from hs h
  simp only [usbdEpOpen, usbVEpOpen, ep_inEpNum, setEp_inEpNum, epHalfOf_inEpNum,
    UsbDevice.setIn_self, hrep.regId]
  refine Settled.after (settled_setIn rfl rfl rfl rfl) ?_
  refine Settled.after ((shuts_setStatus .tx (by decide)).settled kind) ?_
  refine Settled.after ((shuts_toggleClear .tx).settled kind) ?_
  refine Settled.after (settled_setEpr kind ?_ ?_ ?_) ?_
  · -- The address is stored over zero or over itself.
    intro e he
    rw [ea_setAddress]
    rcases he with he | he <;> rw [he] <;> cases kind <;> decide
  · intro e
    exact eprHalf_setAddress e kind.inEpNum .rx
  · intro e hv
    rwa [eprHalf_setAddress] at hv
  refine Settled.after (settled_setEpr kind ?_ ?_ ?_) ?_
  · intro e he
    rwa [ea_setType]
  · intro e
    exact eprHalf_setType e .interrupt .rx
  · intro e hv
    rwa [eprHalf_setType] at hv
  exact settled_setIn hrep.maxPacketSize.symm hrep.type.symm hrep.regId.symm rfl

/-- Closing an interface settles the pipes. -/
theorem settled_hidDeinit (dev : UsbDevice) (i : Nat) : Settled dev (hidDeinit dev i) := by
  rw [hidDeinit]
  split
  · exact settled_epClose dev _
  · exact Settled.refl dev

/-- So does opening one, as the endpoint becomes `NAK`. -/
theorem settled_hidInit (dev : UsbDevice) (i : Nat) : Settled dev (hidInit dev i) := by
  intro h
  suffices hs : Settled dev (hidInit dev i) from hs h
  rw [hidInit]
  split
  · rename_i itf hi
    obtain ⟨kind, -, happ, hep, -⟩ := h.tables.ifs.cases hi
    refine Settled.after (settled_modifyIf _ _ fun _ => ⟨rfl, rfl, fun _ => rfl⟩) ?_
    have hmps : (if itf.app.inputMaxSize > USB_EP_INTR_FS_MPS then USB_EP_INTR_FS_MPS
        else itf.app.inputMaxSize) = kind.reportSize := by
      rw [happ]
      cases kind <;> decide
    rw [hep, hmps]
    exact settled_epOpen dev kind
  · exact Settled.refl dev

/-- A loop of settled changes. -/
theorem settled_foldl {f : UsbDevice → Nat → UsbDevice} (hf : ∀ dev i, Settled dev (f dev i))
    (l : List Nat) (dev : UsbDevice) : Settled dev (l.foldl f dev) := by
  induction l generalizing dev with
  | nil => exact Settled.refl dev
  | cons i l ih => exact (ih (f dev i)).after (hf dev i)

/-- So does a change of the configuration. -/
theorem settled_ifConfig (dev : UsbDevice) (cfgNum : U8) : Settled dev (usbdIfConfig dev cfgNum) := by
  have hclear : Settled dev (if dev.configSelector ≠ 0 then
      (List.range dev.ifs.length).foldl (fun dev i =>
        (hidDeinit dev i).modifyIf i fun itf => { itf with altSelector := 0 }) dev else dev) := by
    split
    · refine settled_foldl (fun dev i => ?_) _ dev
      exact Settled.after (settled_modifyIf _ i fun _ => ⟨rfl, rfl, id⟩) (settled_hidDeinit dev i)
    · exact Settled.refl dev
  have hselect : ∀ dev' : UsbDevice, Settled dev' { dev' with configSelector := cfgNum } :=
    fun dev' => settled_of_eq id rfl rfl rfl rfl
  have hopen : ∀ dev' : UsbDevice, Settled dev' (if dev'.configSelector ≠ 0 then
      (List.range dev'.ifs.length).foldl hidInit dev' else dev') := by
    intro dev'
    split
    · exact settled_foldl settled_hidInit _ dev'
    · exact Settled.refl dev'
  rw [usbdIfConfig]
  split
  · exact Settled.after (hopen _) (Settled.after (hselect _) hclear)
  · exact Settled.refl dev

/-! ### Requests -/

/-- A request to an interface settles the pipes. -/
theorem settled_ifRequest (dev : UsbDevice) : Settled dev (usbdIfRequest dev).2 := by
  by_cases hset : dev.setup.type = USB_REQ_TYPE_STANDARD ∧ dev.setup.request = USB_REQ_SET_INTERFACE
  · rw [usbdIfRequest]
    dsimp only
    split
    · simp only [hset.1, hset.2, if_pos]
      split_ifs
      · exact Settled.refl dev
      · exact absurd ‹_› (by decide)
      · refine Settled.after (settled_hidInit _ _) ?_
        refine Settled.after (settled_modifyIf _ _ fun _ => ⟨rfl, rfl, id⟩) ?_
        exact settled_hidDeinit dev _
      · exact Settled.refl dev
    · exact Settled.refl dev
  · exact (framed_ifRequest hset).settled

/-- So does one to an endpoint. -/
theorem settled_epRequest (dev : UsbDevice) : Settled dev (usbdEpRequest dev).2 := by
  rw [usbdEpRequest]
  dsimp only
  split_ifs
  · exact Settled.refl dev
  · exact Settled.after (settled_setEp rfl rfl rfl rfl) (settled_setStall dev _)
  · exact Settled.refl dev
  · exact Settled.refl dev
  · exact Settled.after (settled_setEp rfl rfl rfl rfl) (settled_clearStall dev _)
  · exact Settled.refl dev
  · exact Settled.refl dev
  · exact (framed_sendCtrl dev _ _).settled
  · exact (framed_sendCtrl dev _ _).settled
  · exact Settled.refl dev
  · exact Settled.refl dev

/-- So does one to the device. -/
theorem settled_devRequest (dev : UsbDevice) : Settled dev (usbdDevRequest dev).2 := by
  by_cases hset : dev.setup.type = USB_REQ_TYPE_STANDARD ∧
      dev.setup.request = USB_REQ_SET_CONFIGURATION
  · have hconfig : usbdDevRequest dev = usbdSetConfig dev := by
      simp [usbdDevRequest, hset]
    rw [hconfig, usbdSetConfig]
    split
    · exact settled_ifConfig dev _
    · exact Settled.refl dev
  · exact (framed_devRequest hset).settled

/-- A store to an OUT endpoint does, if it stays allocated as it is. -/
theorem settled_setOut {dev : UsbDevice} {n : Nat} {ep : UsbEp}
    (hm : ep.maxPacketSize = (dev.epOut n).maxPacketSize) (ht : ep.type = (dev.epOut n).type)
    (hr : ep.regId = (dev.epOut n).regId) : Settled dev (dev.setOut n ep) :=
  (framed_setOut hm ht hr).settled

/-- So does any request. -/
theorem settled_route (dev : UsbDevice) : Settled dev (usbdSetupCallback.route dev).2 := by
  rw [usbdSetupCallback.route]
  split
  · exact settled_devRequest dev
  · split
    · exact settled_ifRequest dev
    · split
      · exact settled_epRequest dev
      · exact Settled.refl dev

/-- So does `USBD_SetupCallback`. -/
theorem settled_setupCallback (dev : UsbDevice) : Settled dev (usbdSetupCallback dev) := by
  have hsetup : Settled dev (dev.setOut 0 { dev.epOut 0 with state := .setup }) :=
    settled_setOut rfl rfl rfl
  rw [usbdSetupCallback]
  dsimp only
  split
  · exact Settled.after (framed_ctrlSendError _).settled (Settled.after (settled_route _) hsetup)
  · split
    · exact Settled.after (framed_ctrlSendStatus _).settled (Settled.after (settled_route _) hsetup)
    · exact Settled.after (settled_route _) hsetup

/-! ### The interrupt handler -/

/-- A SETUP packet settles the pipes. -/
theorem settled_irq_setup (dev : UsbDevice) (epId : Nat) :
    Settled dev (usbVIRQHandler.setup dev epId) := by
  rw [usbVIRQHandler.setup]
  exact Settled.after (settled_setupCallback _) (framed_storeSetup dev _).settled

/-- So does the callback of an IN endpoint. -/
theorem settled_epInCallback (dev : UsbDevice) (n : Nat) : Settled dev (usbdEpInCallback dev n) := by
  rw [usbdEpInCallback]
  split
  · exact (framed_ctrlInCallback dev).settled
  · exact settled_setIn rfl rfl rfl rfl

/-- The acknowledged packet of the control endpoint, or the one packet of a report. -/
theorem settled_irq_in (dev : UsbDevice) {epId n : Nat}
    (hr : epId = 0 ∨ ∃ itf : HidIf, epId = itf.regId)
    (hn : n = 0 ∨ ∃ itf : HidIf, n = itf.epNum) : Settled dev (usbVIRQHandler.in dev epId n) := by
  have hflag : Settled dev (dev.setEpr epId (flagClear .tx)) := by
    rcases hr with rfl | ⟨itf, rfl⟩
    · exact (framed_flagClear0 _ _).settled
    · exact (shuts_flagClear .tx).settled itf
  intro h
  suffices hf : Settled dev (usbVIRQHandler.in dev epId n) from hf h
  rw [usbVIRQHandler.in]
  split
  · refine Settled.after (settled_epInCallback _ n) ?_
    exact Settled.after (settled_setIn rfl rfl rfl rfl) hflag
  · rename_i hmore
    rcases hn with rfl | ⟨itf, rfl⟩
    · refine Settled.after (framed_transmitPacket0 _).settled ?_
      exact Settled.after (settled_setIn rfl rfl rfl rfl) hflag
    · exact absurd (h.tables.progress itf) hmore

/-- A register with a completion flag. -/
theorem Allocated.pending_cases {dev : UsbDevice} (h : Allocated dev) {r : Nat}
    (hr : dev.epr r ≠ 0) : r = 0 ∨ ∃ itf : HidIf, r = itf.regId := by
  have hlt : r < 3 := by
    by_contra hge
    exact hr (h.registers.rest r (by omega))
  match r, hlt with
  | 0, _ => exact .inl rfl
  | 1, _ => exact .inr ⟨.hidMsIf, rfl⟩
  | 2, _ => exact .inr ⟨.hidKbIf, rfl⟩

/-- So does every round. -/
theorem settled_irq_round (dev : UsbDevice) (epId : Nat) :
    Settled dev (usbVIRQHandler.round dev epId) := by
  intro h
  suffices hf : Settled dev (usbVIRQHandler.round dev epId) from hf h
  rw [usbVIRQHandler.round, toNat_and_epaddr]
  have hrx : Settled dev (if dev.epr epId &&& USB_EP_CTR_RX ≠ 0 then
      if dev.epr epId &&& USB_EP_SETUP ≠ 0 then usbVIRQHandler.setup dev epId
      else usbVIRQHandler.out dev epId (eprFields (dev.epr epId)).ea.toNat else dev) := by
    split
    · rename_i hflag
      split
      · exact settled_irq_setup dev epId
      · -- Only the control register receives.
        rcases h.pending_cases (r := epId) (by rintro h0; rw [h0] at hflag; exact hflag rfl) with
          rfl | ⟨itf, rfl⟩
        · exact (framed_irq_out dev _).settled
        · have hctr := (and_ctr_ne_zero_iff .rx _).mp hflag
          rw [(h.registers.rx itf).2] at hctr
          exact absurd hctr (by decide)
    · exact Settled.refl dev
  split
  · rename_i hflag
    refine Settled.after (settled_irq_in _ ?_ ?_) hrx
    · exact h.pending_cases (by rintro h0; rw [h0] at hflag; exact hflag rfl)
    · rcases h.pending_cases (r := epId) (by rintro h0; rw [h0] at hflag; exact hflag rfl) with
        rfl | ⟨itf, rfl⟩
      · exact .inl (by rw [h.registers.ctrl]; rfl)
      · rcases h.registers.addr itf with hea | hea
        · exact .inl (by rw [hea]; rfl)
        · exact .inr ⟨itf, by rw [hea]; cases itf <;> rfl⟩
  · exact hrx

/-- So does the tail of the handler, the bus reset included. -/
theorem settled_irq_tail (dev : UsbDevice) : Settled dev (usbVIRQHandler.tail dev) := by
  have hreset : Settled dev (usbVSetAddress { dev with reset := false } 0) :=
    settled_of_eq id rfl rfl rfl rfl
  have hidle : ∀ dev' : UsbDevice,
      Settled dev' (dev'.setOut 0 { dev'.epOut 0 with state := .idle }) :=
    fun _ => settled_setOut rfl rfl rfl
  rw [usbVIRQHandler.tail]
  split
  · refine Settled.after (hidle _) (Settled.after (framed_ctrlEpOpen _).settled ?_)
    exact Settled.after (settled_ifConfig _ _) hreset
  · exact Settled.refl dev

/-- Whatever the handler does, it sends no report and leaves the waiting ones as they are. -/
theorem settled_irq (dev : UsbDevice) : Settled dev (usbVIRQHandler.step dev) := by
  rw [usbVIRQHandler.step]
  split
  · exact settled_irq_round dev _
  · exact settled_irq_tail dev

end PikvmHid
