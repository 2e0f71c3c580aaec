import PikvmHid.Lib.Refinement
import PikvmHid.Proofs.UsbFlags

/-!
# `PikvmHid.Proofs.UsbPipes`: an open pipe delivers every report once

As long as no reset and no request reconfigures the device, each report pipe refines the sender of
`Lib.ToggleLink`: its queue is the packet in the buffer of the `VALID` endpoint, its toggle bit is
the data toggle of the register. So the host takes every accepted report exactly once and in order,
whatever else happens: lost acknowledgements, control transfers, the other pipe, and a handler that
comes late.
-/

set_option autoImplicit false

namespace PikvmHid

/-! ### The phases of an open pipe -/

/-- The state of the handle, the status of the register and its completion flag. -/
inductive PipePhase : EpState → EpStatus → Bool → Prop where
  | idle : PipePhase .idle .nak false
  | waits : PipePhase .data .valid false
  | sent : PipePhase .data .nak true

/-- A register that is `VALID` has a report under way. -/
theorem PipePhase.of_valid {state : EpState} {ctr : Bool} (h : PipePhase state .valid ctr) :
    state = .data := by
  cases h
  rfl

/-- An idle endpoint has a register that is `NAK`, and nothing to handle. -/
theorem PipePhase.of_idle {stat : EpStatus} {ctr : Bool} (h : PipePhase .idle stat ctr) :
    stat = .nak ∧ ctr = false := by
  cases h
  exact ⟨rfl, rfl⟩

/-- A completion is on a register that is `NAK`. -/
theorem PipePhase.of_ctr {state : EpState} {stat : EpStatus} (h : PipePhase state stat true) :
    stat = .nak := by
  cases h
  rfl

/-- An open pipe. -/
structure PipeOpen (dev : UsbDevice) (itf : HidIf) : Prop where
  addr : (eprFields (dev.epr itf.regId)).ea = .ofNat 4 itf.epNum
  phase : PipePhase (dev.epIn itf.epNum).state (eprHalf .tx (dev.epr itf.regId)).stat
    (eprHalf .tx (dev.epr itf.regId)).ctr

/-- A device with open pipes. A request that waits to be handled does not reconfigure it. -/
structure Opened (dev : UsbDevice) : Prop where
  allocated : Allocated dev
  pipe : ∀ itf, PipeOpen dev itf
  fits : ∀ itf, ∀ p ∈ waiting dev itf, p.length ≤ itf.reportSize
  reset : dev.reset = false
  request : (eprHalf .rx (dev.epr 0)).ctr = true → (eprFields (dev.epr 0)).setup = true →
    ¬ (bufferedSetup dev 0).Reconfigures

/-- The sender that a pipe implements. -/
def pipeSender (itf : HidIf) (dev : UsbDevice) : Lib.ToggleLink.Sender (List U8) :=
  ⟨(eprHalf .tx (dev.epr itf.regId)).dtog, waiting dev itf⟩

/-- A pipe that is kept has the same packet waiting. -/
theorem Keeps.waiting {dev dev' : UsbDevice} {itf : HidIf} (h : Keeps dev dev' itf) :
    waiting dev' itf = waiting dev itf := by
  rw [PikvmHid.waiting, PikvmHid.waiting, h.reg, h.packet]

/-- It stays open. -/
theorem Keeps.pipeOpen {dev dev' : UsbDevice} {itf : HidIf} (h : Keeps dev dev' itf)
    (hp : PipeOpen dev itf) : PipeOpen dev' itf := by
  refine ⟨?_, ?_⟩
  · rw [h.reg]
    exact hp.addr
  · rw [h.ep, h.reg]
    exact hp.phase

/-- And the sender it stands for stays the same. -/
theorem Keeps.pipeSender {dev dev' : UsbDevice} {itf : HidIf} (h : Keeps dev dev' itf) :
    pipeSender itf dev' = pipeSender itf dev := by
  rw [PikvmHid.pipeSender, PikvmHid.pipeSender, h.reg, h.waiting]

/-- Pipes that are kept stay open. -/
theorem Opened.framed {dev dev' : UsbDevice} (h : Opened dev) (hf : UsbFramed dev dev')
    (hreset : dev'.reset = false)
    (hrequest : (eprHalf .rx (dev'.epr 0)).ctr = true → (eprFields (dev'.epr 0)).setup = true →
      ¬ (bufferedSetup dev' 0).Reconfigures) : Opened dev' := by
  obtain ⟨ha, hkeeps⟩ := hf h.allocated
  refine ⟨ha, fun itf => (hkeeps itf).pipeOpen (h.pipe itf), fun itf p hp => ?_, hreset, hrequest⟩
  rw [(hkeeps itf).waiting] at hp
  exact h.fits itf p hp

/-- The test for a SETUP packet reads the `SETUP` bit. -/
theorem and_setup_ne_zero_iff (e : U16) : e &&& USB_EP_SETUP ≠ 0 ↔ (eprFields e).setup = true := by
  have hbit : USB_EP_SETUP = BitVec.twoPow 16 11 := by decide
  have hne : BitVec.twoPow 16 11 ≠ 0 := by decide
  rw [hbit, BitVec.and_twoPow]
  simp only [eprFields]
  cases e.getLsbD 11 with
  | false => simp
  | true => simpa using hne

/-! ### One step of a pipe -/

/-- What a step does to one pipe: the pipe stays open, and the sender makes a run with the same
observations. -/
structure PipeStep (itf : HidIf) (dev dev' : UsbDevice) (obs : List UsbObs) : Prop where
  pipe : PipeOpen dev' itf
  fits : ∀ p ∈ waiting dev' itf, p.length ≤ itf.reportSize
  run : ∃ js, Lib.ToggleLink.sender.exec (pipeSender itf dev, []) js =
    (pipeSender itf dev', obs.filterMap (pipeObs itf))

/-- A step that keeps the pipe and shows nothing of it. -/
theorem PipeStep.of_keeps {itf : HidIf} {dev dev' : UsbDevice} {obs : List UsbObs}
    (h : Opened dev) (hk : Keeps dev dev' itf) (hobs : obs.filterMap (pipeObs itf) = []) :
    PipeStep itf dev dev' obs := by
  refine ⟨hk.pipeOpen (h.pipe itf), fun p hp => ?_, [], ?_⟩
  · rw [hk.waiting] at hp
    exact h.fits itf p hp
  · rw [hobs, hk.pipeSender]
    rfl

/-- What waits behind `VALID` is the packet in the packet memory. -/
theorem waiting_eq_of_valid {dev : UsbDevice} {itf : HidIf}
    (h : (eprHalf .tx (dev.epr itf.regId)).stat = .valid) :
    waiting dev itf = [txPacket dev itf.regId] := if_pos h

/-- Nothing waits otherwise. -/
theorem waiting_eq_nil {dev : UsbDevice} {itf : HidIf}
    (h : (eprHalf .tx (dev.epr itf.regId)).stat ≠ .valid) : waiting dev itf = [] := if_neg h

/-- At most one packet waits. -/
theorem waiting_cases (dev : UsbDevice) (itf : HidIf) :
    waiting dev itf = [] ∨ ∃ bytes, waiting dev itf = [bytes] := by
  rw [waiting]
  split
  · exact .inr ⟨_, rfl⟩
  · exact .inl rfl

/-- The register of another pipe is another one. -/
theorem HidIf.regId_ne {itf jtf : HidIf} (h : itf ≠ jtf) : itf.regId ≠ jtf.regId :=
  fun h' => h (HidIf.regId_inj h')

/-- The acknowledged packet of the pipe leaves it `NAK` with its flag set and the other toggle. -/
theorem Opened.pipeStep_acked {dev : UsbDevice} (h : Opened dev) (itf : HidIf)
    (hvalid : (eprHalf .tx (dev.epr itf.regId)).stat = .valid) :
    PipeStep itf dev (dev.setEpr itf.regId (hwDone .tx))
      [.packet itf.epNum (eprHalf .tx (dev.epr itf.regId)).dtog (txPacket dev itf.regId) true] := by
  have hp := h.pipe itf
  have hhalf : eprHalf .tx ((dev.setEpr itf.regId (hwDone .tx)).epr itf.regId) =
      ⟨.nak, !(eprHalf .tx (dev.epr itf.regId)).dtog, true⟩ := by
    rw [UsbDevice.setEpr_self, eprHalf_hwDone]
  have hnone : waiting (dev.setEpr itf.regId (hwDone .tx)) itf = [] :=
    waiting_eq_nil (by simp)
  have hdata : (dev.epIn itf.epNum).state = .data := (hvalid ▸ hp.phase).of_valid
  -- The pipe steps as the sender whose packet is acknowledged.
  refine ⟨⟨?_, ?_⟩, fun p hp => ?_, [.poll true], ?_⟩
  · rw [UsbDevice.setEpr_self, fields_hwDone, ea_setHalf]
    exact hp.addr
  · rw [hhalf]
    show PipePhase (dev.epIn itf.epNum).state .nak true
    rw [hdata]
    exact .sent
  · rw [hnone] at hp
    exact absurd hp List.not_mem_nil
  · have hpipe : pipeObs itf (.packet itf.epNum (eprHalf .tx (dev.epr itf.regId)).dtog
        (txPacket dev itf.regId) true) = some (.packet (eprHalf .tx (dev.epr itf.regId)).dtog
          (txPacket dev itf.regId) true) := if_pos rfl
    rw [pipeSender, pipeSender, hnone, hhalf, waiting_eq_of_valid hvalid,
      List.filterMap_cons_some hpipe]
    rfl

/-- An IN transaction. -/
theorem Opened.pipeStep_inToken {dev : UsbDevice} (h : Opened dev) (n : Nat) (ack : Bool)
    (itf : HidIf) : PipeStep itf dev (busIn dev n ack).1 (busIn dev n ack).2 := by
  have hnone : PipeStep itf dev dev [] := .of_keeps h (Keeps.refl dev itf) rfl
  rw [busIn]
  split
  · rename_i r hr
    by_cases hv : dev.enabled ∧ (eprHalf .tx (dev.epr r)).stat = .valid
    · rw [if_pos hv]
      by_cases hn : n = itf.epNum
      · subst hn
        have hreg := h.allocated.eprFor_tx hr
        subst hreg
        cases ack
        · -- Without the acknowledgement the packet is shown and stays.
          refine ⟨h.pipe itf, h.fits itf, [.poll false], ?_⟩
          have hpipe : pipeObs itf (.packet itf.epNum (eprHalf .tx (dev.epr itf.regId)).dtog
              (txPacket dev itf.regId) false) = some (.packet (eprHalf .tx (dev.epr itf.regId)).dtog
                (txPacket dev itf.regId) false) := if_pos rfl
          rw [pipeSender, waiting_eq_of_valid hv.2, if_neg (by decide), pipeSender,
            waiting_eq_of_valid hv.2, List.filterMap_cons_some hpipe]
          rfl
        · exact h.pipeStep_acked itf hv.2
      · -- Another endpoint has another register.
        have hr' : r ≠ itf.regId := by
          rintro rfl
          have hea := (eprFor_spec hr).1
          rw [(h.pipe itf).addr] at hea
          exact hn (by rw [← hea]; cases itf <;> rfl)
        refine .of_keeps h ?_ ?_
        · cases ack
          · exact Keeps.refl dev itf
          · exact ⟨rfl, dev.setEpr_of_ne (Ne.symm hr') _, rfl⟩
        · exact List.filterMap_cons_none (if_neg hn)
    · rw [if_neg hv]
      exact hnone
  · exact hnone

/-- The handler on an acknowledged report: the flag is cleared and the endpoint is idle again. -/
theorem Allocated.irq_in_pipe {dev : UsbDevice} (h : Allocated dev) (itf : HidIf) :
    ∃ ep : UsbEp, ep.state = .idle ∧ usbVIRQHandler.in dev itf.regId itf.epNum =
      (dev.setEpr itf.regId (flagClear .tx)).setIn itf.epNum ep := by
  have hprogress : ((dev.setEpr itf.regId (flagClear .tx)).epIn itf.epNum).progress = 0 :=
    h.tables.progress itf
  rw [usbVIRQHandler.in, if_pos hprogress, usbdEpInCallback, if_neg itf.epNum_ne_zero,
    UsbDevice.setIn_self, UsbDevice.setIn_setIn]
  refine ⟨_, ?_, rfl⟩
  rfl

/-- An endpoint register is another one. -/
theorem keeps_setEpr_of_ne {dev : UsbDevice} {itf : HidIf} {r : Nat} (hr : itf.regId ≠ r)
    (f : U16 → U16) : Keeps dev (dev.setEpr r f) itf :=
  ⟨rfl, dev.setEpr_of_ne hr f, rfl⟩

/-- The round of a pipe's register. -/
theorem Opened.pipeStep_irq_in {dev : UsbDevice} (h : Opened dev) {jtf : HidIf}
    (hflag : (eprHalf .tx (dev.epr jtf.regId)).ctr = true) (itf : HidIf) :
    PipeStep itf dev (usbVIRQHandler.in dev jtf.regId jtf.epNum) [] := by
  obtain ⟨ep, hidle, heq⟩ := h.allocated.irq_in_pipe jtf
  rw [heq]
  by_cases hij : itf = jtf
  · -- The flag is taken back and the handle is idle again; the toggle stays.
    subst hij
    have hp := h.pipe itf
    have hnak : (eprHalf .tx (dev.epr itf.regId)).stat = .nak := (hflag ▸ hp.phase).of_ctr
    have hhalf : eprHalf .tx ((dev.setEpr itf.regId (flagClear .tx)).epr itf.regId) =
        { eprHalf .tx (dev.epr itf.regId) with ctr := false } := by
      rw [UsbDevice.setEpr_self, eprHalf_flagClear, if_pos rfl]
    have hnone : waiting dev itf = [] := waiting_eq_nil (by simp [hnak])
    have hnone' : waiting ((dev.setEpr itf.regId (flagClear .tx)).setIn itf.epNum ep) itf = [] := by
      refine waiting_eq_nil ?_
      show (eprHalf .tx ((dev.setEpr itf.regId (flagClear .tx)).epr itf.regId)).stat ≠ .valid
      simp [hnak]
    refine ⟨⟨?_, ?_⟩, fun p hp => ?_, [], ?_⟩
    · show (eprFields ((dev.setEpr itf.regId (flagClear .tx)).epr itf.regId)).ea = _
      rw [UsbDevice.setEpr_self, ea_flagClear]
      exact hp.addr
    · show PipePhase (UsbDevice.setIn _ itf.epNum ep |>.epIn itf.epNum).state
        (eprHalf .tx ((dev.setEpr itf.regId (flagClear .tx)).epr itf.regId)).stat
        (eprHalf .tx ((dev.setEpr itf.regId (flagClear .tx)).epr itf.regId)).ctr
      rw [UsbDevice.setIn_self, hidle, hhalf, hnak]
      exact .idle
    · rw [hnone'] at hp
      exact absurd hp List.not_mem_nil
    · rw [pipeSender, pipeSender, hnone, hnone']
      show _ = (Lib.ToggleLink.Sender.mk
        (eprHalf .tx ((dev.setEpr itf.regId (flagClear .tx)).epr itf.regId)).dtog [], [])
      rw [hhalf]
      rfl
  · refine .of_keeps h ⟨?_, ?_, rfl⟩ rfl
    · exact UsbDevice.setIn_of_ne _ (fun h' => hij (HidIf.epNum_inj h')) ep
    · exact dev.setEpr_of_ne (HidIf.regId_ne hij) _

/-- The round of a pipe's register is the one of its acknowledged packet. -/
theorem Allocated.round_pipe {dev : UsbDevice} (h : Allocated dev) (itf : HidIf)
    (haddr : (eprFields (dev.epr itf.regId)).ea = .ofNat 4 itf.epNum)
    (hflag : flag dev .tx itf.regId = true) :
    usbVIRQHandler.round dev itf.regId = usbVIRQHandler.in dev itf.regId itf.epNum := by
  refine round_eq_in ?_ (h.registers.rx itf).2 hflag
  rw [haddr]
  cases itf <;> rfl

/-- A report that is sent. -/
theorem Opened.pipeStep_sendReport {dev : UsbDevice} (h : Opened dev) {jtf : HidIf} {ep : UsbEp}
    (hidle : (dev.epIn jtf.epNum).state = .idle) (hep : SentEp jtf ep) {bytes : List U8}
    (hlen : bytes.length ≤ jtf.reportSize) (itf : HidIf) :
    PipeStep itf dev (sendReport dev jtf ep bytes) [.report jtf.index bytes true] := by
  by_cases hij : itf = jtf
  · -- Its own pipe: the sender is offered the report.
    subst hij
    have hp := h.pipe itf
    obtain ⟨hnak, hctr⟩ := (hidle ▸ hp.phase).of_idle
    have hhalf : eprHalf .tx ((sendReport dev itf ep bytes).epr itf.regId) =
        { eprHalf .tx (dev.epr itf.regId) with stat := .valid } := by
      rw [sendReport, UsbDevice.setEpr_self, eprHalf_setStatus, if_pos rfl]
      rfl
    have hnone : waiting dev itf = [] := waiting_eq_nil (by simp [hnak])
    have hwaits := waiting_sendReport h.allocated.layout itf ep hlen
    refine ⟨⟨?_, ?_⟩, fun p hp => ?_, [.offer bytes], ?_⟩
    · rw [sendReport, UsbDevice.setEpr_self, ea_setStatus]
      exact hp.addr
    · have hstate : ((sendReport dev itf ep bytes).epIn itf.epNum).state = .data := by
        show ((dev.setIn itf.epNum ep).epIn itf.epNum).state = .data
        rw [UsbDevice.setIn_self]
        exact hep.state
      rw [hstate, hhalf, hctr]
      exact .waits
    · rw [hwaits, List.mem_singleton] at hp
      rw [hp]
      exact hlen
    · have hpipe : pipeObs itf (.report itf.index bytes true) = some (.accepted bytes) :=
        if_pos ⟨rfl, rfl⟩
      rw [pipeSender, pipeSender, hnone, hwaits, hhalf, List.filterMap_cons_some hpipe]
      rfl
  · -- The other pipe: its register, its handle and its buffer are elsewhere.
    have hindex : jtf.index ≠ itf.index := by
      cases itf <;> cases jtf <;> first | exact absurd rfl hij | decide
    have hreg : (sendReport dev jtf ep bytes).epr itf.regId = dev.epr itf.regId := by
      rw [sendReport, UsbDevice.setEpr_of_ne _ (HidIf.regId_ne hij)]
      rfl
    have hin : (sendReport dev jtf ep bytes).epIn itf.epNum = dev.epIn itf.epNum :=
      dev.setIn_of_ne (fun h' => hij (HidIf.epNum_inj h')) ep
    have hwaits := waiting_sendReport_of_ne h.allocated.layout hij ep hlen (h.fits itf)
    refine ⟨⟨?_, ?_⟩, fun p hp => ?_, [], ?_⟩
    · rw [hreg]
      exact (h.pipe itf).addr
    · rw [hreg, hin]
      exact (h.pipe itf).phase
    · rw [hwaits] at hp
      exact h.fits itf p hp
    · have hpipe : pipeObs itf (.report jtf.index bytes true) = none := if_neg fun h' => hindex h'.1
      rw [pipeSender, pipeSender, hreg, hwaits, List.filterMap_cons_none hpipe]
      rfl

/-! ### One step of the device -/

/-- The request in the buffer does not change with other parts of the packet memory. -/
theorem bufferedSetup_congr {dev dev' : UsbDevice} (h : Layout dev.pma)
    (hsame : ∀ i, i = 2 ∨ 24 ≤ i ∧ i < 28 → dev'.pma i = dev.pma i) :
    bufferedSetup dev' 0 = bufferedSetup dev 0 := by
  have haddr : (dev.pma (bdtRxAddr 0)).toNat = 48 := h.toNat_rxAddr
  have haddr' : dev'.pma (bdtRxAddr 0) = dev.pma (bdtRxAddr 0) := hsame 2 (.inl rfl)
  rw [bufferedSetup, bufferedSetup, haddr', haddr, readPMA_eq_packet _ (by decide),
    readPMA_eq_packet _ (by decide)]
  have hpacket : dev'.pma.packet 48 8 = dev.pma.packet 48 8 := by
    apply Pma.packet_congr
    intro b hb hb'
    rw [Pma.byte, Pma.byte, hsame _ (.inr (by omega))]
  rw [hpacket]

/-- A SETUP transaction leaves its request in the buffer. -/
theorem bufferedSetup_busSetup {dev : UsbDevice} (h : Layout dev.pma) (req : SetupRequest) :
    busSetup dev req = dev ∨ bufferedSetup (busSetup dev req) 0 = req := by
  rw [busSetup]
  split
  · refine .inr ?_
    have haddr : (dev.pma (bdtRxAddr 0)).toNat = 48 := h.toNat_rxAddr
    have hlen : req.toBytes.length = 8 := rfl
    show SetupRequest.ofBytes (.ofList (usbPrvReadPMA (rxStore dev 0 req.toBytes)
      (rxStore dev 0 req.toBytes (bdtRxAddr 0)).toNat 8) .zero) = _
    have haddr' : rxStore dev 0 req.toBytes (bdtRxAddr 0) = dev.pma (bdtRxAddr 0) := by
      rw [rxStore, Pma.set_of_ne _ (by decide), haddr,
        writePMA_of_not_mem _ _ _ _ (.inl (by decide))]
    -- The count in the table lies outside the buffer.
    have hpacket : (rxStore dev 0 req.toBytes).packet 48 8 = req.toBytes := by
      have hwrite : (usbPrvWritePMA (.ofList req.toBytes .zero) 48 req.toBytes.length dev.pma).packet
          48 req.toBytes.length = req.toBytes := by
        rw [packet_writePMA _ (by decide), Buffer.bytes_ofList]
      refine Eq.trans ?_ hwrite
      rw [rxStore, haddr]
      apply Pma.packet_congr
      intro b hb _
      exact Pma.byte_set_of_ne _ (show b / 2 ≠ bdtRxCount 0 by simp only [bdtRxCount]; omega) _
    rw [haddr', haddr, readPMA_eq_packet _ (by decide), hpacket,
      SetupRequest.ofBytes_toBytes]
  · exact .inl rfl

/-- A step that every pipe makes keeps the device open. -/
theorem Opened.of_steps {dev dev' : UsbDevice} {obs : List UsbObs} (ha : Allocated dev')
    (hsteps : ∀ itf, PipeStep itf dev dev' obs) (hreset : dev'.reset = false)
    (hrequest : (eprHalf .rx (dev'.epr 0)).ctr = true → (eprFields (dev'.epr 0)).setup = true →
      ¬ (bufferedSetup dev' 0).Reconfigures) : Opened dev' :=
  ⟨ha, fun itf => (hsteps itf).pipe, fun itf => (hsteps itf).fits, hreset, hrequest⟩

/-- A framed step without observations. -/
theorem Opened.step_of_framed {dev dev' : UsbDevice} (h : Opened dev) (hf : UsbFramed dev dev')
    (hreset : dev'.reset = false)
    (hrequest : (eprHalf .rx (dev'.epr 0)).ctr = true → (eprFields (dev'.epr 0)).setup = true →
      ¬ (bufferedSetup dev' 0).Reconfigures) :
    Opened dev' ∧ ∀ itf, PipeStep itf dev dev' [] := by
  obtain ⟨ha, hkeeps⟩ := hf h.allocated
  have hsteps : ∀ itf, PipeStep itf dev dev' [] := fun itf => .of_keeps h (hkeeps itf) rfl
  exact ⟨.of_steps ha hsteps hreset hrequest, hsteps⟩

/-- A step that does nothing. -/
theorem Opened.step_self {dev : UsbDevice} (h : Opened dev) :
    Opened dev ∧ ∀ itf, PipeStep itf dev dev [] :=
  h.step_of_framed (UsbFramed.refl dev) h.reset h.request

/-- The handler. -/
theorem Opened.step_irq {dev : UsbDevice} (h : Opened dev) :
    Opened (usbVIRQHandler.step dev) ∧ ∀ itf, PipeStep itf dev (usbVIRQHandler.step dev) [] := by
  rw [usbVIRQHandler.step]
  split
  · rename_i r hr
    have hreset : (usbVIRQHandler.round dev r).reset = false :=
      (congrArg Prod.snd (h.allocated.istr_round r)).trans h.reset
    rcases h.allocated.pendingEp_cases hr with ⟨rfl, -⟩ | ⟨jtf, rfl, hflag⟩
    · -- The control register: its receive flag is cleared.
      refine h.step_of_framed (framed_irq_round0 fun hctr hsetup => ?_) hreset fun hctr => ?_
      · exact h.request ((and_ctr_ne_zero_iff .rx _).mp hctr) ((and_setup_ne_zero_iff _).mp hsetup)
      · have hclear := h.allocated.flag_round 0 .rx 0
        rw [flag, hctr] at hclear
        simp at hclear
    · have ha := (settled_irq_round dev jtf.regId h.allocated).1
      rw [h.allocated.round_pipe jtf (h.pipe jtf).addr hflag] at hreset ha ⊢
      have hsteps := h.pipeStep_irq_in hflag
      obtain ⟨ep, -, heq⟩ := h.allocated.irq_in_pipe jtf
      refine ⟨.of_steps ha hsteps hreset ?_, hsteps⟩
      have h0 : (usbVIRQHandler.in dev jtf.regId jtf.epNum).epr 0 = dev.epr 0 := by
        rw [heq]
        exact dev.setEpr_of_ne (Ne.symm jtf.regId_ne_zero) _
      have hbuffer : bufferedSetup (usbVIRQHandler.in dev jtf.regId jtf.epNum) 0 =
          bufferedSetup dev 0 := by
        rw [heq]
        rfl
      rw [h0, hbuffer]
      exact h.request
  · rw [usbVIRQHandler.tail, if_neg (by simp [h.reset])]
    exact h.step_self

/-- An IN transaction is a step of the sender it polls. -/
theorem Opened.step_inToken {dev : UsbDevice} (h : Opened dev) (n : Nat) (ack : Bool) :
    Opened (busIn dev n ack).1 ∧
      ∀ itf, PipeStep itf dev (busIn dev n ack).1 (busIn dev n ack).2 := by
  have hsteps := fun itf => h.pipeStep_inToken n ack itf
  have ha := (settled_busIn dev n ack h.allocated).1
  obtain ⟨hstack, hrx, hsetup⟩ := busIn_rest dev n ack
  have hreset : (busIn dev n ack).1.reset = dev.reset := by rw [hstack]
  have hpma : (busIn dev n ack).1.pma = dev.pma := by rw [hstack]
  refine ⟨.of_steps ha hsteps (hreset.trans h.reset) ?_, hsteps⟩
  rw [hrx, hsetup, bufferedSetup, hpma]
  exact h.request

/-- An OUT transaction moves no pipe. -/
theorem Opened.step_outToken {dev : UsbDevice} (h : Opened dev) (n : Nat) (bytes : List U8) :
    Opened (busOut dev n bytes) ∧ ∀ itf, PipeStep itf dev (busOut dev n bytes) [] := by
  have hreset : (busOut dev n bytes).reset = dev.reset := by
    rw [busOut]
    split
    · split_ifs <;> rfl
    · rfl
  refine h.step_of_framed (framed_busOut dev n bytes) (hreset.trans h.reset) ?_
  rw [busOut]
  split
  · rename_i r hr
    have h0 := h.allocated.eprFor_rx hr
    subst h0
    split_ifs
    · -- A data packet clears the `SETUP` bit.
      intro _ hsetup
      rw [UsbDevice.setEpr_self] at hsetup
      have hclear : ∀ e : U16, (eprFields (e &&& ~~~USB_EP_SETUP)).setup = false := by
        intro e
        simp [eprFields]
      rw [hclear] at hsetup
      exact absurd hsetup (by decide)
    · exact h.request
  · exact h.request

/-- Nor does a SETUP packet. -/
theorem Opened.step_setup {dev : UsbDevice} (h : Opened dev) {req : SetupRequest}
    (hreq : ¬ req.Reconfigures) :
    Opened (busSetup dev req) ∧ ∀ itf, PipeStep itf dev (busSetup dev req) [] := by
  have hreset : (busSetup dev req).reset = dev.reset := by
    rw [busSetup]
    split_ifs <;> rfl
  refine h.step_of_framed (framed_busSetup dev req) (hreset.trans h.reset) ?_
  rcases bufferedSetup_busSetup h.allocated.layout req with hsame | hbuffer
  · rw [hsame]
    exact h.request
  · rw [hbuffer]
    exact fun _ _ => hreq

/-- A report is a step of the sender of its interface. -/
theorem Opened.step_reportIn {dev : UsbDevice} (h : Opened dev) (i : Nat) {bytes : List U8}
    (hlen : ∀ itf : HidIf, i = itf.index → bytes.length ≤ itf.reportSize) :
    Opened (usbMachine.step dev (.reportIn i bytes)).1 ∧
      ∀ itf, PipeStep itf dev (usbMachine.step dev (.reportIn i bytes)).1
        (usbMachine.step dev (.reportIn i bytes)).2 := by
  have hrefused : ∀ itf, PipeStep itf dev dev [.report i bytes false] := fun itf =>
    .of_keeps h (Keeps.refl dev itf) (List.filterMap_cons_none (if_neg (by simp)))
  by_cases hitf : ∃ itf : HidIf, i = itf.index
  · obtain ⟨jtf, rfl⟩ := hitf
    have hreport := h.allocated.reportIn jtf (hlen jtf rfl)
    split at hreport
    · rename_i hidle
      obtain ⟨ep, hep, hr⟩ := hreport
      simp only [usbMachine, hr]
      have hsteps := h.pipeStep_sendReport hidle hep (hlen jtf rfl)
      refine ⟨.of_steps (h.allocated.sent hep (hlen jtf rfl)) hsteps h.reset ?_, hsteps⟩
      have h0 : (sendReport dev jtf ep bytes).epr 0 = dev.epr 0 := by
        rw [sendReport, UsbDevice.setEpr_of_ne _ (Ne.symm jtf.regId_ne_zero)]
        rfl
      -- The report is not stored over the request.
      have hbuffer : bufferedSetup (sendReport dev jtf ep bytes) 0 = bufferedSetup dev 0 := by
        refine bufferedSetup_congr h.allocated.layout fun i hi => ?_
        refine storeReport_of_not_mem jtf _ (hlen jtf rfl) dev.pma ?_ ?_
        · cases jtf <;> simp only [bdtTxCount, HidIf.regId] <;> omega
        · cases jtf <;> simp only [HidIf.pmaAddress] <;> omega
      rw [h0, hbuffer]
      exact h.request
    · simp only [usbMachine, hreport]
      exact ⟨h, hrefused⟩
  · simp only [usbMachine, reportIn_of_no_interface h.allocated.tables.ifs fun itf h' =>
      hitf ⟨itf, h'⟩]
    exact ⟨h, hrefused⟩

/-! ### The run -/

/-- Each open pipe refines the sender of the library. -/
theorem pipe_refines (itf : HidIf) :
    usbMachine.Refines Lib.ToggleLink.sender (pipeSender itf) (pipeObs itf) Opened
      (fun i => KeepsPipes i ∧ FitsPacket i) := by
  have hstep : ∀ dev i, Opened dev → KeepsPipes i ∧ FitsPacket i →
      Opened (usbMachine.step dev i).1 ∧
        ∀ itf, PipeStep itf dev (usbMachine.step dev i).1 (usbMachine.step dev i).2 := by
    intro dev i h hi
    cases i with
    | inToken n ack => exact h.step_inToken n ack
    | outToken n bytes => exact h.step_outToken n bytes
    | setup req => exact h.step_setup hi.1.1
    | busReset => exact absurd hi.1 not_false
    | irq => exact h.step_irq
    | reportIn i bytes => exact h.step_reportIn i hi.2
  exact ⟨fun dev i h hi => (hstep dev i h hi).1, fun dev i h hi => ((hstep dev i h hi).2 itf).run⟩

/-- The accepted reports are the accepted packets of the link. -/
theorem acceptedReports_eq (itf : HidIf) (obs : List UsbObs) :
    acceptedReports itf obs = Lib.ToggleLink.accepted (obs.filterMap (pipeObs itf)) := by
  rw [acceptedReports, Lib.ToggleLink.accepted, List.filterMap_filterMap]
  refine List.filterMap_congr fun o _ => ?_
  cases o with
  | packet n pid bytes ack =>
      by_cases hn : n = itf.epNum <;> simp [pipeObs, hn]
  | report i bytes ok =>
      by_cases hi : i = itf.index ∧ ok <;> simp [pipeObs, hi]

/-- A reachable device with idle pipes is open. -/
theorem Allocated.opened {dev : UsbDevice} (h : Allocated dev) (hidle : PipesIdle dev) :
    Opened dev := by
  have hreg : ∀ itf, pipeReg dev itf = dev.epr itf.regId := fun itf => by
    rw [pipeReg, (h.tables.report itf).regId]
  refine ⟨h, fun itf => ?_, fun itf p hp => ?_, hidle.reset, fun hctr => ?_⟩
  · obtain ⟨hstate, haddr, hstat, hctr⟩ := hidle.pipe itf
    rw [hreg] at haddr hstat hctr
    refine ⟨haddr, ?_⟩
    rw [hstate, hstat, hctr]
    exact .idle
  · have hstat := (hidle.pipe itf).stat
    rw [hreg] at hstat
    rw [waiting_eq_nil (by simp [hstat])] at hp
    exact absurd hp List.not_mem_nil
  · rw [hidle.ctr] at hctr
    exact absurd hctr (by decide)

/-- A device with idle pipes has been reset and configured. -/
theorem allocated_of_idle (pma : Pma) {pre : List UsbAct} (hpre : ∀ i ∈ pre, FitsPacket i)
    (hidle : PipesIdle (usbMachine.exec (usbDeviceInit pma, []) pre).1) :
    Allocated (usbMachine.exec (usbDeviceInit pma, []) pre).1 := by
  rcases inOrder_run pma hpre with ⟨hfresh, -⟩ | ⟨ha, -, -⟩
  · have hstat := (hidle.pipe .hidKbIf).stat
    rw [pipeReg, hfresh.epr] at hstat
    exact absurd hstat (by decide)
  · exact ha

/-- The reports the host has taken are the accepted ones, but for the one that waits. -/
theorem Allocated.receivedReports {dev : UsbDevice} (ha : Allocated dev) (hidle : PipesIdle dev)
    {post : List UsbAct} (hpost : ∀ i ∈ post, KeepsPipes i ∧ FitsPacket i) (itf : HidIf) :
    let c := usbMachine.exec (dev, []) post
    let got := receivedReports itf (eprHalf .tx (pipeReg dev itf)).dtog c.2
    got = acceptedReports itf c.2 ∨
      ∃ bytes, waiting c.1 itf = [bytes] ∧ got ++ [bytes] = acceptedReports itf c.2 := by
  intro c got
  have hopen := ha.opened hidle
  have hreg : pipeReg dev itf = dev.epr itf.regId := by
    rw [pipeReg, (ha.tables.report itf).regId]
  have hempty : waiting dev itf = [] := by
    have hstat := (hidle.pipe itf).stat
    rw [hreg] at hstat
    exact waiting_eq_nil (by simp [hstat])
  -- What the sender still holds is what waits in the endpoint, or nothing.
  obtain ⟨-, js, hjs⟩ := (pipe_refines itf).run hopen hpost
  obtain ⟨q, hq, htaken⟩ := Lib.ToggleLink.received_append (pipeSender itf dev) js
  rw [hjs] at hq htaken
  have hgot : got ++ q = acceptedReports itf c.2 := by
    rw [acceptedReports_eq]
    simpa [got, PikvmHid.receivedReports, hreg, pipeSender, hempty] using htaken
  rcases waiting_cases c.1 itf with hwaits | ⟨bytes, hwaits⟩
  · have hnil : q = [] := by
      rcases hq with hq | ⟨a, hq⟩
      · exact hq.trans hwaits
      · exact absurd (hq.symm.trans hwaits) (List.cons_ne_nil a q)
    rw [hnil, List.append_nil] at hgot
    exact .inl hgot
  · rcases hq with hq | ⟨a, hq⟩
    · rw [hq.trans hwaits] at hgot
      exact .inr ⟨bytes, hwaits, hgot⟩
    · have hnil : q = [] := (List.cons.inj (hwaits.symm.trans hq)).2.symm
      rw [hnil, List.append_nil] at hgot
      exact .inl hgot

/-- As long as the pipes stay open, the host takes every accepted report once and in order; at
most the last one is still in the endpoint. Acknowledgements may be lost, and the handler may
come at any time. -/
theorem received_eq_accepted (pma : Pma) {pre post : List UsbAct} (hpre : ∀ i ∈ pre, Ordinary i)
    (hpost : ∀ i ∈ post, KeepsPipes i ∧ FitsPacket i)
    (hidle : PipesIdle (usbMachine.exec (usbDeviceInit pma, []) pre).1) (itf : HidIf) :
    let dev := (usbMachine.exec (usbDeviceInit pma, []) pre).1
    let c := usbMachine.exec (dev, []) post
    let got := receivedReports itf (eprHalf .tx (pipeReg dev itf)).dtog c.2
    got = acceptedReports itf c.2 ∨
      ∃ bytes, waiting c.1 itf = [bytes] ∧ got ++ [bytes] = acceptedReports itf c.2 := by
  intro dev
  exact (allocated_of_idle pma (fun i hi => (hpre i hi).fitsPacket) hidle).receivedReports hidle hpost itf

/-- After the configuration the pipes are idle. -/
theorem pipesIdle_configure :
    PipesIdle (usbMachine.exec (usbDeviceInit fun _ => 0, []) configure).1 := by
  refine ⟨fun itf => ?_, by decide +kernel, by decide +kernel⟩
  cases itf <;> exact ⟨by decide +kernel, by decide +kernel, by decide +kernel, by decide +kernel⟩

/-- On the run `pressAndRelease` both reports are received. -/
theorem pressAndRelease_received :
    let dev := (usbMachine.exec (usbDeviceInit fun _ => 0, []) configure).1
    let c := usbMachine.exec (dev, []) pressAndRelease
    let got := receivedReports .hidKbIf (eprHalf .tx (pipeReg dev .hidKbIf)).dtog c.2
    got = [[0, 0, 4, 0, 0, 0, 0, 0], [0, 0, 0, 0, 0, 0, 0, 0]] ∧
      (got = acceptedReports .hidKbIf c.2 ∨
        ∃ bytes, waiting c.1 .hidKbIf = [bytes] ∧ got ++ [bytes] = acceptedReports .hidKbIf c.2) := by
  refine ⟨by decide +kernel, received_eq_accepted _ ?_ ?_ ?_ .hidKbIf⟩
  · decide
  · simpa [pressAndRelease, KeepsPipes, FitsPacket] using reportSize_keyboard
  · exact pipesIdle_configure

end PikvmHid
