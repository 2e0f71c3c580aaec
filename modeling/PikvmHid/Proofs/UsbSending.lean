import PikvmHid.Proofs.UsbSettled

/-!
# `PikvmHid.Proofs.UsbSending`: transactions and reports

What the steps of the bus and of the tasks do to the report endpoints. A received packet stays in
the buffer of the control endpoint, an acknowledged IN transaction leaves its endpoint `NAK`,
and a report that is accepted is the one thing that makes an endpoint `VALID`
(`Allocated.reportIn`).
-/

set_option autoImplicit false

namespace PikvmHid

/-! ### Transactions -/

/-- The register that answers has the number of the endpoint and is not disabled. -/
theorem eprFor_spec {dev : UsbDevice} {d : EpHalf} {n r : Nat} (h : eprFor dev d n = some r) :
    (eprFields (dev.epr r)).ea.toNat = n ∧ (eprHalf d (dev.epr r)).stat ≠ .dis := by
  have hfind := List.find?_some h
  simpa using hfind

/-- Only the control register receives. -/
theorem Allocated.eprFor_rx {dev : UsbDevice} (h : Allocated dev) {n r : Nat}
    (hr : eprFor dev .rx n = some r) : r = 0 := by
  have hstat := (eprFor_spec hr).2
  rcases h.pending_cases (r := r) (by rintro h0; rw [h0] at hstat; exact hstat rfl) with
    rfl | ⟨itf, rfl⟩
  · rfl
  · exact absurd (h.registers.rx itf).1 hstat

/-- A received packet does not change the size of its buffer. -/
theorem Layout.capacity_rxStore {dev : UsbDevice} (h : Layout dev.pma) {bytes : List U8}
    (hlen : bytes.length ≤ rxCapacity (dev.pma (bdtRxCount 0))) :
    rxCapacity (rxStore dev 0 bytes (bdtRxCount 0)) = rxCapacity (dev.pma (bdtRxCount 0)) := by
  have haddr : (dev.pma (bdtRxAddr 0)).toNat = 48 := h.toNat_rxAddr
  have hle := hlen.trans h.capacity
  rw [rxStore, Pma.set_self, rxCapacity_count _ (by omega),
    writePMA_of_not_mem _ _ _ _ (by simp [bdtRxCount]; omega)]

/-- A received packet stays in the buffer of the control endpoint. -/
theorem framed_rxStore (dev : UsbDevice) {bytes : List U8}
    (hlen : bytes.length ≤ rxCapacity (dev.pma (bdtRxCount 0))) :
    UsbFramed dev { dev with pma := rxStore dev 0 bytes } := by
  refine framed_setPma (f := fun _ => rxStore dev 0 bytes) fun hp => ?_
  have haddr : (dev.pma (bdtRxAddr 0)).toNat = 48 := hp.toNat_rxAddr
  have hle := hlen.trans hp.capacity
  refine ⟨fun i _ hi hbuf => ?_, (hp.capacity_rxStore hlen).trans_le hp.capacity, ?_, ?_⟩
  · rw [rxStore, Pma.set_of_ne _ hi, writePMA_of_not_mem _ _ _ _ (by omega)]
  · rw [rxStore, Pma.set_self, toNat_rxCount _ hle]
    exact hle
  · rw [rxStore, Pma.set_of_ne _ (by decide),
      writePMA_of_not_mem _ _ _ _ (by simp [bdtTxCount]; omega)]
    exact hp.txCount

/-- An OUT transaction leaves the report endpoints. -/
theorem framed_busOut (dev : UsbDevice) (n : Nat) (bytes : List U8) :
    UsbFramed dev (busOut dev n bytes) := by
  intro h
  suffices hf : UsbFramed dev (busOut dev n bytes) from hf h
  rw [busOut]
  split
  · rename_i r hr
    have h0 := h.eprFor_rx hr
    subst h0
    split
    · rename_i hok
      refine UsbFramed.after (framed_setEpr0 fun e he => ?_) (framed_rxStore dev hok.2.2)
      rw [ea_and_not_setup, fields_hwDone, ea_setHalf]
      exact he
    · exact UsbFramed.refl dev
  · exact UsbFramed.refl dev

/-- So does a SETUP packet. -/
theorem framed_busSetup (dev : UsbDevice) (req : SetupRequest) : UsbFramed dev (busSetup dev req) := by
  rw [busSetup]
  split
  · rename_i hok
    exact UsbFramed.after (framed_setEpr0 fun e he => (ea_hwSetup e).trans he)
      (framed_rxStore dev hok.2.2.2)
  · exact UsbFramed.refl dev

/-- The reset of the hardware settles the pipes: it disables every register. -/
theorem settled_busReset (dev : UsbDevice) : Settled dev (busReset dev) := by
  intro h
  have hhalf : ∀ d e, eprHalf d (hwReset e) = ⟨.dis, false, (eprHalf d e).ctr⟩ := by
    intro d e
    rw [← half_eprFields, fields_hwReset]
    cases d <;> rfl
  have hea : ∀ e, (eprFields (hwReset e)).ea = 0 := fun e => by rw [fields_hwReset]
  refine ⟨⟨⟨h.tables.ifs, h.tables.report, h.tables.progress, h.tables.inRest, h.tables.out⟩,
    h.layout, ⟨hea _, fun itf => .inl (hea _), fun itf => ?_, fun r hr => ?_⟩⟩, fun itf => ⟨rfl, ?_⟩⟩
  · show (eprHalf .rx (hwReset (dev.epr itf.regId))).stat = .dis ∧
      (eprHalf .rx (hwReset (dev.epr itf.regId))).ctr = false
    rw [hhalf]
    exact ⟨rfl, (h.registers.rx itf).2⟩
  · show hwReset (dev.epr r) = 0
    rw [h.registers.rest r hr]
    decide
  · show (eprHalf .tx (hwReset (dev.epr itf.regId))).stat = .valid → _
    rw [hhalf]
    exact fun hv => EpStatus.noConfusion hv

/-- A transaction on the control register leaves them. -/
theorem framed_hwDone0 (dev : UsbDevice) (d : EpHalf) : UsbFramed dev (dev.setEpr 0 (hwDone d)) := by
  refine framed_setEpr0 fun e he => ?_
  rw [fields_hwDone, ea_setHalf]
  exact he

/-- The effect of an IN transaction on the device. -/
theorem settled_busIn (dev : UsbDevice) (n : Nat) (ack : Bool) : Settled dev (busIn dev n ack).1 := by
  intro h
  suffices hf : Settled dev (busIn dev n ack).1 from hf h
  have hdone : ∀ r, dev.epr r ≠ 0 → Settled dev (dev.setEpr r (hwDone .tx)) := by
    intro r hr
    rcases h.pending_cases hr with rfl | ⟨itf, rfl⟩
    · exact (framed_hwDone0 dev .tx).settled
    · refine settled_setEpr itf (fun e he => ?_) (fun e => ?_) fun e hv => ?_
      · rwa [fields_hwDone, ea_setHalf]
      · rw [← half_eprFields, fields_hwDone, half_setHalf_eq, if_neg (by decide), half_eprFields]
      · rw [eprHalf_hwDone] at hv
        exact EpStatus.noConfusion hv
  rw [busIn]
  split
  · rename_i r hr
    -- A register that answers is not zero, and so one that is in use.
    have hne : dev.epr r ≠ 0 := by
      intro h0
      have hstat := (eprFor_spec hr).2
      rw [h0] at hstat
      exact hstat rfl
    split
    · cases ack
      · exact Settled.refl dev
      · exact hdone r hne
    · exact Settled.refl dev
  · exact Settled.refl dev

/-- An IN transaction is seen in the transmit side of a register and nowhere else. -/
theorem busIn_rest (dev : UsbDevice) (n : Nat) (ack : Bool) :
    (busIn dev n ack).1 = { dev with epr := (busIn dev n ack).1.epr } ∧
      eprHalf .rx ((busIn dev n ack).1.epr 0) = eprHalf .rx (dev.epr 0) ∧
      (eprFields ((busIn dev n ack).1.epr 0)).setup = (eprFields (dev.epr 0)).setup := by
  have hdone : ∀ r, eprHalf .rx ((dev.setEpr r (hwDone .tx)).epr 0) = eprHalf .rx (dev.epr 0) ∧
      (eprFields ((dev.setEpr r (hwDone .tx)).epr 0)).setup = (eprFields (dev.epr 0)).setup := by
    intro r
    -- The control register, or the one of a report endpoint.
    by_cases hr : r = 0
    · subst hr
      rw [UsbDevice.setEpr_self, ← half_eprFields, fields_hwDone]
      exact ⟨rfl, rfl⟩
    · rw [dev.setEpr_of_ne (Ne.symm hr)]
      exact ⟨rfl, rfl⟩
  rw [busIn]
  split
  · rename_i r _
    split_ifs
    · exact ⟨rfl, hdone r⟩
    · exact ⟨rfl, rfl, rfl⟩
    · exact ⟨rfl, rfl, rfl⟩
  · exact ⟨rfl, rfl, rfl⟩

/-! ### What waits -/

/-- The packet that waits in a report endpoint. -/
def waiting (dev : UsbDevice) (itf : HidIf) : List (List U8) :=
  if (eprHalf .tx (dev.epr itf.regId)).stat = .valid then [txPacket dev itf.regId] else []

/-- A pipe that settles has no more waiting than before. -/
theorem Settles.waiting_sublist {dev dev' : UsbDevice} {itf : HidIf} (h : Settles dev dev' itf) :
    List.Sublist (waiting dev' itf) (waiting dev itf) := by
  rw [waiting, waiting, h.packet]
  by_cases hv : (eprHalf .tx (dev'.epr itf.regId)).stat = .valid
  · rw [if_pos hv, if_pos (h.valid hv)]
  · rw [if_neg hv]
    exact List.nil_sublist _

/-! ### A report is sent -/

/-- The stores of a report of `itf`: its count and its buffer. -/
def storeReport (itf : HidIf) (src : Buffer) (len : Nat) (p : Pma) : Pma :=
  usbPrvWritePMA src itf.pmaAddress len (p.set (bdtTxCount itf.regId) (.ofNat 16 len))

/-- They are in the last part of the packet memory but for the count. -/
theorem storeReport_of_not_mem (itf : HidIf) (src : Buffer) {len : Nat} (h : len ≤ itf.reportSize)
    (p : Pma) {i : Nat} (hi : i ≠ bdtTxCount itf.regId)
    (hbuf : i < itf.pmaAddress / 2 ∨ itf.pmaAddress / 2 + (itf.reportSize + 1) / 2 ≤ i) :
    storeReport itf src len p i = p i := by
  rw [storeReport, writePMA_of_not_mem _ _ _ _ (by omega), Pma.set_of_ne _ hi]

/-- A report in the packet memory leaves the buffer table. -/
theorem Layout.stored {p : Pma} (h : Layout p) (itf : HidIf) (src : Buffer) {len : Nat}
    (hlen : len ≤ itf.reportSize) : Layout (storeReport itf src len p) := by
  have hsame : ∀ i, i < 12 → i ≠ bdtTxCount itf.regId →
      storeReport itf src len p i = p i := by
    intro i hi hne
    apply storeReport_of_not_mem itf src hlen p hne
    cases itf <;> simp only [HidIf.pmaAddress] <;> omega
  refine ⟨⟨?_, ?_, ?_⟩, ?_, ?_, fun jtf => ?_⟩
  · rw [hsame _ (by decide) (by cases itf <;> decide)]
    exact h.capacity
  · rw [hsame _ (by decide) (by cases itf <;> decide)]
    exact h.rxCount
  · rw [hsame _ (by decide) (by cases itf <;> decide)]
    exact h.txCount
  · rw [hsame _ (by decide) (by cases itf <;> decide)]
    exact h.txAddr
  · rw [hsame _ (by decide) (by cases itf <;> decide)]
    exact h.rxAddr
  · rw [hsame _ (by cases jtf <;> decide) (by cases itf <;> cases jtf <;> decide)]
    exact h.report jtf

/-- The packet of the report is the report. -/
theorem txPacket_storeReport {dev : UsbDevice} (h : Layout dev.pma) (itf : HidIf) (src : Buffer)
    {len : Nat} (hlen : len ≤ itf.reportSize) :
    txPacket (dev.setPma (storeReport itf src len)) itf.regId = src.bytes len := by
  have hout : bdtTxCount itf.regId < itf.pmaAddress / 2 := by cases itf <;> decide
  have hcount : storeReport itf src len dev.pma (bdtTxCount itf.regId) = .ofNat 16 len := by
    rw [storeReport, writePMA_of_not_mem _ _ _ _ (.inl hout), Pma.set_self]
  have hsmall : (BitVec.ofNat 16 len &&& 0x3FF).toNat = len := by
    have h8 : len ≤ 8 := hlen.trans (by cases itf <;> decide)
    interval_cases len <;> rfl
  have haddr : (BitVec.ofNat 16 itf.pmaAddress).toNat = itf.pmaAddress := by cases itf <;> rfl
  rw [txPacket]
  show Pma.packet (storeReport itf src len dev.pma)
    (storeReport itf src len dev.pma (bdtTxAddr itf.regId)).toNat
    (storeReport itf src len dev.pma (bdtTxCount itf.regId) &&& 0x3FF).toNat = _
  rw [hcount, hsmall, (h.stored itf src hlen).report itf, haddr, storeReport,
    packet_writePMA src (by cases itf <;> decide)]

/-- The packet memories of the two interfaces are apart. -/
theorem HidIf.buffers_disjoint {itf jtf : HidIf} (h : jtf ≠ itf) :
    jtf.pmaAddress + jtf.reportSize ≤ itf.pmaAddress / 2 * 2 ∨
      (itf.pmaAddress / 2 + (itf.reportSize + 1) / 2) * 2 ≤ jtf.pmaAddress := by
  cases itf <;> cases jtf <;> first | exact absurd rfl h | decide

/-- The packet of the other interface stays, if it fits in its buffer. -/
theorem txPacket_storeReport_of_ne {dev : UsbDevice} (h : Layout dev.pma) {itf jtf : HidIf}
    (hne : jtf ≠ itf) (src : Buffer) {len : Nat} (hlen : len ≤ itf.reportSize)
    (hfits : (txPacket dev jtf.regId).length ≤ jtf.reportSize) :
    txPacket (dev.setPma (storeReport itf src len)) jtf.regId = txPacket dev jtf.regId := by
  have hcount : storeReport itf src len dev.pma (bdtTxCount jtf.regId) =
      dev.pma (bdtTxCount jtf.regId) := by
    apply storeReport_of_not_mem itf src hlen
    · intro h'
      exact hne (HidIf.regId_inj (by simp only [bdtTxCount] at h'; omega))
    · cases itf <;> cases jtf <;> decide
  have haddr : (BitVec.ofNat 16 jtf.pmaAddress).toNat = jtf.pmaAddress := by cases jtf <;> rfl
  rw [txPacket, Pma.length_packet] at hfits
  rw [txPacket, txPacket]
  show Pma.packet (storeReport itf src len dev.pma)
    (storeReport itf src len dev.pma (bdtTxAddr jtf.regId)).toNat
    (storeReport itf src len dev.pma (bdtTxCount jtf.regId) &&& 0x3FF).toNat = _
  rw [hcount, (h.stored itf src hlen).report jtf, h.report jtf, haddr]
  -- The buffers of two pipes do not overlap, nor do they reach into the table.
  apply Pma.packet_congr
  intro b hb hb'
  rw [Pma.byte, Pma.byte, storeReport_of_not_mem itf src hlen]
  · cases itf <;> cases jtf <;>
      simp only [HidIf.pmaAddress, HidIf.regId, bdtTxCount] at hb hb' ⊢ <;> omega
  · have := HidIf.buffers_disjoint hne
    omega

/-- The registers, when one report endpoint is made `VALID`. -/
theorem Registers.setStatus {epr : Nat → U16} (h : Registers epr) (itf : HidIf) (s : EpStatus) :
    Registers (Function.update epr itf.regId (setStatus .tx s (epr itf.regId))) := by
  refine ⟨?_, fun jtf => ?_, fun jtf => ?_, fun r hr => ?_⟩
  · rw [Function.update_of_ne (Ne.symm itf.regId_ne_zero)]
    exact h.ctrl
  · by_cases hj : jtf.regId = itf.regId
    · rw [hj, Function.update_self, ea_setStatus, ← hj]
      exact h.addr jtf
    · rw [Function.update_of_ne hj]
      exact h.addr jtf
  · by_cases hj : jtf.regId = itf.regId
    · rw [hj, Function.update_self, eprHalf_setStatus, if_neg (by decide), ← hj]
      exact h.rx jtf
    · rw [Function.update_of_ne hj]
      exact h.rx jtf
  · rw [Function.update_of_ne (by cases itf <;> simp only [HidIf.regId] <;> omega)]
    exact h.rest r hr

/-- The device after a report is sent: the endpoint handle stored, the report in its buffer, the
endpoint `VALID`. -/
def sendReport (dev : UsbDevice) (itf : HidIf) (ep : UsbEp) (bytes : List U8) : UsbDevice :=
  ((dev.setIn itf.epNum ep).setPma (storeReport itf (.ofList bytes .zero) bytes.length)).setEpr
    itf.regId (setStatus .tx .valid)

/-- The endpoint handle after a report is sent. -/
structure SentEp (itf : HidIf) (ep : UsbEp) : Prop
    extends ep.Is itf.reportSize .interrupt itf.regId where
  progress : ep.progress = 0
  state : ep.state = .data

/-- The transfer of a report is one packet. -/
theorem Allocated.epSend_report {dev : UsbDevice} (h : Allocated dev) (itf : HidIf)
    (data : DataPtr) {len : Nat} (hlen : len ≤ itf.reportSize) :
    usbVEpSend dev itf.inEpNum data len = ((dev.setIn itf.epNum
        { dev.epIn itf.epNum with data := data, progress := 0, length := len }).setPma
      (storeReport itf (data.read dev.ctrlData) len)).setEpr itf.regId (setStatus .tx .valid) := by
  have hep := h.tables.report itf
  have hnum : (itf.inEpNum &&& 0xF).toNat = itf.epNum := by cases itf <;> rfl
  have haddr : (dev.pma (bdtTxAddr itf.regId)).toNat = itf.pmaAddress :=
    h.layout.toNat_report itf
  have hnext : usbPrvNextPacketSize
      { dev.epIn itf.epNum with data := data, progress := len, length := len } =
      (len, { dev.epIn itf.epNum with data := data, progress := 0, length := len }) := by
    rw [usbPrvNextPacketSize, if_neg]
    show ¬ len > (dev.epIn itf.epNum).maxPacketSize
    rw [hep.maxPacketSize]
    omega
  rw [usbVEpSend, hnum, usbPrvTransmitPacket, UsbDevice.setIn_self, hnext]
  simp only [hep.regId]
  simp only [UsbDevice.setIn, UsbDevice.setPma, Function.update_idem, haddr, storeReport]

/-- Sending a report keeps the allocation. -/
theorem Allocated.sent {dev : UsbDevice} (h : Allocated dev) {itf : HidIf} {ep : UsbEp}
    (hep : SentEp itf ep) {bytes : List U8} (hlen : bytes.length ≤ itf.reportSize) :
    Allocated (sendReport dev itf ep bytes) := by
  refine ⟨⟨h.tables.ifs, fun jtf => ?_, fun jtf => ?_, fun n hn => ?_, h.tables.out⟩,
    h.layout.stored itf _ hlen, h.registers.setStatus itf .valid⟩
  · show ((dev.setIn itf.epNum ep).epIn jtf.epNum).Is _ _ _
    by_cases hj : jtf = itf
    · rw [hj, dev.setIn_self]
      exact hep.toIs
    · rw [dev.setIn_of_ne fun h' => hj (HidIf.epNum_inj h')]
      exact h.tables.report jtf
  · show ((dev.setIn itf.epNum ep).epIn jtf.epNum).progress = 0
    by_cases hj : jtf = itf
    · rw [hj, dev.setIn_self]
      exact hep.progress
    · rw [dev.setIn_of_ne fun h' => hj (HidIf.epNum_inj h')]
      exact h.tables.progress jtf
  · show ((dev.setIn itf.epNum ep).epIn n).Is _ _ _
    rw [dev.setIn_of_ne (hn itf)]
    exact h.tables.inRest n hn

/-- The report waits. -/
theorem waiting_sendReport {dev : UsbDevice} (h : Layout dev.pma) (itf : HidIf) (ep : UsbEp)
    {bytes : List U8} (hlen : bytes.length ≤ itf.reportSize) :
    waiting (sendReport dev itf ep bytes) itf = [bytes] := by
  have hpacket := txPacket_storeReport h itf (.ofList bytes .zero) hlen
  rw [Buffer.bytes_ofList] at hpacket
  rw [waiting, sendReport, UsbDevice.setEpr_self, eprHalf_setStatus, if_pos rfl, if_pos rfl]
  exact congrArg (fun p => [p]) hpacket

/-- What waits in the other endpoint stays. -/
theorem waiting_sendReport_of_ne {dev : UsbDevice} (h : Layout dev.pma) {itf jtf : HidIf}
    (hne : jtf ≠ itf) (ep : UsbEp) {bytes : List U8} (hlen : bytes.length ≤ itf.reportSize)
    (hfits : ∀ p ∈ waiting dev jtf, p.length ≤ jtf.reportSize) :
    waiting (sendReport dev itf ep bytes) jtf = waiting dev jtf := by
  have hreg : jtf.regId ≠ itf.regId := fun h' => hne (HidIf.regId_inj h')
  rw [waiting] at hfits
  rw [waiting, sendReport, UsbDevice.setEpr_of_ne _ hreg, waiting]
  show (if (eprHalf .tx (dev.epr jtf.regId)).stat = .valid then
    [txPacket (dev.setPma (storeReport itf (.ofList bytes .zero) bytes.length)) jtf.regId] else []) = _
  by_cases hv : (eprHalf .tx (dev.epr jtf.regId)).stat = .valid
  · rw [if_pos hv] at hfits
    rw [if_pos hv, if_pos hv, txPacket_storeReport_of_ne h hne _ hlen
      (hfits _ (List.mem_singleton_self _))]
  · rw [if_neg hv, if_neg hv]

/-- Each interface has its handle, with its endpoint and no request. -/
theorem IfsMounted.getElem? {ifs : List HidIfHandle} (h : IfsMounted ifs) (itf : HidIf) :
    ∃ handle, ifs[itf.index]? = some handle ∧ handle.inEpNum = itf.inEpNum ∧ handle.request = 0 := by
  have hlen : itf.index < ifs.length := by
    have hlen := congrArg List.length h
    rw [List.length_map] at hlen
    cases itf <;> simp only [HidIf.index, hlen] <;> decide
  have hi := List.getElem?_eq_getElem hlen
  obtain ⟨kind, hkind, -, hep, hreq⟩ := h.cases hi
  have : kind = itf := by cases kind <;> cases itf <;> first | rfl | exact absurd hkind (by decide)
  subst this
  exact ⟨_, hi, hep, hreq⟩

/-- `USBD_HID_ReportIn` of a mounted interface: no `GET_REPORT` waits, so it sends on the report
endpoint. -/
theorem reportIn_eq_epSend {dev : UsbDevice} (h : IfsMounted dev.ifs) (itf : HidIf) (data : Buffer)
    (len : Nat) :
    usbdHidReportIn dev itf.index data len = usbdEpSend dev itf.inEpNum (.mem data) len := by
  obtain ⟨handle, hi, hep, hreq⟩ := h.getElem? itf
  rw [usbdHidReportIn, hi]
  simp only [hreq, hep]
  rw [if_neg (by simp)]

/-- The handle of an endpoint that has been given a report. -/
def UsbEp.reporting (ep : UsbEp) (bytes : List U8) : UsbEp :=
  { ep with
    state := .data
    data := .mem (.ofList bytes .zero)
    progress := 0
    length := bytes.length }

/-- A report is sent when the endpoint is idle. -/
theorem Allocated.reportIn_idle {dev : UsbDevice} (h : Allocated dev) (itf : HidIf) {bytes : List U8}
    (hlen : bytes.length ≤ itf.reportSize) (hidle : (dev.epIn itf.epNum).state = .idle) :
    usbdHidReportIn dev itf.index (.ofList bytes .zero) bytes.length =
      (.ok, sendReport dev itf ((dev.epIn itf.epNum).reporting bytes) bytes) := by
  have hnum : (itf.inEpNum &&& 0xF).toNat = itf.epNum := by cases itf <;> rfl
  have hdata : Settled dev (dev.setIn itf.epNum { dev.epIn itf.epNum with state := .data }) :=
    settled_setIn rfl rfl rfl rfl
  have hsend := (hdata h).1.epSend_report itf (.mem (.ofList bytes .zero)) hlen
  rw [UsbDevice.setIn_self, UsbDevice.setIn_setIn] at hsend
  rw [reportIn_eq_epSend h.tables.ifs, usbdEpSend, hnum, if_pos (.inl hidle), hsend]
  rfl

/-- Else it is refused and nothing changes. -/
theorem Allocated.reportIn_busy {dev : UsbDevice} (h : Allocated dev) (itf : HidIf) (bytes : List U8)
    (hidle : (dev.epIn itf.epNum).state ≠ .idle) :
    usbdHidReportIn dev itf.index (.ofList bytes .zero) bytes.length = (.busy, dev) := by
  have hnum : (itf.inEpNum &&& 0xF).toNat = itf.epNum := by cases itf <;> rfl
  have htype : (dev.epIn itf.epNum).type = .interrupt := (h.tables.report itf).type
  rw [reportIn_eq_epSend h.tables.ifs, usbdEpSend, hnum, if_neg]
  simp [hidle, htype]

/-- A call of `USBD_HID_ReportIn` for a mounted interface. -/
theorem Allocated.reportIn {dev : UsbDevice} (h : Allocated dev) (itf : HidIf) {bytes : List U8}
    (hlen : bytes.length ≤ itf.reportSize) :
    if (dev.epIn itf.epNum).state = .idle then
      ∃ ep, SentEp itf ep ∧ usbdHidReportIn dev itf.index (.ofList bytes .zero) bytes.length =
        (.ok, sendReport dev itf ep bytes)
    else usbdHidReportIn dev itf.index (.ofList bytes .zero) bytes.length = (.busy, dev) := by
  obtain ⟨hm, ht, hr⟩ := h.tables.report itf
  split
  · have hsent : SentEp itf ((dev.epIn itf.epNum).reporting bytes) := ⟨⟨hm, ht, hr⟩, rfl, rfl⟩
    exact ⟨_, hsent, h.reportIn_idle itf hlen ‹_›⟩
  · exact h.reportIn_busy itf bytes ‹_›

/-- A report of something that is no interface is refused. -/
theorem reportIn_of_no_interface {dev : UsbDevice} (h : IfsMounted dev.ifs) {i : Nat}
    (hi : ∀ itf : HidIf, i ≠ itf.index) (data : Buffer) (len : Nat) :
    usbdHidReportIn dev i data len = (.error, dev) := by
  rw [usbdHidReportIn]
  split
  · rename_i handle hhandle
    obtain ⟨kind, hkind, -⟩ := h.cases hhandle
    exact absurd hkind (hi kind)
  · rfl

end PikvmHid
