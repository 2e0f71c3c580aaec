import PikvmHid.Spec.UsbReports
import Mathlib.Tactic.SplitIfs

/-!
# `PikvmHid.Proofs.UsbFrame`: what the control endpoint leaves alone

After the first bus reset the registers and the packet memory are allocated for good:
register 0 and the bytes 48 to 111 are the control endpoint's, register 1 and the bytes from
112 the mouse's, register 2 and the bytes from 118 the keyboard's. `Allocated` says so, together
with what follows for the registers. It holds from then on.

* `UsbFramed`: a change that keeps `Allocated` and touches neither report pipe. All of the control
  transfer machinery is framed.
* `Settled`: a change that keeps `Allocated` and the packets in both report buffers, and makes
  no report endpoint `VALID`. Opening, closing and halting are settled too.
-/

set_option autoImplicit false

namespace PikvmHid

namespace HidIf

/-- The register of the endpoint. -/
def regId : HidIf → Nat
  | .hidKbIf => 2
  | .hidMsIf => 1

/-- The address of its buffer. -/
def pmaAddress : HidIf → Nat
  | .hidKbIf => 118
  | .hidMsIf => 112

/-- No report endpoint is the control endpoint. -/
theorem epNum_ne_zero (itf : HidIf) : itf.epNum ≠ 0 := by cases itf <;> decide

/-- The control endpoint is no report endpoint. -/
theorem zero_ne_epNum (itf : HidIf) : 0 ≠ itf.epNum := Ne.symm itf.epNum_ne_zero

/-- Nor does one share its register. -/
theorem regId_ne_zero (itf : HidIf) : itf.regId ≠ 0 := by cases itf <;> decide

/-- The two report endpoints have different numbers. -/
theorem epNum_inj {a b : HidIf} (h : a.epNum = b.epNum) : a = b := by
  cases a <;> cases b <;> first | rfl | exact absurd h (by decide)

/-- And different registers. -/
theorem regId_inj {a b : HidIf} (h : a.regId = b.regId) : a = b := by
  cases a <;> cases b <;> first | rfl | exact absurd h (by decide)

end HidIf

/-! ### The allocation as an invariant -/

/-- The part of an endpoint handle that is set up once. -/
structure UsbEp.Is (ep : UsbEp) (maxPacketSize : Nat) (type : EpType) (regId : Nat) : Prop where
  maxPacketSize : ep.maxPacketSize = maxPacketSize
  type : ep.type = type
  regId : ep.regId = regId

/-- The packet size of an endpoint that no interface uses. -/
def ctrlMps (n : Nat) : Nat := if n = 0 then USBD_EP0_MAX_PACKET_SIZE else 0

/-- The keyboard and the mouse are mounted, and neither answers `GET_REPORT` now. -/
def IfsMounted (ifs : List HidIfHandle) : Prop :=
  ifs.map (fun itf => (itf.app, itf.inEpNum, itf.request)) =
    [(hidKbApp, 0x87, 0), (hidMsApp, 0x85, 0)]

/-- The interfaces and the endpoint tables. A report is one packet, so no more is to come of a
transfer. -/
structure Tables (dev : UsbDevice) : Prop where
  ifs : IfsMounted dev.ifs
  report : ∀ itf : HidIf, (dev.epIn itf.epNum).Is itf.reportSize .interrupt itf.regId
  progress : ∀ itf : HidIf, (dev.epIn itf.epNum).progress = 0
  inRest : ∀ n, (∀ itf : HidIf, n ≠ itf.epNum) → (dev.epIn n).Is (ctrlMps n) .control 0
  out : ∀ n, (dev.epOut n).Is (ctrlMps n) .control 0

/-- The packets of the control endpoint stay in its buffer. -/
structure CtrlBuffer (p : Pma) : Prop where
  capacity : rxCapacity (p (bdtRxCount 0)) ≤ 64
  rxCount : (p (bdtRxCount 0) &&& 0x3FF).toNat ≤ 64
  txCount : (p (bdtTxCount 0) &&& 0x3FF).toNat ≤ 64

/-- The buffer descriptor table. -/
structure Layout (p : Pma) : Prop extends CtrlBuffer p where
  txAddr : p (bdtTxAddr 0) = 48
  rxAddr : p (bdtRxAddr 0) = 48
  report : ∀ itf : HidIf, p (bdtTxAddr itf.regId) = .ofNat 16 itf.pmaAddress

/-- The endpoint registers. An address field is that of the endpoint, or zero after a bus reset;
the report endpoints receive nothing. -/
structure Registers (epr : Nat → U16) : Prop where
  ctrl : (eprFields (epr 0)).ea = 0
  addr : ∀ itf : HidIf, (eprFields (epr itf.regId)).ea = 0 ∨
    (eprFields (epr itf.regId)).ea = .ofNat 4 itf.epNum
  rx : ∀ itf : HidIf, (eprHalf .rx (epr itf.regId)).stat = .dis ∧
    (eprHalf .rx (epr itf.regId)).ctr = false
  rest : ∀ r, 3 ≤ r → epr r = 0

/-- Registers and packet memory are allocated. -/
structure Allocated (dev : UsbDevice) : Prop where
  tables : Tables dev
  layout : Layout dev.pma
  registers : Registers dev.epr

section
variable {p : Pma} (h : Layout p)
include h

/-- The control endpoint sends from byte 48 on. -/
theorem Layout.toNat_txAddr : (p (bdtTxAddr 0)).toNat = 48 := by
  rw [h.txAddr]
  rfl

/-- It receives there, too. -/
theorem Layout.toNat_rxAddr : (p (bdtRxAddr 0)).toNat = 48 := by
  rw [h.rxAddr]
  rfl

/-- A report endpoint has its own buffer. -/
theorem Layout.toNat_report (itf : HidIf) :
    (p (bdtTxAddr itf.regId)).toNat = itf.pmaAddress := by
  rw [h.report itf]
  cases itf <;> rfl

end

/-- The control register has the number of the control endpoint. -/
theorem Allocated.num_ctrl {dev : UsbDevice} (h : Allocated dev) :
    (dev.epr 0 &&& USB_EPADDR_FIELD).toNat = 0 := by
  rw [toNat_and_epaddr, h.registers.ctrl]
  rfl

/-! ### Changes -/

/-- The pipe of an interface is as it was. -/
structure Keeps (dev dev' : UsbDevice) (itf : HidIf) : Prop where
  ep : dev'.epIn itf.epNum = dev.epIn itf.epNum
  reg : dev'.epr itf.regId = dev.epr itf.regId
  packet : txPacket dev' itf.regId = txPacket dev itf.regId

/-- The pipe may be closed, but its packet is as it was, and it is not `VALID` unless it was. -/
structure Settles (dev dev' : UsbDevice) (itf : HidIf) : Prop where
  packet : txPacket dev' itf.regId = txPacket dev itf.regId
  valid : (eprHalf .tx (dev'.epr itf.regId)).stat = .valid →
    (eprHalf .tx (dev.epr itf.regId)).stat = .valid

/-- A device keeps its own pipes. -/
theorem Keeps.refl (dev : UsbDevice) (itf : HidIf) : Keeps dev dev itf := ⟨rfl, rfl, rfl⟩

/-- Kept pipes stay kept along a chain of changes. -/
theorem Keeps.trans {a b c : UsbDevice} {itf : HidIf} (h : Keeps a b itf) (h' : Keeps b c itf) :
    Keeps a c itf :=
  ⟨h'.ep.trans h.ep, h'.reg.trans h.reg, h'.packet.trans h.packet⟩

/-- A pipe that is kept is settled. -/
theorem Keeps.settles {a b : UsbDevice} {itf : HidIf} (h : Keeps a b itf) : Settles a b itf :=
  ⟨h.packet, fun hv => h.reg ▸ hv⟩

/-- Settling composes. -/
theorem Settles.trans {a b c : UsbDevice} {itf : HidIf} (h : Settles a b itf)
    (h' : Settles b c itf) : Settles a c itf :=
  ⟨h'.packet.trans h.packet, fun hv => h.valid (h'.valid hv)⟩

/-- A change that keeps the allocation and both report pipes. -/
def UsbFramed (dev dev' : UsbDevice) : Prop :=
  Allocated dev → Allocated dev' ∧ ∀ itf, Keeps dev dev' itf

/-- A change that keeps the allocation and sends nothing on a report pipe. -/
def Settled (dev dev' : UsbDevice) : Prop :=
  Allocated dev → Allocated dev' ∧ ∀ itf, Settles dev dev' itf

/-- No change is a framed one. -/
theorem UsbFramed.refl (dev : UsbDevice) : UsbFramed dev dev := fun h => ⟨h, Keeps.refl dev⟩

/-- A framed change settles every pipe. -/
theorem UsbFramed.settled {a b : UsbDevice} (h : UsbFramed a b) : Settled a b :=
  fun ha => ⟨(h ha).1, fun itf => ((h ha).2 itf).settles⟩

/-- No change settles every pipe. -/
theorem Settled.refl (dev : UsbDevice) : Settled dev dev := (UsbFramed.refl dev).settled

/-- Changes compose, the last one first. -/
theorem UsbFramed.after {a b c : UsbDevice} (h' : UsbFramed b c) (h : UsbFramed a b) :
    UsbFramed a c := by
  intro ha
  have hb := h ha
  have hc := h' hb.1
  exact ⟨hc.1, fun itf => (hb.2 itf).trans (hc.2 itf)⟩

/-- Settled changes compose. -/
theorem Settled.after {a b c : UsbDevice} (h' : Settled b c) (h : Settled a b) : Settled a c := by
  intro ha
  have hb := h ha
  have hc := h' hb.1
  exact ⟨hc.1, fun itf => (hb.2 itf).trans (hc.2 itf)⟩

/-! ### One store -/

/-- What an endpoint was allocated depends on three of its fields only. -/
theorem UsbEp.Is.mk' {ep ep' : UsbEp} {mps : Nat} {type : EpType} {regId : Nat}
    (h : ep.Is mps type regId) (hm : ep'.maxPacketSize = ep.maxPacketSize) (ht : ep'.type = ep.type)
    (hr : ep'.regId = ep.regId) : ep'.Is mps type regId :=
  ⟨hm.trans h.maxPacketSize, ht.trans h.type, hr.trans h.regId⟩

/-- Nothing of the tables, the packet memory or the registers changes. -/
theorem framed_of_eq {dev dev' : UsbDevice} (hifs : IfsMounted dev.ifs → IfsMounted dev'.ifs)
    (hin : dev'.epIn = dev.epIn) (hout : dev'.epOut = dev.epOut) (hepr : dev'.epr = dev.epr)
    (hpma : dev'.pma = dev.pma) : UsbFramed dev dev' := by
  intro h
  refine ⟨⟨⟨hifs h.tables.ifs, ?_, ?_, ?_, ?_⟩, hpma ▸ h.layout, hepr ▸ h.registers⟩, ?_⟩
  · exact hin ▸ h.tables.report
  · exact hin ▸ h.tables.progress
  · exact hin ▸ h.tables.inRest
  · exact hout ▸ h.tables.out
  · intro itf
    exact ⟨by rw [hin], by rw [hepr], by rw [txPacket, txPacket, hpma]⟩

/-- A change of the handles and of control state leaves the pipes settled. -/
theorem settled_of_eq {dev dev' : UsbDevice} (hifs : IfsMounted dev.ifs → IfsMounted dev'.ifs)
    (hin : dev'.epIn = dev.epIn) (hout : dev'.epOut = dev.epOut) (hepr : dev'.epr = dev.epr)
    (hpma : dev'.pma = dev.pma) : Settled dev dev' :=
  (framed_of_eq hifs hin hout hepr hpma).settled

/-- The control IN endpoint, its set-up unchanged. -/
theorem framed_setIn0 {dev : UsbDevice} {ep : UsbEp}
    (hm : ep.maxPacketSize = (dev.epIn 0).maxPacketSize) (ht : ep.type = (dev.epIn 0).type)
    (hr : ep.regId = (dev.epIn 0).regId) : UsbFramed dev (dev.setIn 0 ep) := by
  intro h
  have hne : ∀ itf : HidIf, (dev.setIn 0 ep).epIn itf.epNum = dev.epIn itf.epNum := fun itf =>
    dev.setIn_of_ne itf.epNum_ne_zero ep
  refine ⟨⟨⟨h.tables.ifs, ?_, ?_, ?_, h.tables.out⟩, h.layout, h.registers⟩, ?_⟩
  · intro itf
    rw [hne]
    exact h.tables.report itf
  · intro itf
    rw [hne]
    exact h.tables.progress itf
  · intro n hn
    by_cases h0 : n = 0
    · subst h0
      rw [dev.setIn_self]
      exact (h.tables.inRest 0 hn).mk' hm ht hr
    · rw [dev.setIn_of_ne h0]
      exact h.tables.inRest n hn
  · intro itf
    exact ⟨hne itf, rfl, rfl⟩

/-- An OUT endpoint, its set-up unchanged. -/
theorem framed_setOut {dev : UsbDevice} {n : Nat} {ep : UsbEp}
    (hm : ep.maxPacketSize = (dev.epOut n).maxPacketSize) (ht : ep.type = (dev.epOut n).type)
    (hr : ep.regId = (dev.epOut n).regId) : UsbFramed dev (dev.setOut n ep) := by
  intro h
  refine ⟨⟨⟨h.tables.ifs, h.tables.report, h.tables.progress, h.tables.inRest, ?_⟩, h.layout,
    h.registers⟩, fun itf => ⟨rfl, rfl, rfl⟩⟩
  intro m
  by_cases hmn : m = n
  · subst hmn
    rw [dev.setOut_self]
    exact (h.tables.out m).mk' hm ht hr
  · rw [dev.setOut_of_ne hmn]
    exact h.tables.out m

/-- The control register, its address kept. -/
theorem framed_setEpr0 {dev : UsbDevice} {f : U16 → U16}
    (hf : ∀ e, (eprFields e).ea = 0 → (eprFields (f e)).ea = 0) : UsbFramed dev (dev.setEpr 0 f) := by
  intro h
  have hne : ∀ r, r ≠ 0 → (dev.setEpr 0 f).epr r = dev.epr r := fun r hr =>
    dev.setEpr_of_ne hr f
  refine ⟨⟨⟨h.tables.ifs, h.tables.report, h.tables.progress, h.tables.inRest, h.tables.out⟩,
    h.layout, ⟨?_, ?_, ?_, ?_⟩⟩, fun itf => ⟨rfl, hne _ itf.regId_ne_zero, rfl⟩⟩
  · rw [dev.setEpr_self]
    exact hf _ h.registers.ctrl
  · intro itf
    rw [hne _ itf.regId_ne_zero]
    exact h.registers.addr itf
  · intro itf
    rw [hne _ itf.regId_ne_zero]
    exact h.registers.rx itf
  · intro r hr
    rw [hne _ (by omega)]
    exact h.registers.rest r hr

/-- `USB_EP_STATUS_SET` on the control register is framed. -/
theorem framed_setStatus0 (dev : UsbDevice) (d : EpHalf) (s : EpStatus) :
    UsbFramed dev (dev.setEpr 0 (setStatus d s)) :=
  framed_setEpr0 fun e he => (ea_setStatus d s e).trans he

/-- `USB_TOGGLE_CLEAR` on it is. -/
theorem framed_toggleClear0 (dev : UsbDevice) (d : EpHalf) :
    UsbFramed dev (dev.setEpr 0 (toggleClear d)) :=
  framed_setEpr0 fun e he => (ea_toggleClear d e).trans he

/-- `USB_EP_FLAG_CLEAR` on it is. -/
theorem framed_flagClear0 (dev : UsbDevice) (d : EpHalf) :
    UsbFramed dev (dev.setEpr 0 (flagClear d)) :=
  framed_setEpr0 fun e he => (ea_flagClear d e).trans he

/-- A length of at most 64 fits the count field. -/
theorem toNat_count {n : Nat} (hn : n ≤ 64) : (BitVec.ofNat 16 n &&& 0x3FF).toNat = n := by
  rw [BitVec.toNat_and, BitVec.toNat_ofNat, Nat.mod_eq_of_lt (by omega)]
  exact (Nat.and_two_pow_sub_one_eq_mod n 10).trans (Nat.mod_eq_of_lt (by omega))

/-- The count that a received packet leaves. -/
theorem toNat_rxCount (w : U16) {n : Nat} (hn : n ≤ 64) :
    (((w &&& 0xFC00) ||| .ofNat 16 n) &&& 0x3FF).toNat = n := by
  have hmask : ((w &&& 0xFC00) ||| .ofNat 16 n) &&& 0x3FF = .ofNat 16 n &&& (0x3FF : U16) := by
    apply BitVec.eq_of_getLsbD_eq
    intro i hi
    interval_cases i <;> simp
  rw [hmask, toNat_count hn]

/-- A receive buffer of the control endpoint stays inside its 64 bytes. -/
theorem capacity_convertRxCount_le {n : Nat} (h : n ≤ 64) :
    rxCapacity (usbPrvConvertRxCount n) ≤ 64 := by
  rw [rxCapacity_convertRxCount (by omega)]
  split <;> omega

/-- Its count starts at zero. -/
theorem toNat_convertRxCount {n : Nat} (h : n ≤ 64) :
    (usbPrvConvertRxCount n &&& 0x3FF).toNat = 0 := by
  interval_cases n <;> decide

/-- The room for the next packet is told to the peripheral. -/
theorem CtrlBuffer.set_rxCount {p : Pma} (h : CtrlBuffer p) {n : Nat} (hn : n ≤ 64) :
    CtrlBuffer (p.set (bdtRxCount 0) (usbPrvConvertRxCount n)) := by
  refine ⟨?_, ?_, ?_⟩
  · rw [Pma.set_self]
    exact capacity_convertRxCount_le hn
  · rw [Pma.set_self, toNat_convertRxCount hn]
    exact Nat.zero_le 64
  · rw [Pma.set_of_ne _ (by decide)]
    exact h.txCount

/-- The length of the packet to send is. -/
theorem CtrlBuffer.set_txCount {p : Pma} (h : CtrlBuffer p) {n : Nat} (hn : n ≤ 64) :
    CtrlBuffer (p.set (bdtTxCount 0) (.ofNat 16 n)) := by
  refine ⟨?_, ?_, ?_⟩
  · rw [Pma.set_of_ne _ (by decide)]
    exact h.capacity
  · rw [Pma.set_of_ne _ (by decide)]
    exact h.rxCount
  · rw [Pma.set_self, toNat_count hn]
    exact hn

/-- A packet in the buffer leaves the table. -/
theorem CtrlBuffer.writePMA {p : Pma} (h : CtrlBuffer p) (src : Buffer) (n : Nat) :
    CtrlBuffer (usbPrvWritePMA src 48 n p) := by
  have hsame : ∀ i, i < 24 → usbPrvWritePMA src 48 n p i = p i := fun i hi =>
    writePMA_of_not_mem _ _ _ _ (.inl hi)
  refine ⟨?_, ?_, ?_⟩
  · rw [hsame _ (by decide)]
    exact h.capacity
  · rw [hsame _ (by decide)]
    exact h.rxCount
  · rw [hsame _ (by decide)]
    exact h.txCount

/-- The packet memory, where only the counts of the control endpoint and its buffer change. -/
theorem framed_setPma {dev : UsbDevice} {f : Pma → Pma}
    (hf : Layout dev.pma →
      (∀ i, i ≠ bdtTxCount 0 → i ≠ bdtRxCount 0 → i < 24 ∨ 56 ≤ i → f dev.pma i = dev.pma i) ∧
        CtrlBuffer (f dev.pma)) : UsbFramed dev (dev.setPma f) := by
  intro h
  obtain ⟨hsame, hbuffer⟩ := hf h.layout
  have hbdt : ∀ itf : HidIf, f dev.pma (bdtTxAddr itf.regId) = dev.pma (bdtTxAddr itf.regId) := by
    intro itf
    apply hsame <;> cases itf <;> decide
  have hcount : ∀ itf : HidIf, f dev.pma (bdtTxCount itf.regId) = dev.pma (bdtTxCount itf.regId) := by
    intro itf
    apply hsame <;> cases itf <;> decide
  refine ⟨⟨⟨h.tables.ifs, h.tables.report, h.tables.progress, h.tables.inRest, h.tables.out⟩,
    ⟨hbuffer, ?_, ?_, ?_⟩, h.registers⟩, ?_⟩
  · exact (hsame _ (by decide) (by decide) (by decide)).trans h.layout.txAddr
  · exact (hsame _ (by decide) (by decide) (by decide)).trans h.layout.rxAddr
  · intro itf
    exact (hbdt itf).trans (h.layout.report itf)
  · intro itf
    refine ⟨rfl, rfl, ?_⟩
    rw [txPacket, txPacket]
    show (f dev.pma).packet (f dev.pma (bdtTxAddr itf.regId)).toNat
      (f dev.pma (bdtTxCount itf.regId) &&& 0x3FF).toNat = _
    rw [hbdt, hcount, h.layout.report itf]
    -- The buffers of the reports lie behind those of the control endpoint.
    apply Pma.packet_congr
    intro b hb _
    have h112 : 112 ≤ b := by
      cases itf <;> simp [HidIf.pmaAddress] at hb <;> omega
    rw [Pma.byte, Pma.byte, hsame _ (by simp [bdtTxCount]; omega) (by simp [bdtRxCount]; omega)
      (by omega)]

/-! ### Control transfers -/

/-- `USB_prvNextPacketSize` leaves what the endpoint was allocated. -/
theorem nextPacketSize_is (ep : UsbEp) :
    (usbPrvNextPacketSize ep).2.maxPacketSize = ep.maxPacketSize ∧
      (usbPrvNextPacketSize ep).2.type = ep.type ∧ (usbPrvNextPacketSize ep).2.regId = ep.regId := by
  rw [usbPrvNextPacketSize]
  split <;> exact ⟨rfl, rfl, rfl⟩

/-- The next packet is no longer than the endpoint allows. -/
theorem nextPacketSize_le (ep : UsbEp) : (usbPrvNextPacketSize ep).1 ≤ ep.maxPacketSize := by
  rw [usbPrvNextPacketSize]
  split
  · exact Nat.le_refl _
  · rename_i hlast
    exact Nat.le_of_not_lt hlast

/-- A control packet has 64 bytes at most. -/
theorem ctrlMps_le (n : Nat) : ctrlMps n ≤ 64 := by
  rw [ctrlMps]
  split <;> decide

/-- `USB_prvReceivePacket` is framed: report endpoints are IN endpoints. -/
theorem framed_receivePacket (dev : UsbDevice) (n : Nat) :
    UsbFramed dev (usbPrvReceivePacket dev n) := by
  intro h
  obtain ⟨hm, ht, hr⟩ := nextPacketSize_is (dev.epOut n)
  have hreg : (usbPrvNextPacketSize (dev.epOut n)).2.regId = 0 := hr.trans (h.tables.out n).regId
  have hlen : (usbPrvNextPacketSize (dev.epOut n)).1 ≤ 64 :=
    (nextPacketSize_le _).trans ((h.tables.out n).maxPacketSize ▸ ctrlMps_le n)
  suffices hf : UsbFramed dev (usbPrvReceivePacket dev n) from hf h
  simp only [usbPrvReceivePacket, hreg]
  refine UsbFramed.after (framed_setStatus0 _ .rx .valid)
    (UsbFramed.after (framed_setPma ?_) (framed_setOut hm ht hr))
  intro hp
  exact ⟨fun i _ hi _ => Pma.set_of_ne _ hi _, hp.set_rxCount hlen⟩

/-- Sending a packet on the control endpoint is framed. -/
theorem framed_transmitPacket0 (dev : UsbDevice) : UsbFramed dev (usbPrvTransmitPacket dev 0) := by
  intro h
  have h0 := h.tables.inRest 0 HidIf.zero_ne_epNum
  obtain ⟨hm, ht, hr⟩ := nextPacketSize_is (dev.epIn 0)
  have hreg : (usbPrvNextPacketSize (dev.epIn 0)).2.regId = 0 := hr.trans h0.regId
  have hlen : (usbPrvNextPacketSize (dev.epIn 0)).1 ≤ 64 :=
    (nextPacketSize_le _).trans (h0.maxPacketSize ▸ ctrlMps_le 0)
  have haddr : (dev.pma (bdtTxAddr 0)).toNat = 48 := h.layout.toNat_txAddr
  suffices hf : UsbFramed dev (usbPrvTransmitPacket dev 0) from hf h
  simp only [usbPrvTransmitPacket, hreg, haddr]
  refine UsbFramed.after (framed_setStatus0 _ .tx .valid)
    (UsbFramed.after (framed_setPma ?_) (framed_setIn0 hm ht hr))
  intro hp
  refine ⟨fun i hi _ hbuf => ?_, (hp.set_txCount hlen).writePMA _ _⟩
  rw [writePMA_of_not_mem _ _ _ _ (by omega), Pma.set_of_ne _ hi]

/-- So is beginning a transfer on it. -/
theorem framed_epSend0 (dev : UsbDevice) (data : DataPtr) (length : Nat) :
    UsbFramed dev (usbVEpSend dev 0x80 data length) := by
  rw [usbVEpSend]
  exact (framed_transmitPacket0 _).after (framed_setIn0 rfl rfl rfl)

/-- Receiving is, on any endpoint. -/
theorem framed_epReceive (dev : UsbDevice) (epAddr : U8) (data : DataPtr) (length : Nat) :
    UsbFramed dev (usbVEpReceive dev epAddr data length) := by
  rw [usbVEpReceive]
  exact (framed_receivePacket _ _).after (framed_setOut rfl rfl rfl)

/-- The control endpoint is halted. -/
theorem framed_setStall0 (dev : UsbDevice) (epAddr : U8) (h : epIndex epAddr = 0) :
    UsbFramed dev (usbVEpSetStall dev epAddr) := by
  intro ha
  have hreg : (dev.ep epAddr).regId = 0 := by
    rw [UsbDevice.ep, h]
    split
    · exact (ha.tables.inRest 0 HidIf.zero_ne_epNum).regId
    · exact (ha.tables.out 0).regId
  rw [usbVEpSetStall, hreg]
  exact framed_setStatus0 _ _ _ ha

/-- Stalling the control endpoint is framed. -/
theorem framed_ctrlSendError (dev : UsbDevice) : UsbFramed dev (usbdCtrlSendError dev) := by
  rw [usbdCtrlSendError]
  refine UsbFramed.after (framed_setOut rfl rfl rfl) ?_
  refine UsbFramed.after (framed_setStall0 _ 0x00 (by decide)) ?_
  refine UsbFramed.after (framed_setIn0 rfl rfl rfl) ?_
  exact framed_setStall0 dev 0x80 (by decide)

/-- So is the status stage of a write. -/
theorem framed_ctrlSendStatus (dev : UsbDevice) : UsbFramed dev (usbdCtrlSendStatus dev) := by
  rw [usbdCtrlSendStatus]
  exact (framed_epSend0 _ _ _).after (framed_setIn0 rfl rfl rfl)

/-- So is the status stage of a read. -/
theorem framed_ctrlReceiveStatus (dev : UsbDevice) : UsbFramed dev (usbdCtrlReceiveStatus dev) := by
  rw [usbdCtrlReceiveStatus]
  exact (framed_epReceive _ _ _ _).after (framed_setOut rfl rfl rfl)

/-- So is the data stage of a read. -/
theorem framed_ctrlSendData (dev : UsbDevice) (data : DataPtr) (len : Nat) :
    UsbFramed dev (usbdCtrlSendData dev data len).2 := by
  rw [usbdCtrlSendData]
  split
  · exact (framed_epSend0 _ _ _).after (framed_setIn0 rfl rfl rfl)
  · exact UsbFramed.refl dev

/-- So is the data stage of a write. -/
theorem framed_ctrlReceiveData (dev : UsbDevice) (data : DataPtr) :
    UsbFramed dev (usbdCtrlReceiveData dev data).2 := by
  rw [usbdCtrlReceiveData]
  split
  · exact (framed_epReceive _ _ _ _).after (framed_setOut rfl rfl rfl)
  · exact UsbFramed.refl dev

/-- So is a store to `CtrlData`. -/
theorem framed_setCtrl (dev : UsbDevice) (bytes : List U8) : UsbFramed dev (dev.setCtrl bytes) :=
  framed_of_eq id rfl rfl rfl rfl

/-- An interface handle, its application and its endpoint kept. -/
theorem framed_modifyIf (dev : UsbDevice) (i : Nat) {f : HidIfHandle → HidIfHandle}
    (hf : ∀ itf, (f itf).app = itf.app ∧ (f itf).inEpNum = itf.inEpNum ∧
      (itf.request = 0 → (f itf).request = 0)) :
    UsbFramed dev (dev.modifyIf i f) := by
  refine framed_of_eq (fun h => ?_) rfl rfl rfl rfl
  have hreq : ∀ itf ∈ dev.ifs, itf.request = 0 := by
    intro itf hmem
    have hmap :=
      List.mem_map_of_mem (f := fun itf : HidIfHandle => (itf.app, itf.inEpNum, itf.request)) hmem
    rw [h] at hmap
    simp only [List.mem_cons, Prod.mk.injEq, List.not_mem_nil, or_false] at hmap
    rcases hmap with hmap | hmap <;> exact hmap.2.2
  refine Eq.trans ?_ h
  show (dev.ifs.modify i f).map _ = _
  refine List.ext_getElem (by simp) fun j _ hj => ?_
  have hj0 := hreq _ (List.getElem_mem (by simpa using hj))
  by_cases hij : i = j
  · simp [hij, hf, hj0]
  · simp [hij]

/-- A change of an interface handle settles the pipes, if it keeps the endpoint and makes no
request. -/
theorem settled_modifyIf (dev : UsbDevice) (i : Nat) {f : HidIfHandle → HidIfHandle}
    (hf : ∀ itf, (f itf).app = itf.app ∧ (f itf).inEpNum = itf.inEpNum ∧
      (itf.request = 0 → (f itf).request = 0)) :
    Settled dev (dev.modifyIf i f) :=
  (framed_modifyIf dev i hf).settled

/-- Data sent from `CtrlData`. -/
theorem framed_sendCtrl (dev : UsbDevice) (bytes : List U8) (len : Nat) :
    UsbFramed dev (usbdCtrlSendData (dev.setCtrl bytes) (.ctrlData 0) len).2 :=
  (framed_ctrlSendData _ _ _).after (framed_setCtrl dev bytes)

/-! ### Requests that stay on the control endpoint -/

/-- A class request is framed. -/
theorem framed_hidSetupStage (dev : UsbDevice) (i : Nat) (itf : HidIfHandle) :
    UsbFramed dev (hidSetupStage dev i itf).2 := by
  rw [hidSetupStage]
  split
  · rw [hidSetupStage.standard]
    split
    · split
      · exact framed_sendCtrl dev _ _
      · split
        · exact framed_ctrlSendData dev _ _
        · exact UsbFramed.refl dev
    · exact UsbFramed.refl dev
  · split
    · rw [hidSetupStage.class]
      split
      · exact framed_modifyIf dev i fun _ => ⟨rfl, rfl, fun _ => rfl⟩
      · split
        · exact framed_ctrlReceiveData dev _
        · split
          · exact framed_sendCtrl dev _ _
          · split
            · split
              · exact framed_modifyIf dev i fun _ => ⟨rfl, rfl, id⟩
              · exact UsbFramed.refl dev
            · exact UsbFramed.refl dev
    · exact UsbFramed.refl dev

/-- So is the end of its data stage. -/
theorem framed_hidDataStage (dev : UsbDevice) (i : Nat) : UsbFramed dev (hidDataStage dev i) := by
  rw [hidDataStage]
  split
  · exact framed_modifyIf dev i fun _ => ⟨rfl, rfl, fun _ => rfl⟩
  · exact UsbFramed.refl dev

/-- So is `GET_DESCRIPTOR`. -/
theorem framed_getDescriptor (dev : UsbDevice) : UsbFramed dev (usbdGetDescriptor dev).2 := by
  rw [usbdGetDescriptor]
  split
  · exact framed_sendCtrl dev _ _
  · split
    · exact framed_sendCtrl dev _ _
    · split
      · split
        · exact framed_ctrlSendData dev _ _
        · split
          · exact framed_sendCtrl dev _ _
          · exact UsbFramed.refl dev
      · exact UsbFramed.refl dev

/-- Device requests other than `SET_CONFIGURATION`. -/
theorem framed_devRequest {dev : UsbDevice}
    (h : ¬ (dev.setup.type = USB_REQ_TYPE_STANDARD ∧ dev.setup.request = USB_REQ_SET_CONFIGURATION)) :
    UsbFramed dev (usbdDevRequest dev).2 := by
  have hfeature : ∀ remoteWakeup, UsbFramed dev (usbdFeature remoteWakeup dev).2 := by
    intro remoteWakeup
    rw [usbdFeature]
    split
    · exact framed_of_eq id rfl rfl rfl rfl
    · exact UsbFramed.refl dev
  rw [usbdDevRequest]
  split_ifs with htype hdesc haddr hconfig hget hstatus hset hclear
  · exact framed_getDescriptor dev
  · exact UsbFramed.refl dev
  · exact absurd ⟨htype, hconfig⟩ h
  · exact framed_sendCtrl dev _ _
  · exact framed_sendCtrl dev _ _
  · exact hfeature true
  · exact hfeature false
  · exact UsbFramed.refl dev
  · exact UsbFramed.refl dev

/-- Interface requests other than `SET_INTERFACE`. -/
theorem framed_ifRequest {dev : UsbDevice}
    (h : ¬ (dev.setup.type = USB_REQ_TYPE_STANDARD ∧ dev.setup.request = USB_REQ_SET_INTERFACE)) :
    UsbFramed dev (usbdIfRequest dev).2 := by
  rw [usbdIfRequest]
  dsimp only
  split
  · split_ifs with hconf htype hget hset
    · exact UsbFramed.refl dev
    · exact framed_ctrlSendData dev _ _
    · exact absurd ⟨htype, hset⟩ h
    · exact absurd ⟨htype, hset⟩ h
    · exact framed_hidSetupStage dev _ _
    · exact framed_hidSetupStage dev _ _
  · exact UsbFramed.refl dev

/-- Endpoint requests other than those of the halt feature. -/
theorem framed_epRequest {dev : UsbDevice}
    (h : ¬ (dev.setup.type = USB_REQ_TYPE_STANDARD ∧
      (dev.setup.request = USB_REQ_SET_FEATURE ∨ dev.setup.request = USB_REQ_CLEAR_FEATURE))) :
    UsbFramed dev (usbdEpRequest dev).2 := by
  rw [usbdEpRequest]
  dsimp only
  split
  · exact UsbFramed.refl dev
  · split
    · rename_i htype
      rw [if_neg fun hset => h ⟨htype, .inl hset⟩, if_neg fun hclear => h ⟨htype, .inr hclear⟩]
      split
      · exact framed_sendCtrl dev _ _
      · exact UsbFramed.refl dev
    · exact UsbFramed.refl dev

/-- A request that leaves the pipes as they are. -/
theorem framed_setupCallback {dev : UsbDevice} (h : ¬ dev.setup.Reconfigures) :
    UsbFramed dev (usbdSetupCallback dev) := by
  have hroute : ∀ dev' : UsbDevice, dev'.setup = dev.setup →
      UsbFramed dev' (usbdSetupCallback.route dev').2 := by
    intro dev' hsetup
    rw [← hsetup] at h
    rw [usbdSetupCallback.route]
    split_ifs with hdev hif hep
    · exact framed_devRequest fun hr => h ⟨hr.1, .inl ⟨hdev, hr.2⟩⟩
    · exact framed_ifRequest fun hr => h ⟨hr.1, .inr (.inl ⟨hif, hr.2⟩)⟩
    · exact framed_epRequest fun hr => h ⟨hr.1, .inr (.inr ⟨hep, hr.2⟩)⟩
    · exact UsbFramed.refl dev'
  have hstate : UsbFramed dev (dev.setOut 0 { dev.epOut 0 with state := .setup }) :=
    framed_setOut rfl rfl rfl
  have hserve :=
    UsbFramed.after (hroute (dev.setOut 0 { dev.epOut 0 with state := .setup }) rfl) hstate
  rw [usbdSetupCallback]
  dsimp only
  split
  · exact UsbFramed.after (framed_ctrlSendError _) hserve
  · split
    · exact UsbFramed.after (framed_ctrlSendStatus _) hserve
    · exact hserve

/-- The callback of a completed control IN transfer is framed. -/
theorem framed_ctrlInCallback (dev : UsbDevice) : UsbFramed dev (usbdCtrlInCallback dev) := by
  rw [usbdCtrlInCallback]
  split
  · exact framed_epSend0 dev _ _
  · have hidle : UsbFramed dev (dev.setIn 0 { dev.epIn 0 with state := .idle }) :=
      framed_setIn0 rfl rfl rfl
    refine UsbFramed.after ?_ hidle
    dsimp only
    split
    · split
      · exact (framed_ctrlReceiveStatus _).after (framed_hidDataStage _ _)
      · exact framed_ctrlReceiveStatus _
    · split
      · exact framed_of_eq id rfl rfl rfl rfl
      · exact UsbFramed.refl _

/-- That of a completed control OUT transfer is. -/
theorem framed_ctrlOutCallback (dev : UsbDevice) : UsbFramed dev (usbdCtrlOutCallback dev) := by
  rw [usbdCtrlOutCallback]
  split
  · refine (framed_ctrlSendStatus _).after ?_
    split
    · exact framed_hidDataStage dev _
    · exact UsbFramed.refl dev
  · exact UsbFramed.refl dev

/-- And that of any other OUT endpoint. -/
theorem framed_epOutCallback (dev : UsbDevice) (n : Nat) :
    UsbFramed dev (usbdEpOutCallback dev n) := by
  have hidle : UsbFramed dev (dev.setOut n { dev.epOut n with state := .idle }) :=
    framed_setOut rfl rfl rfl
  rw [usbdEpOutCallback]
  split
  · exact (framed_ctrlOutCallback _).after hidle
  · exact hidle

/-! ### The handler on the control endpoint -/

/-- The device on which the callback runs. -/
theorem framed_storeSetup (dev : UsbDevice) (req : SetupRequest) :
    UsbFramed dev { dev.setEpr 0 (flagClear .rx) with setup := req } := by
  have hstore : UsbFramed (dev.setEpr 0 (flagClear .rx))
      { dev.setEpr 0 (flagClear .rx) with setup := req } := framed_of_eq id rfl rfl rfl rfl
  exact UsbFramed.after hstore (framed_flagClear0 dev .rx)

/-- A SETUP packet that does not reconfigure is served on the control endpoint alone. -/
theorem framed_irq_setup {dev : UsbDevice} {epId : Nat}
    (h : ¬ (bufferedSetup dev epId).Reconfigures) :
    UsbFramed dev (usbVIRQHandler.setup dev epId) := by
  rw [usbVIRQHandler.setup]
  exact UsbFramed.after (framed_setupCallback h) (framed_storeSetup dev _)

/-- So is an OUT packet of the control register. -/
theorem framed_irq_out (dev : UsbDevice) (n : Nat) : UsbFramed dev (usbVIRQHandler.out dev 0 n) := by
  intro h
  have hmps : (dev.epOut n).maxPacketSize ≤ 64 := (h.tables.out n).maxPacketSize ▸ ctrlMps_le n
  have hflag := framed_flagClear0 dev .rx
  have hctrl : ∀ (dev' : UsbDevice) (ctrlData : Buffer),
      UsbFramed dev' { dev' with ctrlData := ctrlData } := fun _ _ => framed_of_eq id rfl rfl rfl rfl
  -- The packet is stored, and the endpoint made ready for the next one.
  suffices hf : UsbFramed dev (usbVIRQHandler.out dev 0 n) from hf h
  rw [usbVIRQHandler.out]
  dsimp only
  split
  · split
    · refine UsbFramed.after (framed_setStatus0 _ _ _) ?_
      refine UsbFramed.after
        (framed_setPma fun hp => ⟨fun i _ hi _ => Pma.set_of_ne _ hi _, hp.set_rxCount hmps⟩) ?_
      refine UsbFramed.after (framed_epOutCallback _ _) ?_
      exact UsbFramed.after (framed_setOut rfl rfl rfl) (UsbFramed.after (hctrl _ _) hflag)
    · refine UsbFramed.after (framed_epOutCallback _ _) ?_
      exact UsbFramed.after (framed_setOut rfl rfl rfl) (UsbFramed.after (hctrl _ _) hflag)
  · refine UsbFramed.after (framed_receivePacket _ _) ?_
    exact UsbFramed.after (framed_setOut rfl rfl rfl) (UsbFramed.after (hctrl _ _) hflag)

/-- So is a completed control IN transaction. -/
theorem framed_irq_in0 (dev : UsbDevice) : UsbFramed dev (usbVIRQHandler.in dev 0 0) := by
  have hflag := framed_flagClear0 dev .tx
  rw [usbVIRQHandler.in]
  split
  · rw [usbdEpInCallback, if_pos rfl]
    refine UsbFramed.after (framed_ctrlInCallback _) ?_
    exact UsbFramed.after (framed_setIn0 rfl rfl rfl) hflag
  · refine UsbFramed.after (framed_transmitPacket0 _) ?_
    exact UsbFramed.after (framed_setIn0 rfl rfl rfl) hflag

/-- A round of the control register, unless its request reconfigures. -/
theorem framed_irq_round0 {dev : UsbDevice}
    (h : dev.epr 0 &&& USB_EP_CTR_RX ≠ 0 → dev.epr 0 &&& USB_EP_SETUP ≠ 0 →
      ¬ (bufferedSetup dev 0).Reconfigures) : UsbFramed dev (usbVIRQHandler.round dev 0) := by
  intro ha
  have hnum : (dev.epr 0 &&& USB_EPADDR_FIELD).toNat = 0 := ha.num_ctrl
  have hrx : UsbFramed dev (if dev.epr 0 &&& USB_EP_CTR_RX ≠ 0 then
      if dev.epr 0 &&& USB_EP_SETUP ≠ 0 then usbVIRQHandler.setup dev 0
      else usbVIRQHandler.out dev 0 0 else dev) := by
    split_ifs with hflag hsetup
    · exact framed_irq_setup (h hflag hsetup)
    · exact framed_irq_out dev 0
    · exact UsbFramed.refl dev
  suffices hf : UsbFramed dev (usbVIRQHandler.round dev 0) from hf ha
  rw [usbVIRQHandler.round, hnum]
  split
  · exact UsbFramed.after (framed_irq_in0 _) hrx
  · exact hrx

end PikvmHid
