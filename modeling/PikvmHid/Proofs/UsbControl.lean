import PikvmHid.Lib.Refinement
import PikvmHid.Proofs.UsbPipes
import PikvmHid.Spec.UsbControl

/-!
# `PikvmHid.Proofs.UsbControl`: the host reads what the device has to say

The data stage of a control read refines the sender of `Lib.ToggleLink`, with the packets of the
transfer in its queue: the one in the buffer of the control endpoint, those that the handler will
still write, and the empty one at the end if `USBD_CtrlInCallback` will send it.
-/

set_option autoImplicit false

namespace PikvmHid

/-! ### What is still to come -/

/-- The count of the packet in the buffer of the control endpoint. -/
def txCount (dev : UsbDevice) : Nat := (dev.pma (bdtTxCount 0) &&& 0x3FF).toNat

/-- The closing empty packet. -/
def ctrlZlp (dev : UsbDevice) : List (List U8) := if usbdNeedsZlp dev then [[]] else []

/-- The packets after the one in the buffer. -/
def ctrlRest (dev : UsbDevice) : List (List U8) :=
  (if (dev.epIn 0).progress = 0 then []
    else Lib.packets 64
      ((((dev.epIn 0).data.add (txCount dev)).read dev.ctrlData).bytes (dev.epIn 0).progress)) ++
  ctrlZlp dev

/-- The packets that the host has not acknowledged. -/
def ctrlQueue (dev : UsbDevice) : List (List U8) :=
  if (eprHalf .tx (dev.epr 0)).stat = .valid then txPacket dev 0 :: ctrlRest dev
  else if (eprHalf .tx (dev.epr 0)).ctr then ctrlRest dev else []

/-- The sender that the control endpoint implements. -/
def ctrlSender (dev : UsbDevice) : Lib.ToggleLink.Sender (List U8) :=
  ⟨(eprHalf .tx (dev.epr 0)).dtog, ctrlQueue dev⟩

/-- The register of a pipe with an acknowledged packet has the number of its endpoint. -/
def Numbered (dev : UsbDevice) : Prop :=
  ∀ itf : HidIf, flag dev .tx itf.regId = true →
    (eprFields (dev.epr itf.regId)).ea = .ofNat 4 itf.epNum

/-- A device in a data stage to the host, or after it. -/
structure CtrlSending (dev : UsbDevice) : Prop where
  allocated : Allocated dev
  reset : dev.reset = false
  rx : flag dev .rx 0 = false
  open_ : (eprHalf .tx (dev.epr 0)).stat ≠ .dis
  valid : (eprHalf .tx (dev.epr 0)).stat = .valid → flag dev .tx 0 = false
  count : txCount dev ≤ 64
  numbered : Numbered dev

/-! ### A packet is written -/

/-- The endpoint handle of the control endpoint. -/
theorem Allocated.ctrlEp {dev : UsbDevice} (h : Allocated dev) :
    (dev.epIn 0).Is USBD_EP0_MAX_PACKET_SIZE .control 0 :=
  h.tables.inRest 0 HidIf.zero_ne_epNum

/-- An endpoint handle after `n` more bytes are handed to the peripheral. -/
def UsbEp.sent (ep : UsbEp) (n : Nat) : UsbEp := { ep with progress := ep.progress - n }

/-- `USB_prvNextPacketSize`. -/
theorem nextPacketSize_eq (ep : UsbEp) :
    usbPrvNextPacketSize ep =
      (min ep.progress ep.maxPacketSize, ep.sent (min ep.progress ep.maxPacketSize)) := by
  rw [usbPrvNextPacketSize, UsbEp.sent]
  by_cases hgt : ep.progress > ep.maxPacketSize
  · rw [if_pos hgt, Nat.min_eq_right (Nat.le_of_lt hgt)]
  · rw [if_neg hgt, Nat.min_eq_left (Nat.le_of_not_lt hgt), Nat.sub_self]

/-- The device after the next packet of a transfer is written. -/
def sendCtrl (dev : UsbDevice) (n : Nat) : UsbDevice :=
  ((dev.setIn 0 ((dev.epIn 0).sent n)).setPma fun p =>
    usbPrvWritePMA ((dev.epIn 0).data.read dev.ctrlData) 48 n
      (p.set (bdtTxCount 0) (.ofNat 16 n))).setEpr 0 (setStatus .tx .valid)

/-- `USB_prvTransmitPacket` on the control endpoint sends 64 bytes at most. -/
theorem Allocated.transmitPacket {dev : UsbDevice} (h : Allocated dev) :
    usbPrvTransmitPacket dev 0 = sendCtrl dev (min (dev.epIn 0).progress 64) := by
  have hep := h.ctrlEp
  have haddr : (dev.pma (bdtTxAddr 0)).toNat = 48 := h.layout.toNat_txAddr
  have hreg : ((dev.epIn 0).sent (min (dev.epIn 0).progress 64)).regId = 0 := hep.regId
  have hmps : (dev.epIn 0).maxPacketSize = 64 := hep.maxPacketSize
  rw [usbPrvTransmitPacket, nextPacketSize_eq, hmps]
  simp only [hreg, haddr, sendCtrl]
  rfl

section
variable (dev : UsbDevice) (n : Nat)

/-- What is left of the transfer after a packet. -/
theorem epIn_sendCtrl : (sendCtrl dev n).epIn 0 = (dev.epIn 0).sent n := dev.setIn_self 0 _

/-- The count of the packet is in its descriptor. -/
theorem pma_sendCtrl_count : (sendCtrl dev n).pma (bdtTxCount 0) = .ofNat 16 n := by
  show usbPrvWritePMA _ 48 n _ (bdtTxCount 0) = _
  rw [writePMA_of_not_mem _ _ _ _ (.inl (by decide)), Pma.set_self]

/-- The packet waits: the endpoint is `VALID`. -/
theorem tx_sendCtrl :
    eprHalf .tx ((sendCtrl dev n).epr 0) = { eprHalf .tx (dev.epr 0) with stat := .valid } := by
  rw [sendCtrl, UsbDevice.setEpr_self, eprHalf_setStatus, if_pos rfl]
  rfl

/-- A packet leaves whether an empty one is due. -/
theorem ctrlZlp_sendCtrl : ctrlZlp (sendCtrl dev n) = ctrlZlp dev := by
  rw [ctrlZlp, ctrlZlp, usbdNeedsZlp, usbdNeedsZlp, epIn_sendCtrl]
  rfl

/-- What follows the packet. -/
theorem data_sendCtrl :
    (((sendCtrl dev n).epIn 0).data.add n).read (sendCtrl dev n).ctrlData =
      ((dev.epIn 0).data.read dev.ctrlData).drop n := by
  rw [epIn_sendCtrl]
  exact DataPtr.read_add dev.ctrlData (dev.epIn 0).data n

end

/-- The hardware will send as many bytes as were stored. -/
theorem txCount_sendCtrl (dev : UsbDevice) {n : Nat} (hn : n ≤ 64) :
    txCount (sendCtrl dev n) = n := by
  rw [txCount, pma_sendCtrl_count, toNat_count hn]

/-- They are the next bytes of the source. -/
theorem Allocated.txPacket_sendCtrl {dev : UsbDevice} (h : Allocated dev) {n : Nat} (hn : n ≤ 64) :
    txPacket (sendCtrl dev n) 0 = ((dev.epIn 0).data.read dev.ctrlData).bytes n := by
  have haddr : ((sendCtrl dev n).pma (bdtTxAddr 0)).toNat = 48 := by
    show (usbPrvWritePMA _ 48 n (dev.pma.set (bdtTxCount 0) _) (bdtTxAddr 0)).toNat = 48
    rw [writePMA_of_not_mem _ _ _ _ (.inl (by decide)), Pma.set_of_ne _ (by decide), h.layout.txAddr]
    rfl
  rw [txPacket, haddr, pma_sendCtrl_count, toNat_count hn]
  exact packet_writePMA _ (by decide) n _

/-- The packets to come, once the next one is written: the rest of the transfer. -/
theorem Allocated.ctrlQueue_transmit {dev : UsbDevice} (h : Allocated dev) :
    ctrlQueue (usbPrvTransmitPacket dev 0) =
      Lib.packets 64 (((dev.epIn 0).data.read dev.ctrlData).bytes (dev.epIn 0).progress) ++
        ctrlZlp dev := by
  rw [h.transmitPacket]
  generalize hn : min (dev.epIn 0).progress 64 = n
  have hle : n ≤ 64 := hn ▸ Nat.min_le_right _ _
  have hvalid : (eprHalf .tx ((sendCtrl dev n).epr 0)).stat = .valid := by rw [tx_sendCtrl]
  have hleft : ((sendCtrl dev n).epIn 0).progress = (dev.epIn 0).progress - n := by
    rw [epIn_sendCtrl]
    rfl
  rw [ctrlQueue, if_pos hvalid, ctrlRest, txCount_sendCtrl dev hle, h.txPacket_sendCtrl hle,
    data_sendCtrl, ctrlZlp_sendCtrl, hleft, ← List.cons_append]
  congr 1
  generalize (dev.epIn 0).data.read dev.ctrlData = b
  by_cases hmore : 64 < (dev.epIn 0).progress
  · -- A full packet, and more of them.
    have hfull : n = 64 := by omega
    rw [if_neg (by omega), Lib.packets_of_gt (l := b.bytes (dev.epIn 0).progress) (by decide)
      (by rw [Buffer.length_bytes]; exact hmore), hfull, Buffer.take_bytes b (Nat.le_of_lt hmore),
      Buffer.drop_bytes]
  · have hlast : n = (dev.epIn 0).progress := by omega
    rw [if_pos (by omega), Lib.packets_of_le (by rw [Buffer.length_bytes]; omega), hlast]

/-! ### The round of an acknowledged packet -/

/-- The transmit side of the control endpoint is as it was. -/
structure TxKept (dev dev' : UsbDevice) : Prop where
  half : eprHalf .tx (dev'.epr 0) = eprHalf .tx (dev.epr 0)
  count : txCount dev' = txCount dev

/-- No change keeps the sending side. -/
theorem TxKept.refl (dev : UsbDevice) : TxKept dev dev := ⟨rfl, rfl⟩

/-- Receiving keeps it. -/
theorem txKept_receivePacket {dev : UsbDevice} (h : (dev.epOut 0).regId = 0) :
    TxKept dev (usbPrvReceivePacket dev 0) := by
  have hreg : (usbPrvNextPacketSize (dev.epOut 0)).2.regId = 0 :=
    (nextPacketSize_is (dev.epOut 0)).2.2.trans h
  simp only [usbPrvReceivePacket, hreg]
  generalize usbPrvConvertRxCount _ = w
  constructor
  · rw [UsbDevice.setEpr_self, eprHalf_setStatus, if_neg (by decide)]
    rfl
  · rw [txCount, txCount]
    show (dev.pma.set (bdtRxCount 0) w (bdtTxCount 0) &&& 0x3FF).toNat = _
    rw [Pma.set_of_ne _ (by decide)]

/-- So does waiting for the status stage of a read. -/
theorem txKept_ctrlReceiveStatus {dev : UsbDevice} (h : (dev.epOut 0).regId = 0) :
    TxKept dev (usbdCtrlReceiveStatus dev) := by
  have hkept : ∀ (dev' : UsbDevice) (ep : UsbEp), ep.regId = 0 →
      TxKept dev' (usbPrvReceivePacket (dev'.setOut 0 ep) 0) := by
    intro dev' ep hep
    have hreg : ((dev'.setOut 0 ep).epOut 0).regId = 0 := by
      rw [UsbDevice.setOut_self]
      exact hep
    obtain ⟨hhalf, hcount⟩ := txKept_receivePacket hreg
    exact ⟨hhalf, hcount⟩
  rw [usbdCtrlReceiveStatus, usbVEpReceive]
  obtain ⟨hhalf, hcount⟩ := hkept (dev.setOut 0 { dev.epOut 0 with state := .status })
    { (dev.setOut 0 { dev.epOut 0 with state := .status }).epOut 0 with
      data := .null, progress := 0, length := 0 } (by rw [UsbDevice.setOut_self]; exact h)
  exact ⟨hhalf, hcount⟩

/-- `USBD_CtrlInCallback` without the closing empty packet. -/
theorem txKept_ctrlInCallback {dev : UsbDevice} (h : (dev.epOut 0).regId = 0)
    (hzlp : usbdNeedsZlp dev = false) : TxKept dev (usbdCtrlInCallback dev) := by
  have hstatus : ∀ dev' : UsbDevice, dev'.epOut = dev.epOut → dev'.epr = dev.epr →
      dev'.pma = dev.pma → TxKept dev (usbdCtrlReceiveStatus dev') := by
    intro dev' hout hepr hpma
    have hreg : (dev'.epOut 0).regId = 0 := by
      rw [hout]
      exact h
    have hkept := txKept_ctrlReceiveStatus hreg
    exact ⟨by rw [hkept.half, hepr], by rw [hkept.count, txCount, txCount, hpma]⟩
  rw [usbdCtrlInCallback, if_neg (by simp [hzlp])]
  dsimp only
  split
  · split
    · rw [hidDataStage]
      split
      · exact hstatus _ rfl rfl rfl
      · exact hstatus _ rfl rfl rfl
    · exact hstatus _ rfl rfl rfl
  · split
    · exact ⟨rfl, rfl⟩
    · exact ⟨rfl, rfl⟩

/-- A framed change keeps a data stage going, if the transmit side stays open and nothing is
received. -/
theorem CtrlSending.framed {dev dev' : UsbDevice} (h : CtrlSending dev) (hf : UsbFramed dev dev')
    (hreset : dev'.reset = false) (hrx : flag dev' .rx 0 = false)
    (hopen : (eprHalf .tx (dev'.epr 0)).stat ≠ .dis)
    (hvalid : (eprHalf .tx (dev'.epr 0)).stat = .valid → flag dev' .tx 0 = false)
    (hcount : txCount dev' ≤ 64) : CtrlSending dev' := by
  obtain ⟨ha, hkeeps⟩ := hf h.allocated
  refine ⟨ha, hreset, hrx, hopen, hvalid, hcount, fun itf hflag => ?_⟩
  rw [flag, (hkeeps itf).reg] at hflag
  rw [(hkeeps itf).reg]
  exact h.numbered itf hflag

/-- The handle and the register at the start of the round. -/
def ctrlAcked (dev : UsbDevice) : UsbDevice :=
  (dev.setEpr 0 (flagClear .tx)).setIn 0
    { dev.epIn 0 with data := (dev.epIn 0).data.add (txCount dev) }

/-- The round of an acknowledged control packet: the callback at the end of the transfer, or the
next packet. -/
theorem irq_in0_eq (dev : UsbDevice) :
    usbVIRQHandler.in dev 0 0 =
      if (dev.epIn 0).progress = 0 then usbdCtrlInCallback (ctrlAcked dev)
      else usbPrvTransmitPacket (ctrlAcked dev) 0 := rfl

/-- The round takes the completion of the packet. -/
theorem tx_ctrlAcked (dev : UsbDevice) :
    eprHalf .tx ((ctrlAcked dev).epr 0) = { eprHalf .tx (dev.epr 0) with ctr := false } := by
  show eprHalf .tx ((dev.setEpr 0 (flagClear .tx)).epr 0) = _
  rw [UsbDevice.setEpr_self, eprHalf_flagClear, if_pos rfl]

/-- It leaves the report endpoints. -/
theorem framed_ctrlAcked (dev : UsbDevice) : UsbFramed dev (ctrlAcked dev) := by
  exact UsbFramed.after (framed_setIn0 rfl rfl rfl) (framed_flagClear0 dev .tx)

/-- The source moves on by what was sent. -/
theorem epIn_ctrlAcked (dev : UsbDevice) :
    (ctrlAcked dev).epIn 0 = { dev.epIn 0 with data := (dev.epIn 0).data.add (txCount dev) } :=
  UsbDevice.setIn_self _ _ _

/-- Whether an empty packet is due does not change. -/
theorem needsZlp_ctrlAcked (dev : UsbDevice) : usbdNeedsZlp (ctrlAcked dev) = usbdNeedsZlp dev := by
  rw [usbdNeedsZlp, usbdNeedsZlp, epIn_ctrlAcked]
  rfl

/-- The transfer of `USB_vEpSend` is set up. -/
def loadCtrl (dev : UsbDevice) (data : DataPtr) (len : Nat) : UsbDevice :=
  dev.setIn 0 { dev.epIn 0 with data := data, progress := len, length := len }

/-- `USB_vEpSend` loads the transfer and sends its first packet. -/
theorem epSend_eq (dev : UsbDevice) (data : DataPtr) (len : Nat) :
    usbVEpSend dev 0x80 data len = usbPrvTransmitPacket (loadCtrl dev data len) 0 := rfl

/-- The transfer as it is loaded. -/
theorem epIn_loadCtrl (dev : UsbDevice) (data : DataPtr) (len : Nat) :
    (loadCtrl dev data len).epIn 0 =
      { dev.epIn 0 with data := data, progress := len, length := len } :=
  UsbDevice.setIn_self _ _ _

/-- Loading a transfer keeps the allocation. -/
theorem Allocated.load {dev : UsbDevice} (h : Allocated dev) (data : DataPtr) (len : Nat) :
    Allocated (loadCtrl dev data len) := by
  have hset : UsbFramed dev (loadCtrl dev data len) := framed_setIn0 rfl rfl rfl
  exact (hset h).1

section
variable {dev : UsbDevice} (h : Allocated dev) (data : DataPtr) (len : Nat)
include h

/-- Then all packets of the data are to come, the first of them in the packet memory. -/
theorem Allocated.ctrlQueue_epSend :
    ctrlQueue (usbVEpSend dev 0x80 data len) =
      Lib.packets 64 ((data.read dev.ctrlData).bytes len) ++
        ctrlZlp (loadCtrl dev data len) := by
  rw [epSend_eq, (h.load data len).ctrlQueue_transmit, epIn_loadCtrl]
  rfl

/-- The endpoint is `VALID`. -/
theorem Allocated.tx_epSend :
    eprHalf .tx ((usbVEpSend dev 0x80 data len).epr 0) =
      { eprHalf .tx (dev.epr 0) with stat := .valid } := by
  rw [epSend_eq, (h.load data len).transmitPacket, tx_sendCtrl]
  rfl

/-- The packet is no longer than 64 bytes. -/
theorem Allocated.count_epSend : txCount (usbVEpSend dev 0x80 data len) ≤ 64 := by
  rw [epSend_eq, (h.load data len).transmitPacket, txCount_sendCtrl _ (Nat.min_le_right _ _)]
  exact Nat.min_le_right _ _

end

/-- The closing packet, sent by `USBD_CtrlInCallback`. -/
theorem Allocated.ctrlQueue_zlp {dev : UsbDevice} (h : Allocated dev) :
    ctrlQueue (usbVEpSend dev 0x80 .null 0) = [[]] := by
  have hzlp : ctrlZlp (loadCtrl dev .null 0) = [] := by
    have hmps : (dev.epIn 0).maxPacketSize = 64 := h.ctrlEp.maxPacketSize
    rw [ctrlZlp, usbdNeedsZlp, epIn_loadCtrl]
    simp [hmps]
  rw [h.ctrlQueue_epSend, hzlp, Lib.packets_of_le (by simp)]
  rfl

/-- The handler goes on with the transfer: nothing is lost and nothing is sent twice. -/
theorem CtrlSending.irq_in {dev : UsbDevice} (h : CtrlSending dev) (hflag : flag dev .tx 0 = true) :
    CtrlSending (usbVIRQHandler.in dev 0 0) ∧
      ctrlSender (usbVIRQHandler.in dev 0 0) = ctrlSender dev := by
  have ha := (framed_ctrlAcked dev h.allocated).1
  have hnot : (eprHalf .tx (dev.epr 0)).stat ≠ .valid := fun hv => by
    have := h.valid hv
    rw [hflag] at this
    exact absurd this (by decide)
  have hqueue : ctrlQueue dev = ctrlRest dev := by
    rw [flag] at hflag
    rw [ctrlQueue, if_neg hnot, if_pos hflag]
  have hzlp : ctrlZlp (ctrlAcked dev) = ctrlZlp dev := by rw [ctrlZlp, ctrlZlp, needsZlp_ctrlAcked]
  -- The transmit side and the packets to come, in each case.
  have hnext : (eprHalf .tx ((usbVIRQHandler.in dev 0 0).epr 0)).stat ≠ .dis ∧
      (eprHalf .tx ((usbVIRQHandler.in dev 0 0).epr 0)).dtog = (eprHalf .tx (dev.epr 0)).dtog ∧
      txCount (usbVIRQHandler.in dev 0 0) ≤ 64 ∧
      ctrlQueue (usbVIRQHandler.in dev 0 0) = ctrlRest dev := by
    rw [irq_in0_eq, ctrlRest]
    by_cases hdone : (dev.epIn 0).progress = 0
    · rw [if_pos hdone, if_pos hdone, List.nil_append, ctrlZlp]
      by_cases hempty : usbdNeedsZlp dev
      · rw [usbdCtrlInCallback, if_pos ((needsZlp_ctrlAcked dev).trans hempty), if_pos hempty,
          ha.tx_epSend, tx_ctrlAcked, ha.ctrlQueue_zlp]
        exact ⟨by simp, rfl, ha.count_epSend _ _, rfl⟩
      · have hfalse : usbdNeedsZlp (ctrlAcked dev) = false :=
          (needsZlp_ctrlAcked dev).trans (eq_false_of_ne_true hempty)
        have hkept := txKept_ctrlInCallback (ha.tables.out 0).regId hfalse
        rw [if_neg hempty, hkept.half, hkept.count, tx_ctrlAcked, ctrlQueue, hkept.half, tx_ctrlAcked,
          if_neg hnot, if_neg (by simp)]
        exact ⟨h.open_, rfl, h.count, rfl⟩
    · rw [if_neg hdone, if_neg hdone, ha.ctrlQueue_transmit, hzlp, ha.transmitPacket, tx_sendCtrl,
        tx_ctrlAcked, txCount_sendCtrl _ (Nat.min_le_right _ _), epIn_ctrlAcked]
      exact ⟨by simp, rfl, Nat.min_le_right _ _, rfl⟩
  have histr : istr (usbVIRQHandler.in dev 0 0) = istrClear dev .tx 0 := by
    rw [istr_irq_in, istr_flagClear]
  have hflags :
      ∀ d, flag (usbVIRQHandler.in dev 0 0) d 0 = (flag dev d 0 && !decide (d = .tx ∧ 0 = 0)) :=
    fun d => congrFun (congrFun (congrArg Prod.fst histr) d) 0
  refine ⟨h.framed (framed_irq_in0 dev) ((congrArg Prod.snd histr).trans h.reset) ?_ hnext.1
    (fun _ => ?_) hnext.2.2.1, ?_⟩
  · rw [hflags, h.rx, Bool.false_and]
  · rw [hflags]
    simp
  · rw [ctrlSender, ctrlSender, hnext.2.1, hnext.2.2.2, hqueue]

/-! ### Steps elsewhere -/

/-- A step away from the control endpoint: its register, its transfer and its buffer stay, and the
stack is as it was. -/
structure Away (dev dev' : UsbDevice) : Prop where
  allocated : Allocated dev'
  reg : dev'.epr 0 = dev.epr 0
  ep : dev'.epIn 0 = dev.epIn 0
  memory : ∀ j, j < 4 ∨ 24 ≤ j ∧ j < 56 → dev'.pma j = dev.pma j
  stack : dev' = { dev with epIn := dev'.epIn, epr := dev'.epr, pma := dev'.pma }
  numbered : Numbered dev → Numbered dev'

section
variable {dev : UsbDevice} (h : Allocated dev)
include h

/-- No change is one away from the control endpoint. -/
theorem Allocated.away_self : Away dev dev := ⟨h, rfl, rfl, fun _ _ => rfl, rfl, id⟩

/-- An IN transaction of another endpoint. -/
theorem Allocated.away_busIn {n : Nat} (hn : n ≠ 0) (ack : Bool) :
    Away dev (busIn dev n ack).1 ∧ (busIn dev n ack).2.filterMap ctrlObs = [] := by
  have ha := (settled_busIn dev n ack h).1
  have hself := h.away_self
  rw [busIn] at ha ⊢
  split
  · rename_i r hr
    rw [hr] at ha
    dsimp only at ha
    have hea := (eprFor_spec hr).1
    have hr0 : 0 ≠ r := by
      rintro rfl
      rw [h.registers.ctrl] at hea
      exact hn hea.symm
    by_cases hv : dev.enabled ∧ (eprHalf .tx (dev.epr r)).stat = .valid
    · rw [if_pos hv] at ha ⊢
      refine ⟨?_, List.filterMap_cons_none (if_neg hn)⟩
      cases ack
      · exact hself
      · refine ⟨ha, dev.setEpr_of_ne hr0 _, rfl, fun _ _ => rfl, rfl, fun hnum itf hflag => ?_⟩
        show (eprFields ((dev.setEpr r (hwDone .tx)).epr itf.regId)).ea = _
        by_cases hitf : itf.regId = r
        · -- The register answered with its own number.
          rw [hitf, UsbDevice.setEpr_self, fields_hwDone, ea_setHalf, ← hitf]
          refine (h.registers.addr itf).resolve_left fun h0 => hn ?_
          rw [← hitf, h0] at hea
          exact hea.symm
        · have hflag' : flag (dev.setEpr r (hwDone .tx)) .tx itf.regId = true := hflag
          rw [flag, UsbDevice.setEpr_of_ne _ hitf] at hflag'
          rw [UsbDevice.setEpr_of_ne _ hitf]
          exact hnum itf hflag'
    · rw [if_neg hv]
      exact ⟨hself, rfl⟩
  · exact ⟨hself, rfl⟩

/-- No other endpoint receives. -/
theorem Allocated.busOut_of_ne {n : Nat} (hn : n ≠ 0) (bytes : List U8) :
    busOut dev n bytes = dev := by
  rw [busOut]
  split
  · rename_i r hr
    have h0 := h.eprFor_rx hr
    subst h0
    have hea := (eprFor_spec hr).1
    rw [h.registers.ctrl] at hea
    exact absurd hea.symm hn
  · rfl

/-- A report that is sent. -/
theorem Allocated.away_sendReport {jtf : HidIf} {ep : UsbEp} (hep : SentEp jtf ep) {bytes : List U8}
    (hlen : bytes.length ≤ jtf.reportSize) : Away dev (sendReport dev jtf ep bytes) := by
  refine ⟨h.sent hep hlen, UsbDevice.setEpr_of_ne _ (Ne.symm jtf.regId_ne_zero) _,
    dev.setIn_of_ne jtf.zero_ne_epNum ep, fun j hj => ?_, rfl, fun hnum itf hflag => ?_⟩
  · refine storeReport_of_not_mem jtf _ hlen dev.pma ?_ ?_
    · cases jtf <;> simp only [bdtTxCount, HidIf.regId] <;> omega
    · cases jtf <;> simp only [HidIf.pmaAddress] <;> omega
  · by_cases hij : itf.regId = jtf.regId
    · rw [flag, hij, sendReport, UsbDevice.setEpr_self, eprHalf_setStatus, if_pos rfl] at hflag
      rw [hij, sendReport, UsbDevice.setEpr_self, ea_setStatus, ← hij]
      exact hnum itf (hij ▸ hflag)
    · rw [flag, sendReport, UsbDevice.setEpr_of_ne _ hij] at hflag
      rw [sendReport, UsbDevice.setEpr_of_ne _ hij]
      exact hnum itf hflag

/-- A task on a pipe. -/
theorem Allocated.away_reportIn (i : Nat) {bytes : List U8}
    (hlen : ∀ itf : HidIf, i = itf.index → bytes.length ≤ itf.reportSize) :
    Away dev (usbMachine.step dev (.reportIn i bytes)).1 := by
  by_cases hitf : ∃ itf : HidIf, i = itf.index
  · obtain ⟨jtf, rfl⟩ := hitf
    have hreport := h.reportIn jtf (hlen jtf rfl)
    split at hreport
    · obtain ⟨ep, hep, hr⟩ := hreport
      simp only [usbMachine, hr]
      exact h.away_sendReport hep (hlen jtf rfl)
    · simp only [usbMachine, hreport]
      exact h.away_self
  · simp only [usbMachine, reportIn_of_no_interface h.tables.ifs fun itf h' => hitf ⟨itf, h'⟩]
    exact h.away_self

/-- The round of a pipe. -/
theorem Allocated.away_round (hnum : Numbered dev) {jtf : HidIf}
    (hflag : flag dev .tx jtf.regId = true) : Away dev (usbVIRQHandler.round dev jtf.regId) := by
  have ha := (settled_irq_round dev jtf.regId h).1
  have hround := h.round_pipe jtf (hnum jtf hflag) hflag
  obtain ⟨ep, -, heq⟩ := h.irq_in_pipe jtf
  rw [hround, heq] at ha ⊢
  refine ⟨ha, dev.setEpr_of_ne (Ne.symm jtf.regId_ne_zero) _,
    UsbDevice.setIn_of_ne _ jtf.zero_ne_epNum ep, fun _ _ => rfl, rfl, fun _ itf hset => ?_⟩
  have hset' : flag (dev.setEpr jtf.regId (flagClear .tx)) .tx itf.regId = true := hset
  rw [flag_flagClear, Bool.and_eq_true] at hset'
  have hea := hnum itf hset'.1
  show (eprFields ((dev.setEpr jtf.regId (flagClear .tx)).epr itf.regId)).ea = _
  by_cases hij : itf.regId = jtf.regId
  · rw [hij, UsbDevice.setEpr_self, ea_flagClear, ← hij]
    exact hea
  · rw [UsbDevice.setEpr_of_ne _ hij]
    exact hea

end

/-- The bytes of the packet in the buffer are those of the packet memory away from the pipes. -/
theorem Away.packet {dev dev' : UsbDevice} (hs : Away dev dev') (h : Allocated dev)
    (hle : txCount dev ≤ 64) : txCount dev' = txCount dev ∧ txPacket dev' 0 = txPacket dev 0 := by
  have hcount : txCount dev' = txCount dev := by
    rw [txCount, txCount, hs.memory (bdtTxCount 0) (.inl (by decide))]
  have haddr : (dev.pma (bdtTxAddr 0)).toNat = 48 := h.layout.toNat_txAddr
  refine ⟨hcount, ?_⟩
  rw [txPacket, txPacket, hs.memory (bdtTxAddr 0) (.inl (by decide)), haddr]
  show Pma.packet _ 48 (txCount dev') = Pma.packet _ 48 (txCount dev)
  rw [hcount]
  apply Pma.packet_congr
  intro b hb hb'
  rw [Pma.byte, Pma.byte, hs.memory _ (.inr (by omega))]

/-- A step elsewhere keeps the data stage going. -/
theorem CtrlSending.away {dev dev' : UsbDevice} (h : CtrlSending dev) (hs : Away dev dev') :
    CtrlSending dev' ∧ ctrlSender dev' = ctrlSender dev := by
  obtain ⟨hcount, hpacket⟩ := hs.packet h.allocated h.count
  have hsetup : dev'.setup = dev.setup := by rw [hs.stack]
  have hctrl : dev'.ctrlData = dev.ctrlData := by rw [hs.stack]
  have hreset : dev'.reset = dev.reset := by rw [hs.stack]
  have hzlp : ctrlZlp dev' = ctrlZlp dev := by
    rw [ctrlZlp, ctrlZlp, usbdNeedsZlp, usbdNeedsZlp, hs.ep, hsetup]
  have hrest : ctrlRest dev' = ctrlRest dev := by
    rw [ctrlRest, ctrlRest, hs.ep, hctrl, hcount, hzlp]
  constructor
  · refine ⟨hs.allocated, hreset.trans h.reset, ?_, ?_, ?_, ?_, hs.numbered h.numbered⟩
    · rw [flag, hs.reg]
      exact h.rx
    · rw [hs.reg]
      exact h.open_
    · rw [flag, hs.reg]
      exact h.valid
    · rw [hcount]
      exact h.count
  · rw [ctrlSender, ctrlSender, ctrlQueue, ctrlQueue, hs.reg, hpacket, hrest]

/-! ### The run -/

/-- A step is a run of the sender. -/
structure CtrlStep (dev dev' : UsbDevice) (obs : List UsbObs) : Prop where
  sending : CtrlSending dev'
  run : ∃ js, Lib.ToggleLink.sender.exec (ctrlSender dev, []) js =
    (ctrlSender dev', obs.filterMap ctrlObs)

/-- A step that shows nothing of the control endpoint. -/
theorem CtrlStep.of_same {dev dev' : UsbDevice} {obs : List UsbObs}
    (h : CtrlSending dev' ∧ ctrlSender dev' = ctrlSender dev) (hobs : obs.filterMap ctrlObs = []) :
    CtrlStep dev dev' obs := by
  refine ⟨h.1, [], ?_⟩
  rw [hobs, h.2]
  rfl

/-- A step that does nothing moves no packet. -/
theorem CtrlSending.step_self {dev : UsbDevice} (h : CtrlSending dev) : CtrlStep dev dev [] :=
  .of_same ⟨h, rfl⟩ rfl

/-- The control register answers as endpoint 0 in a direction that is not disabled. -/
theorem Allocated.eprFor_ctrl {dev : UsbDevice} (h : Allocated dev) {d : EpHalf}
    (hstat : (eprHalf d (dev.epr 0)).stat ≠ .dis) : eprFor dev d 0 = some 0 := by
  have hrange : List.range USBD_MAX_EP_COUNT = 0 :: [1, 2, 3, 4, 5, 6, 7] := rfl
  have h0 : (eprFields (dev.epr 0)).ea.toNat = 0 := by
    rw [h.registers.ctrl]
    rfl
  rw [eprFor, hrange, List.find?_cons_of_pos]
  simp [h0, hstat]

/-- A packet of the data stage. -/
theorem CtrlSending.step_packet {dev : UsbDevice} (h : CtrlSending dev) (ack : Bool) :
    CtrlStep dev (busIn dev 0 ack).1 (busIn dev 0 ack).2 := by
  rw [busIn, h.allocated.eprFor_ctrl h.open_]
  dsimp only
  by_cases hv : dev.enabled ∧ (eprHalf .tx (dev.epr 0)).stat = .valid
  · have hqueue : ctrlQueue dev = txPacket dev 0 :: ctrlRest dev := by
      rw [ctrlQueue, if_pos hv.2]
    have hobs : ctrlObs (.packet 0 (eprHalf .tx (dev.epr 0)).dtog (txPacket dev 0) ack) =
        some (.packet (eprHalf .tx (dev.epr 0)).dtog (txPacket dev 0) ack) := rfl
    rw [if_pos hv]
    cases ack
    · -- The acknowledgement is lost: the register is as before and the packet goes out again.
      refine ⟨h, [.poll false], ?_⟩
      rw [ctrlSender, if_neg (by decide), ctrlSender, hqueue, List.filterMap_cons_some hobs]
      rfl
    · -- The packet is done; the handler has yet to load the next one.
      have hhalf : eprHalf .tx ((dev.setEpr 0 (hwDone .tx)).epr 0) =
          ⟨.nak, !(eprHalf .tx (dev.epr 0)).dtog, true⟩ := by
        rw [UsbDevice.setEpr_self, eprHalf_hwDone]
      have hother : eprHalf .rx ((dev.setEpr 0 (hwDone .tx)).epr 0) = eprHalf .rx (dev.epr 0) := by
        rw [UsbDevice.setEpr_self, ← half_eprFields, fields_hwDone]
        rfl
      have hframed := framed_hwDone0 dev .tx
      have hsending : CtrlSending (dev.setEpr 0 (hwDone .tx)) := by
        refine h.framed hframed h.reset ?_ ?_ ?_ h.count
        · rw [flag, hother]
          exact h.rx
        · rw [hhalf]
          simp
        · rw [hhalf]
          exact fun hv => EpStatus.noConfusion hv
      refine ⟨hsending, [.poll true], ?_⟩
      have hrest : ctrlQueue (dev.setEpr 0 (hwDone .tx)) = ctrlRest dev := by
        rw [ctrlQueue, hhalf, if_neg (by simp), if_pos rfl]
        rfl
      rw [if_pos rfl, ctrlSender, ctrlSender, hqueue, hrest, hhalf, List.filterMap_cons_some hobs]
      rfl
  · rw [if_neg hv]
    exact h.step_self

/-- The handler. -/
theorem CtrlSending.step_irq {dev : UsbDevice} (h : CtrlSending dev) :
    CtrlStep dev (usbVIRQHandler.step dev) [] := by
  rw [usbVIRQHandler.step]
  split
  · rename_i r hr
    rcases h.allocated.pendingEp_cases hr with ⟨rfl, hflagged⟩ | ⟨jtf, rfl, hflag⟩
    · have hflag : flag dev .tx 0 = true := by
        rw [pending, h.rx, Bool.false_or] at hflagged
        exact hflagged
      have hnum : (eprFields (dev.epr 0)).ea.toNat = 0 := by
        rw [h.allocated.registers.ctrl]
        rfl
      rw [round_eq_in hnum h.rx hflag]
      exact .of_same (h.irq_in hflag) rfl
    · exact .of_same (h.away (h.allocated.away_round h.numbered hflag)) rfl
  · rw [usbVIRQHandler.tail, if_neg (by simp [h.reset])]
    exact h.step_self

/-- A data stage refines the sender of the library. -/
theorem ctrl_refines :
    usbMachine.Refines Lib.ToggleLink.sender ctrlSender ctrlObs CtrlSending
      (fun i => KeepsCtrl i ∧ FitsPacket i) := by
  have hstep : ∀ dev i, CtrlSending dev → KeepsCtrl i ∧ FitsPacket i →
      CtrlStep dev (usbMachine.step dev i).1 (usbMachine.step dev i).2 := by
    intro dev i h hi
    cases i with
    | inToken n ack =>
        by_cases hn : n = 0
        · subst hn
          exact h.step_packet ack
        · obtain ⟨haway, hobs⟩ := h.allocated.away_busIn hn ack
          exact .of_same (h.away haway) hobs
    | outToken n bytes =>
        simp only [usbMachine, h.allocated.busOut_of_ne hi.1 bytes]
        exact h.step_self
    | setup req => exact absurd hi.1 not_false
    | busReset => exact absurd hi.1 not_false
    | irq => exact h.step_irq
    | reportIn i bytes => exact .of_same (h.away (h.allocated.away_reportIn i hi.2)) rfl
  exact ⟨fun dev i h hi => (hstep dev i h hi).sending, fun dev i h hi => (hstep dev i h hi).run⟩

end PikvmHid
