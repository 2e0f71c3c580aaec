import PikvmHid.Proofs.UsbRequests
import PikvmHid.Proofs.UsbStrays
import PikvmHid.Spec.UsbWrites

/-!
# `PikvmHid.Proofs.UsbWrites`: the device stores what the host writes

The data stage of a `SET_REPORT` request. The handler stores each packet behind the one before, and
after each it makes the endpoint ready for the next one. Nothing counts the bytes against `wLength`
or against the size of `CtrlData`: a packet that does not fit any more is stored behind its end
(`setReport_stored`).
-/

set_option autoImplicit false

namespace PikvmHid

/-! ### Storing a packet -/

/-- Bytes stored behind those that are there. -/
theorem bytes_write (ctrl : Buffer) {got : List U8} (h : ctrl.bytes got.length = got) (p : List U8) :
    ((DataPtr.ctrlData got.length).write ctrl p).bytes (got ++ p).length = got ++ p := by
  have hget : ∀ i, i < got.length → got[i]? = some (ctrl i) := by
    intro i hi
    rw [← h, Buffer.bytes, List.getElem?_map, List.getElem?_range hi]
    rfl
  have hold : ((DataPtr.ctrlData got.length).write ctrl p).bytes (got ++ p).length =
      (Buffer.ofList (got ++ p) .zero).bytes (got ++ p).length := by
    refine Buffer.bytes_congr fun i hi => ?_
    rw [List.length_append] at hi
    simp only [DataPtr.write, Buffer.ofList, List.getD_eq_getElem?_getD]
    by_cases hge : got.length ≤ i
    · have hp : i - got.length < p.length := by omega
      rw [if_pos hge, List.getElem?_append_right hge, List.getElem?_eq_getElem hp]
      rfl
    · rw [if_neg hge, List.getElem?_append_left (by omega), hget i (by omega)]
      rfl
  rw [hold, Buffer.bytes_ofList]

/-- The count of the packet in the receive buffer of the control endpoint. -/
def rxCount (dev : UsbDevice) : Nat := (dev.pma (bdtRxCount 0) &&& 0x3FF).toNat

/-- That packet. -/
def rxPacket (dev : UsbDevice) : List U8 := dev.pma.packet 48 (rxCount dev)

/-- A device in the data stage of a control write, or after it, with `got` stored. -/
structure CtrlStoring (req : SetupRequest) (got : List U8) (dev : UsbDevice) : Prop where
  allocated : Allocated dev
  reset : dev.reset = false
  setup : dev.setup = req
  data : (dev.epOut 0).data = .ctrlData got.length
  stored : dev.ctrlData.bytes got.length = got
  open_ : (eprHalf .tx (dev.epr 0)).stat ≠ .dis
  status : (eprHalf .tx (dev.epr 0)).stat = .valid ∨ flag dev .tx 0 = true →
    (dev.epIn 0).length = 0 ∧ (dev.epIn 0).progress = 0
  numbered : Numbered dev

/-- A device whose handler has yet to see a `SET_REPORT` request. -/
structure WriteAsked (req : SetupRequest) (dev : UsbDevice) : Prop extends SetupAsked req dev where
  config : dev.configSelector ≠ 0
  mounted : req.indexLow.toNat < dev.ifs.length

/-- The phases of a control write: the request waits for the handler, the endpoint waits for a
packet, or a packet waits for the handler. -/
inductive CtrlWrite (req : SetupRequest) (dev : UsbDevice) : List U8 → List U8 → Prop where
  | asked : WriteAsked req dev → CtrlWrite req dev [] []
  | ready {got : List U8} : CtrlStoring req got dev → (eprHalf .rx (dev.epr 0)).stat = .valid →
      flag dev .rx 0 = false → CtrlWrite req dev got []
  | full {got : List U8} : CtrlStoring req got dev → (eprHalf .rx (dev.epr 0)).stat = .nak →
      flag dev .rx 0 = true → (eprFields (dev.epr 0)).setup = false → rxCount dev ≤ 64 →
      CtrlWrite req dev got (rxPacket dev)

/-! ### The status packet -/

/-- A device after the empty status packet is written. -/
structure StatusSent (dev dev' : UsbDevice) : Prop where
  rx : eprHalf .rx (dev'.epr 0) = eprHalf .rx (dev.epr 0)
  tx : eprHalf .tx (dev'.epr 0) = { eprHalf .tx (dev.epr 0) with stat := .valid }
  packet : txPacket dev' 0 = []
  ep : (dev'.epIn 0).length = 0 ∧ (dev'.epIn 0).progress = 0
  stack : dev'.epOut = dev.epOut ∧ dev'.ctrlData = dev.ctrlData ∧ dev'.setup = dev.setup ∧
    dev'.daddr = dev.daddr

/-- An empty transfer sends one empty packet. -/
theorem Allocated.epSend_empty {dev : UsbDevice} (h : Allocated dev) :
    StatusSent dev (usbVEpSend dev 0x80 .null 0) := by
  have hload := epIn_loadCtrl dev .null 0
  have hnone : min ((loadCtrl dev .null 0).epIn 0).progress 64 = 0 := by
    rw [hload]
    rfl
  rw [epSend_eq, (h.load .null 0).transmitPacket, hnone]
  refine ⟨?_, ?_, ?_, ?_, rfl, rfl, rfl, rfl⟩
  · rw [sendCtrl, UsbDevice.setEpr_self, eprHalf_setStatus, if_neg (by decide)]
    rfl
  · rw [tx_sendCtrl]
    rfl
  · rw [(h.load .null 0).txPacket_sendCtrl (Nat.zero_le _)]
    rfl
  · rw [epIn_sendCtrl, hload]
    exact ⟨rfl, rfl⟩

/-- The status stage of a write sends it. -/
theorem Allocated.statusSent {dev : UsbDevice} (h : Allocated dev) :
    StatusSent dev (usbdCtrlSendStatus dev) := by
  have hset : UsbFramed dev (dev.setIn 0 { dev.epIn 0 with state := .status }) :=
    framed_setIn0 rfl rfl rfl
  obtain ⟨hrx, htx, hpacket, hep, hstack⟩ := (hset h).1.epSend_empty
  exact ⟨hrx, htx, hpacket, hep, hstack⟩

/-! ### The receive side -/

/-- A device after its control endpoint is made ready for a packet. -/
structure RxReopened (dev dev' : UsbDevice) : Prop where
  rx : (eprHalf .rx (dev'.epr 0)).stat = .valid
  tx : eprHalf .tx (dev'.epr 0) = eprHalf .tx (dev.epr 0)
  data : (dev'.epOut 0).data = (dev.epOut 0).data
  stack : dev'.epIn = dev.epIn ∧ dev'.ctrlData = dev.ctrlData ∧ dev'.setup = dev.setup ∧
    dev'.daddr = dev.daddr

/-- Making the endpoint `VALID` reopens it. -/
theorem rxReopened_setEpr (dev : UsbDevice) (f : Pma → Pma) :
    RxReopened dev ((dev.setPma f).setEpr 0 (setStatus .rx .valid)) := by
  refine ⟨?_, ?_, rfl, rfl, rfl, rfl, rfl⟩
  · rw [UsbDevice.setEpr_self, eprHalf_setStatus, if_pos rfl]
  · rw [UsbDevice.setEpr_self, eprHalf_setStatus, if_neg (by decide)]
    rfl

/-- `USB_prvReceivePacket` does that. -/
theorem Allocated.rxReopened {dev : UsbDevice} (h : Allocated dev) :
    RxReopened dev (usbPrvReceivePacket dev 0) := by
  have hreg : (usbPrvNextPacketSize (dev.epOut 0)).2.regId = 0 :=
    (nextPacketSize_is (dev.epOut 0)).2.2.trans (h.tables.out 0).regId
  simp only [usbPrvReceivePacket, hreg]
  obtain ⟨hrx, htx, hdata, hstack⟩ :=
    rxReopened_setEpr (dev.setOut 0 (usbPrvNextPacketSize (dev.epOut 0)).2)
    fun p => p.set (bdtRxCount 0) (usbPrvConvertRxCount (usbPrvNextPacketSize (dev.epOut 0)).1)
  refine ⟨hrx, htx, hdata.trans ?_, hstack⟩
  rw [UsbDevice.setOut_self, nextPacketSize_eq]
  rfl

/-! ### The handler on a packet -/

/-- The transfer with the packet stored behind what is there. -/
def outStored (dev : UsbDevice) : UsbDevice :=
  { dev.setEpr 0 (flagClear .rx) with
    ctrlData := (dev.epOut 0).data.write dev.ctrlData
      (usbPrvReadPMA dev.pma (dev.pma (bdtRxAddr 0)).toNat (rxCount dev)) }.setOut 0
    { dev.epOut 0 with
      data := (dev.epOut 0).data.add (rxCount dev)
      length := (dev.epOut 0).length + rxCount dev }

/-- The round of an OUT packet: the transfer ends on a short packet or when nothing is left of it.
-/
theorem irq_out0_eq (dev : UsbDevice) :
    usbVIRQHandler.out dev 0 0 =
      if (dev.epOut 0).progress = 0 ∨ rxCount dev < (dev.epOut 0).maxPacketSize then
        ((usbdEpOutCallback (outStored dev) 0).setPma fun p =>
          p.set (bdtRxCount 0) (usbPrvConvertRxCount (dev.epOut 0).maxPacketSize)).setEpr 0
            (setStatus .rx .valid)
      else usbPrvReceivePacket (outStored dev) 0 := rfl

/-- Storing the packet leaves the report endpoints. -/
theorem framed_outStored (dev : UsbDevice) : UsbFramed dev (outStored dev) := by
  have hflag := framed_flagClear0 dev .rx
  have hctrl : ∀ (dev' : UsbDevice) (ctrlData : Buffer),
      UsbFramed dev' { dev' with ctrlData := ctrlData } := fun _ _ => framed_of_eq id rfl rfl rfl rfl
  exact UsbFramed.after (framed_setOut rfl rfl rfl) (UsbFramed.after (hctrl _ _) hflag)

/-- The bytes of a packet come behind those that are stored. -/
theorem CtrlStoring.outStored {req : SetupRequest} {got : List U8} {dev : UsbDevice}
    (h : CtrlStoring req got dev) :
    ((outStored dev).epOut 0).data = .ctrlData (got ++ rxPacket dev).length ∧
      (outStored dev).ctrlData.bytes (got ++ rxPacket dev).length = got ++ rxPacket dev := by
  have haddr : (dev.pma (bdtRxAddr 0)).toNat = 48 := h.allocated.layout.toNat_rxAddr
  constructor
  · rw [PikvmHid.outStored, UsbDevice.setOut_self, h.data, List.length_append, rxPacket,
      Pma.length_packet]
    rfl
  · show ((dev.epOut 0).data.write dev.ctrlData
      (usbPrvReadPMA dev.pma (dev.pma (bdtRxAddr 0)).toNat (rxCount dev))).bytes _ = _
    rw [haddr, readPMA_eq_packet _ (by decide), h.data]
    exact bytes_write dev.ctrlData h.stored (rxPacket dev)

/-- `hid_dataStage` changes the interface only. -/
theorem hidDataStage_stack (dev : UsbDevice) (i : Nat) :
    (hidDataStage dev i).epOut = dev.epOut ∧ (hidDataStage dev i).ctrlData = dev.ctrlData ∧
      (hidDataStage dev i).setup = dev.setup := by
  rw [hidDataStage]
  split <;> exact ⟨rfl, rfl, rfl⟩

/-- The callback at the end of the transfer, which sends the status packet. -/
theorem Allocated.epOutCallback {dev : UsbDevice} (h : Allocated dev) (hlen : dev.setup.length ≠ 0)
    (hin : dev.setup.isIn = false) :
    (eprHalf .tx ((usbdEpOutCallback dev 0).epr 0)).stat = .valid ∧
      (((usbdEpOutCallback dev 0).epIn 0).length = 0 ∧
        ((usbdEpOutCallback dev 0).epIn 0).progress = 0) ∧
      ((usbdEpOutCallback dev 0).epOut 0).data = (dev.epOut 0).data ∧
      (usbdEpOutCallback dev 0).ctrlData = dev.ctrlData ∧
      (usbdEpOutCallback dev 0).setup = dev.setup := by
  have hidle : UsbFramed dev (dev.setOut 0 { dev.epOut 0 with state := .idle }) :=
    framed_setOut rfl rfl rfl
  have ha := (hidle h).1
  have hstage : ∀ dev' : UsbDevice, Allocated dev' → (dev'.epOut 0).data = (dev.epOut 0).data →
      dev'.ctrlData = dev.ctrlData → dev'.setup = dev.setup →
      (eprHalf .tx ((usbdCtrlSendStatus dev').epr 0)).stat = .valid ∧
        (((usbdCtrlSendStatus dev').epIn 0).length = 0 ∧
          ((usbdCtrlSendStatus dev').epIn 0).progress = 0) ∧
        ((usbdCtrlSendStatus dev').epOut 0).data = (dev.epOut 0).data ∧
        (usbdCtrlSendStatus dev').ctrlData = dev.ctrlData ∧
        (usbdCtrlSendStatus dev').setup = dev.setup := by
    intro dev' ha' hdata hctrl hsetup
    obtain ⟨-, htx, -, hep, hout, hctrl', hsetup', -⟩ := ha'.statusSent
    exact ⟨by rw [htx], hep, by rw [hout, hdata], hctrl'.trans hctrl, hsetup'.trans hsetup⟩
  have hdata :
      ((dev.setOut 0 { dev.epOut 0 with state := .idle }).epOut 0).data = (dev.epOut 0).data := by
    rw [UsbDevice.setOut_self]
  -- Whichever interface the request names, the status packet is sent.
  rw [usbdEpOutCallback, if_pos rfl, usbdCtrlOutCallback, if_pos ⟨hlen, hin⟩]
  dsimp only
  split
  · obtain ⟨hout, hctrl, hsetup⟩ :=
      hidDataStage_stack (dev.setOut 0 { dev.epOut 0 with state := .idle })
      dev.setup.indexLow.toNat
    have hsame := congrArg (fun eps => (eps 0).data) hout
    exact hstage _ (framed_hidDataStage _ _ ha).1 (hsame.trans hdata) hctrl hsetup
  · exact hstage _ ha hdata rfl rfl

/-- A `SET_REPORT` request for one of the two interfaces. -/
structure SetupRequest.SetsReport (req : SetupRequest) : Prop where
  requestType : req.requestType = 0x21
  request : req.request = HID_REQ_SET_REPORT
  mounted : req.indexLow.toNat < 2

/-- Such a request with a data stage. -/
structure SetupRequest.Writes (req : SetupRequest) : Prop extends SetsReport req where
  length : req.length ≠ 0

/-- `SET_REPORT` is a write. -/
theorem SetupRequest.SetsReport.isIn {req : SetupRequest} (h : req.SetsReport) :
    req.isIn = false := by
  rw [SetupRequest.isIn, h.requestType]
  decide

/-- Its recipient is an interface. -/
theorem SetupRequest.SetsReport.recipient {req : SetupRequest} (h : req.SetsReport) :
    req.recipient = USB_REQ_RECIPIENT_INTERFACE := by
  rw [SetupRequest.recipient, h.requestType]
  decide

/-- It is a class request. -/
theorem SetupRequest.SetsReport.type {req : SetupRequest} (h : req.SetsReport) :
    req.type = USB_REQ_TYPE_CLASS := by
  rw [SetupRequest.type, h.requestType]
  decide

section
variable {req : SetupRequest} {got : List U8} {dev : UsbDevice} (h : CtrlStoring req got dev)
include h

/-- A framed change keeps the pipes as they are. -/
theorem CtrlStoring.numbered_of_framed {dev' : UsbDevice} (hf : UsbFramed dev dev') :
    Numbered dev' := by
  intro itf hflag
  rw [flag, ((hf h.allocated).2 itf).reg] at hflag
  rw [((hf h.allocated).2 itf).reg]
  exact h.numbered itf hflag

/-- The handler stores the packet and makes the endpoint ready for the next one. -/
theorem CtrlStoring.irq_out (hreq : req.Writes) :
    CtrlStoring req (got ++ rxPacket dev) (usbVIRQHandler.out dev 0 0) ∧
      (eprHalf .rx ((usbVIRQHandler.out dev 0 0).epr 0)).stat = .valid ∧
      flag (usbVIRQHandler.out dev 0 0) .rx 0 = false ∧
      flag (usbVIRQHandler.out dev 0 0) .tx 0 = flag dev .tx 0 := by
  have hstored := (framed_outStored dev h.allocated).1
  obtain ⟨hdata, hbytes⟩ := h.outStored
  have hsetup : (PikvmHid.outStored dev).setup = req := h.setup
  have htx : eprHalf .tx ((PikvmHid.outStored dev).epr 0) = eprHalf .tx (dev.epr 0) := by
    show eprHalf .tx ((dev.setEpr 0 (flagClear .rx)).epr 0) = _
    rw [UsbDevice.setEpr_self, eprHalf_flagClear, if_neg (by decide)]
  have histr : istr (usbVIRQHandler.out dev 0 0) = istrClear dev .rx 0 := by
    rw [istr_irq_out, istr_flagClear]
  have hflags :
      ∀ d, flag (usbVIRQHandler.out dev 0 0) d 0 = (flag dev d 0 && !decide (d = .rx ∧ 0 = 0)) :=
    fun d => congrFun (congrFun (congrArg Prod.fst histr) d) 0
  have hframed := framed_irq_out dev 0
  -- What the branches have in common.
  suffices hnext : (eprHalf .rx ((usbVIRQHandler.out dev 0 0).epr 0)).stat = .valid ∧
      (eprHalf .tx ((usbVIRQHandler.out dev 0 0).epr 0)).stat ≠ .dis ∧
      ((eprHalf .tx ((usbVIRQHandler.out dev 0 0).epr 0)).stat = .valid ∨ flag dev .tx 0 = true →
        ((usbVIRQHandler.out dev 0 0).epIn 0).length = 0 ∧
          ((usbVIRQHandler.out dev 0 0).epIn 0).progress = 0) ∧
      ((usbVIRQHandler.out dev 0 0).epOut 0).data = .ctrlData (got ++ rxPacket dev).length ∧
      (usbVIRQHandler.out dev 0 0).ctrlData = (PikvmHid.outStored dev).ctrlData ∧
      (usbVIRQHandler.out dev 0 0).setup = req by
    obtain ⟨hrx, hopen, hstatus, hdata', hctrl, hsetup'⟩ := hnext
    refine ⟨⟨(hframed h.allocated).1, (congrArg Prod.snd histr).trans h.reset, hsetup', hdata', ?_,
      hopen, ?_, h.numbered_of_framed hframed⟩, hrx, ?_, ?_⟩
    · rw [hctrl]
      exact hbytes
    · rw [hflags]
      simpa using hstatus
    · rw [hflags]
      simp
    · rw [hflags]
      simp
  rw [irq_out0_eq]
  split
  · -- The transfer is complete, or more than that.
    obtain ⟨hvalid, hep, hdata', hctrl, hsetup'⟩ :=
      hstored.epOutCallback (by rw [hsetup]; exact hreq.length)
      (by rw [hsetup]; exact hreq.isIn)
    obtain ⟨hrx, htx', hsame, hin, hctrl', hsetup'', -⟩ :=
      rxReopened_setEpr (usbdEpOutCallback (PikvmHid.outStored dev) 0) fun p =>
        p.set (bdtRxCount 0) (usbPrvConvertRxCount (dev.epOut 0).maxPacketSize)
    refine ⟨hrx, ?_, fun _ => ?_, hsame.trans (hdata'.trans hdata), hctrl'.trans hctrl,
      hsetup''.trans (hsetup'.trans hsetup)⟩
    · rw [htx', hvalid]
      simp
    · rw [hin]
      exact hep
  · obtain ⟨hrx, htx', hsame, hin, hctrl', hsetup', -⟩ := hstored.rxReopened
    refine ⟨hrx, ?_, fun hs => ?_, hsame.trans hdata, hctrl', hsetup'.trans hsetup⟩
    · rw [htx', htx]
      exact h.open_
    · rw [htx', htx] at hs
      rw [hin]
      exact h.status hs

/-- The handler on the acknowledged status packet. -/
theorem CtrlStoring.irq_in (hreq : req.Writes) (hflag : flag dev .tx 0 = true) :
    CtrlStoring req got (usbVIRQHandler.in dev 0 0) ∧
      eprHalf .rx ((usbVIRQHandler.in dev 0 0).epr 0) = eprHalf .rx (dev.epr 0) ∧
      (eprFields ((usbVIRQHandler.in dev 0 0).epr 0)).setup = (eprFields (dev.epr 0)).setup ∧
      (usbVIRQHandler.in dev 0 0).pma = dev.pma := by
  obtain ⟨hlength, hprogress⟩ := h.status (.inr hflag)
  have hsetup : (ctrlAcked dev).setup = req := h.setup
  -- The status packet is empty, and none follows it.
  have hzlp : usbdNeedsZlp (ctrlAcked dev) = false := by
    have hmps : (dev.epIn 0).maxPacketSize = 64 := h.allocated.ctrlEp.maxPacketSize
    rw [needsZlp_ctrlAcked, usbdNeedsZlp, hlength, hmps]
    simp
  have hin : usbVIRQHandler.in dev 0 0 =
      (ctrlAcked dev).setIn 0 { (ctrlAcked dev).epIn 0 with state := .idle } := by
    have hisIn : ¬ (ctrlAcked dev).setup.isIn = true := by
      rw [hsetup, hreq.isIn]
      decide
    -- `SET_ADDRESS` has no data stage to store.
    have htype : ¬ ((ctrlAcked dev).setup.requestType = 0x00 ∧
        (ctrlAcked dev).setup.request = USB_REQ_SET_ADDRESS) := by
      rw [hsetup, hreq.requestType]
      exact fun h0 => absurd h0.1 (by decide)
    rw [irq_in0_eq, if_pos hprogress, usbdCtrlInCallback, if_neg (by simp [hzlp])]
    exact (if_neg hisIn).trans (if_neg htype)
  have hframed := framed_irq_in0 dev
  have histr : istr (usbVIRQHandler.in dev 0 0) = istrClear dev .tx 0 := by
    rw [istr_irq_in, istr_flagClear]
  have hepr : (usbVIRQHandler.in dev 0 0).epr 0 = flagClear .tx (dev.epr 0) := by
    rw [hin]
    exact dev.setEpr_self 0 (flagClear .tx)
  have hep : ((usbVIRQHandler.in dev 0 0).epIn 0).length = 0 ∧
      ((usbVIRQHandler.in dev 0 0).epIn 0).progress = 0 := by
    rw [hin, UsbDevice.setIn_self, epIn_ctrlAcked]
    exact ⟨hlength, hprogress⟩
  refine ⟨⟨(hframed h.allocated).1, (congrArg Prod.snd histr).trans h.reset, ?_, ?_, ?_, ?_,
    fun _ => hep, h.numbered_of_framed hframed⟩, ?_, ?_, ?_⟩
  · rw [hin]
    exact h.setup
  · rw [hin]
    exact h.data
  · rw [hin]
    exact h.stored
  · rw [hepr, eprHalf_flagClear, if_pos rfl]
    exact h.open_
  · rw [hepr, eprHalf_flagClear, if_neg (by decide)]
  · rw [hepr, fields_flagClear]
    rfl
  · rw [hin]
    rfl

/-- A step elsewhere. -/
theorem CtrlStoring.away {dev' : UsbDevice} (hs : Away dev dev') : CtrlStoring req got dev' := by
  have hreset : dev'.reset = dev.reset := by rw [hs.stack]
  have hsetup : dev'.setup = dev.setup := by rw [hs.stack]
  have hout : dev'.epOut = dev.epOut := by rw [hs.stack]
  have hctrl : dev'.ctrlData = dev.ctrlData := by rw [hs.stack]
  refine ⟨hs.allocated, hreset.trans h.reset, hsetup.trans h.setup, ?_, ?_, ?_, ?_,
    hs.numbered h.numbered⟩
  · rw [hout]
    exact h.data
  · rw [hctrl]
    exact h.stored
  · rw [hs.reg]
    exact h.open_
  · rw [flag, hs.reg, hs.ep]
    exact h.status

/-- An IN transaction of endpoint 0, which can be the status packet. -/
theorem CtrlStoring.busIn (ack : Bool) :
    CtrlStoring req got (busIn dev 0 ack).1 ∧
      eprHalf .rx ((busIn dev 0 ack).1.epr 0) = eprHalf .rx (dev.epr 0) ∧
      (eprFields ((busIn dev 0 ack).1.epr 0)).setup = (eprFields (dev.epr 0)).setup ∧
      (busIn dev 0 ack).1.pma = dev.pma := by
  rw [PikvmHid.busIn, h.allocated.eprFor_ctrl h.open_]
  dsimp only
  split_ifs with hv hack
  · -- The status packet is acknowledged.
    have hframed := framed_hwDone0 dev .tx
    have hhalf : eprHalf .tx ((dev.setEpr 0 (hwDone .tx)).epr 0) =
        ⟨.nak, !(eprHalf .tx (dev.epr 0)).dtog, true⟩ := by
      rw [UsbDevice.setEpr_self, eprHalf_hwDone]
    refine ⟨⟨(hframed h.allocated).1, h.reset, h.setup, h.data, h.stored, ?_, fun _ => ?_,
      h.numbered_of_framed hframed⟩, ?_, ?_, rfl⟩
    · rw [hhalf]
      simp
    · exact h.status (.inl hv.2)
    · rw [UsbDevice.setEpr_self, ← half_eprFields, fields_hwDone]
      rfl
    · rw [UsbDevice.setEpr_self, fields_hwDone]
      rfl
  · exact ⟨h, rfl, rfl, rfl⟩
  · exact ⟨h, rfl, rfl, rfl⟩

end

/-! ### The request is served -/

/-- The buffer is made as large as the packet that is due. -/
theorem Allocated.buffer_receivePacket {dev : UsbDevice} (h : Allocated dev) :
    (usbPrvReceivePacket dev 0).pma (bdtRxCount 0) =
      usbPrvConvertRxCount (usbPrvNextPacketSize (dev.epOut 0)).1 := by
  have hreg : (usbPrvNextPacketSize (dev.epOut 0)).2.regId = 0 :=
    (nextPacketSize_is (dev.epOut 0)).2.2.trans (h.tables.out 0).regId
  have hpma : ∀ (dev' : UsbDevice) (w : U16),
      ((dev'.setPma fun p => p.set (bdtRxCount 0) w).setEpr 0 (setStatus .rx .valid)).pma
        (bdtRxCount 0) = w :=
    fun dev' w => dev'.pma.set_self (bdtRxCount 0) w
  simp only [usbPrvReceivePacket, hreg, hpma]

/-- A device that is made ready for the data of a request in its setup stage. -/
structure DataAwaited (dev dev' : UsbDevice) : Prop where
  allocated : Allocated dev'
  rx : (eprHalf .rx (dev'.epr 0)).stat = .valid
  tx : eprHalf .tx (dev'.epr 0) = eprHalf .tx (dev.epr 0)
  buffer : dev.setup.length = 0 → dev'.pma (bdtRxCount 0) = usbPrvConvertRxCount 0
  data : (dev'.epOut 0).data = .ctrlData 0
  setup : dev'.setup = dev.setup
  daddr : dev'.daddr = dev.daddr

/-- `USBD_CtrlReceiveData` in a setup stage. -/
theorem Allocated.ctrlReceiveData {dev : UsbDevice} (h : Allocated dev)
    (hstate : (dev.epOut 0).state = .setup) :
    ∃ dev', usbdCtrlReceiveData dev (.ctrlData 0) = (.ok, dev') ∧ DataAwaited dev dev' := by
  let mid := (dev.setOut 0 { dev.epOut 0 with state := .data }).setOut 0
    { (dev.setOut 0 { dev.epOut 0 with state := .data }).epOut 0 with
      data := .ctrlData 0, progress := dev.setup.length.toNat, length := 0 }
  have hframed : UsbFramed dev mid := by
    have hdata : UsbFramed dev (dev.setOut 0 { dev.epOut 0 with state := .data }) :=
      framed_setOut rfl rfl rfl
    exact UsbFramed.after (framed_setOut rfl rfl rfl) hdata
  have ha := (hframed h).1
  obtain ⟨hrx, htx, hdata, -, -, hsetup, hdaddr⟩ := ha.rxReopened
  refine ⟨usbPrvReceivePacket mid 0, ?_, (framed_receivePacket mid 0 ha).1, hrx, htx, fun hlen => ?_,
    hdata.trans ?_, hsetup, hdaddr⟩
  · rw [usbdCtrlReceiveData, if_pos hstate]
    rfl
  · have hnone : (mid.epOut 0).progress = 0 := by
      rw [UsbDevice.setOut_self, hlen]
      rfl
    rw [ha.buffer_receivePacket, nextPacketSize_eq, hnone, Nat.zero_min]
  · rw [UsbDevice.setOut_self]

/-- A `SET_REPORT` request asks for the data stage. -/
theorem route_write {dev : UsbDevice} (hreq : dev.setup.SetsReport) (hconfig : dev.configSelector ≠ 0)
    (hmounted : dev.setup.indexLow.toNat < dev.ifs.length) :
    usbdSetupCallback.route dev = usbdCtrlReceiveData dev (.ctrlData 0) := by
  have htype := hreq.type
  rw [usbdSetupCallback.route, hreq.recipient, if_neg (by decide), if_pos rfl, usbdIfRequest]
  dsimp only
  rw [List.getElem?_eq_getElem hmounted]
  dsimp only
  rw [if_neg hconfig, htype, if_neg (by decide), hidSetupStage, htype, if_neg (by decide), if_pos rfl,
    hidSetupStage.class, hreq.request, if_neg (by decide), if_pos rfl]

/-- The handler makes the endpoint ready for the data. If there is none, it sends the status packet. -/
theorem WriteAsked.awaits {req : SetupRequest} {dev : UsbDevice} (h : WriteAsked req dev)
    (hreq : req.SetsReport) :
    ∃ dev', usbVIRQHandler.step dev = (if req.length = 0 then usbdCtrlSendStatus dev' else dev') ∧
      DataAwaited { dev.setEpr 0 (flagClear .rx) with setup := req } dev' := by
  obtain ⟨hstep, hcallback⟩ := h.irq
  -- The callback on the stored request.
  have hstored := framed_storeSetup dev req h.allocated
  generalize hdev1 : ({ dev.setEpr 0 (flagClear .rx) with setup := req } : UsbDevice) = dev1
    at hcallback hstored ⊢
  have hset : UsbFramed dev1 (dev1.setOut 0 { dev1.epOut 0 with state := .setup }) :=
    framed_setOut rfl rfl rfl
  have hsetup1 : dev1.setup = req := by rw [← hdev1]
  have hconfig1 : dev1.configSelector ≠ 0 := by
    rw [← hdev1]
    exact h.config
  have hifs1 : req.indexLow.toNat < dev1.ifs.length := by
    rw [← hdev1]
    exact h.mounted
  obtain ⟨dev', hreceive, hawaited⟩ :=
    (hset hstored.1).1.ctrlReceiveData (by rw [UsbDevice.setOut_self])
  have hroute : usbdSetupCallback.route (dev1.setOut 0 { dev1.epOut 0 with state := .setup }) =
      (.ok, dev') := by
    rw [← hreceive]
    refine route_write ?_ hconfig1 ?_
    · show dev1.setup.SetsReport
      rw [hsetup1]
      exact hreq
    · show dev1.setup.indexLow.toNat < dev1.ifs.length
      rw [hsetup1]
      exact hifs1
  have hsetup' : dev'.setup = req := hawaited.setup.trans hsetup1
  refine ⟨dev', ?_, hawaited.allocated, hawaited.rx, hawaited.tx, hawaited.buffer, hawaited.data,
    hawaited.setup, hawaited.daddr⟩
  rw [hstep, hcallback, usbdSetupCallback, hroute]
  dsimp only
  rw [if_neg (by simp), hsetup']

/-- The transmit side of the control endpoint before the status packet. -/
theorem SetupAsked.tx_stored {req : SetupRequest} {dev : UsbDevice} (h : SetupAsked req dev) :
    eprHalf .tx ((dev.setEpr 0 (flagClear .rx)).epr 0) = ⟨.nak, true, false⟩ := by
  rw [UsbDevice.setEpr_self, eprHalf_flagClear, if_neg (by decide), h.tx]

/-- Once the handler has served the request its data can come. -/
theorem WriteAsked.begun {req : SetupRequest} {dev : UsbDevice} (h : WriteAsked req dev)
    (hreq : req.Writes) :
    CtrlStoring req [] (usbVIRQHandler.step dev) ∧
      (eprHalf .rx ((usbVIRQHandler.step dev).epr 0)).stat = .valid ∧
      flag (usbVIRQHandler.step dev) .rx 0 = false := by
  obtain ⟨hstep, -⟩ := h.irq
  obtain ⟨hrx, hreset⟩ := h.served
  have hnot : ¬ (bufferedSetup dev 0).Reconfigures := by
    rw [h.buffer]
    exact fun hre => absurd (hreq.type.symm.trans hre.1) (by decide)
  have hkeeps := framed_irq_setup hnot h.allocated
  obtain ⟨dev', hend, hawaited⟩ := h.awaits hreq.toSetsReport
  rw [hstep, if_neg hreq.length] at hend
  have htx' : eprHalf .tx (dev'.epr 0) = ⟨.nak, true, false⟩ := hawaited.tx.trans h.tx_stored
  rw [hstep]
  rw [hend] at hkeeps hrx hreset ⊢
  refine ⟨⟨hkeeps.1, hreset, hawaited.setup, hawaited.data, rfl, ?_, ?_, fun itf hflag => ?_⟩,
    hawaited.rx, hrx⟩
  · rw [htx']
    simp
  · rw [flag, htx']
    simp
  · rw [flag, (hkeeps.2 itf).reg] at hflag
    rw [(hkeeps.2 itf).reg]
    exact h.numbered itf hflag

/-- Until then it waits, whatever happens elsewhere. -/
theorem WriteAsked.away {req : SetupRequest} {dev dev' : UsbDevice} (h : WriteAsked req dev)
    (hs : Away dev dev') : WriteAsked req dev' := by
  have hconfig : dev'.configSelector = dev.configSelector := by rw [hs.stack]
  have hifs : dev'.ifs = dev.ifs := by rw [hs.stack]
  exact ⟨h.toSetupAsked.away hs, by rw [hconfig]; exact h.config, by rw [hifs]; exact h.mounted⟩

/-! ### A packet comes -/

/-- The packet is in the receive buffer. -/
theorem rxPacket_rxStore {dev dev' : UsbDevice} (h : Layout dev.pma) {bytes : List U8}
    (hlen : bytes.length ≤ 64) (hpma : dev'.pma = rxStore dev 0 bytes) :
    rxCount dev' = bytes.length ∧ rxPacket dev' = bytes := by
  have haddr : (dev.pma (bdtRxAddr 0)).toNat = 48 := h.toNat_rxAddr
  have hcount : rxCount dev' = bytes.length := by
    rw [rxCount, hpma, rxStore, Pma.set_self, toNat_rxCount _ hlen]
  have hwrite :
      (usbPrvWritePMA (.ofList bytes .zero) 48 bytes.length dev.pma).packet 48 bytes.length =
      bytes := by
    rw [packet_writePMA _ (by decide), Buffer.bytes_ofList]
  refine ⟨hcount, ?_⟩
  rw [rxPacket, hcount, hpma]
  refine Eq.trans ?_ hwrite
  rw [rxStore, haddr]
  apply Pma.packet_congr
  intro b hb _
  exact Pma.byte_set_of_ne _ (show b / 2 ≠ bdtRxCount 0 by simp only [bdtRxCount]; omega) _

/-- The control endpoint takes an OUT packet only when it is `VALID`. -/
theorem Allocated.busOut_of_not_valid {dev : UsbDevice} (h : Allocated dev)
    (hrx : (eprHalf .rx (dev.epr 0)).stat ≠ .valid) (bytes : List U8) : busOut dev 0 bytes = dev := by
  rw [busOut]
  split
  · rename_i r hr
    have h0 := h.eprFor_rx hr
    subst h0
    exact if_neg fun hok => hrx hok.2.1
  · rfl

/-- The device after endpoint 0 takes a packet. -/
def outAccepted (dev : UsbDevice) (bytes : List U8) : UsbDevice :=
  { dev with pma := rxStore dev 0 bytes }.setEpr 0 fun e => hwDone .rx e &&& ~~~USB_EP_SETUP

/-- A packet is taken or refused. -/
theorem Allocated.busOut_ctrl {dev : UsbDevice} (h : Allocated dev)
    (hrx : (eprHalf .rx (dev.epr 0)).stat = .valid) (bytes : List U8) :
    busOut dev 0 bytes = dev ∨ bytes.length ≤ 64 ∧ busOut dev 0 bytes = outAccepted dev bytes := by
  rw [busOut, h.eprFor_ctrl (by simp [hrx])]
  dsimp only
  by_cases hok : dev.enabled ∧ (eprHalf .rx (dev.epr 0)).stat = .valid ∧
      bytes.length ≤ rxCapacity (dev.pma (bdtRxCount 0))
  · rw [if_pos hok]
    exact .inr ⟨hok.2.2.trans h.layout.capacity, rfl⟩
  · rw [if_neg hok]
    exact .inl rfl

/-- The register after a packet. -/
theorem epr_outAccepted (dev : UsbDevice) (bytes : List U8) :
    eprHalf .rx ((outAccepted dev bytes).epr 0) = ⟨.nak, !(eprHalf .rx (dev.epr 0)).dtog, true⟩ ∧
      eprHalf .tx ((outAccepted dev bytes).epr 0) = eprHalf .tx (dev.epr 0) ∧
      (eprFields ((outAccepted dev bytes).epr 0)).setup = false := by
  have hepr : (outAccepted dev bytes).epr 0 = hwDone .rx (dev.epr 0) &&& ~~~USB_EP_SETUP :=
    UsbDevice.setEpr_self _ 0 _
  have hhalf :
      ∀ d, eprHalf d ((outAccepted dev bytes).epr 0) = eprHalf d (hwDone .rx (dev.epr 0)) := by
    intro d
    rw [hepr]
    cases d <;> simp [eprHalf, EpHalf.pos]
  refine ⟨?_, ?_, ?_⟩
  · rw [hhalf, eprHalf_hwDone]
  · rw [hhalf, ← half_eprFields, fields_hwDone]
    rfl
  · rw [hepr]
    simp [eprFields]

section
variable {req : SetupRequest} {got : List U8} {dev : UsbDevice} (h : CtrlStoring req got dev)
include h

/-- A packet is taken. -/
theorem CtrlStoring.outAccepted {bytes : List U8} (hlen : bytes.length ≤ 64)
    (hframed : UsbFramed dev (outAccepted dev bytes)) :
    CtrlWrite req (PikvmHid.outAccepted dev bytes) got bytes := by
  obtain ⟨hrx, htx, hsetup⟩ := epr_outAccepted dev bytes
  obtain ⟨hcount, hpacket⟩ : rxCount (PikvmHid.outAccepted dev bytes) = bytes.length ∧
      rxPacket (PikvmHid.outAccepted dev bytes) = bytes :=
        rxPacket_rxStore h.allocated.layout hlen rfl
  have hstoring : CtrlStoring req got (PikvmHid.outAccepted dev bytes) := by
    refine ⟨(hframed h.allocated).1, h.reset, h.setup, h.data, h.stored, ?_, ?_,
      h.numbered_of_framed hframed⟩
    · rw [htx]
      exact h.open_
    · rw [flag, htx]
      exact h.status
  have hfull : CtrlWrite req (PikvmHid.outAccepted dev bytes) got
      (rxPacket (PikvmHid.outAccepted dev bytes)) := by
    refine .full hstoring ?_ ?_ hsetup (hcount.trans_le hlen)
    · rw [hrx]
    · rw [flag, hrx]
  rw [hpacket] at hfull
  exact hfull

/-- An OUT transaction of an endpoint that is ready. -/
theorem CtrlStoring.busOut (hrx : (eprHalf .rx (dev.epr 0)).stat = .valid)
    (hflag : flag dev .rx 0 = false) (bytes : List U8) :
    CtrlWrite req (busOut dev 0 bytes) got (outTaken dev (.outToken 0 bytes)) := by
  have hframed := framed_busOut dev 0 bytes
  obtain heq | ⟨hlen, heq⟩ := h.allocated.busOut_ctrl hrx bytes
  · have hdown :
        ¬ (0 = 0 ∧ (eprHalf .rx (dev.epr 0)).ctr = false ∧ (eprHalf .rx (dev.epr 0)).ctr = true) :=
      fun hup => absurd (hup.2.2.symm.trans hup.2.1) (by decide)
    rw [outTaken, heq, if_neg hdown]
    exact .ready h hrx hflag
  · rw [heq] at hframed
    have hrx' := (epr_outAccepted dev bytes).1
    rw [outTaken, heq, if_pos ⟨rfl, hflag, by rw [hrx']⟩]
    exact h.outAccepted hlen hframed

end

/-! ### Accesses behind the buffer -/

/-- The callback of the status packet does nothing in a transfer to the device. -/
theorem strays_irq_in0 {dev : UsbDevice} (hin : dev.setup.isIn = false) :
    usbVIRQHandler.in.strays dev 0 = false := by
  rw [usbVIRQHandler.in.strays, usbdCtrlInCallback.strays, hin]
  simp

section
variable {req : SetupRequest} {got : List U8} {dev : UsbDevice} (h : CtrlStoring req got dev)
include h

/-- The interface is mounted, so the callback finds its class. Only the bytes can stray. -/
theorem CtrlStoring.strays_out (hreq : req.Writes) (hgot : got.length ≤ USBD_EP0_BUFFER_SIZE) :
    usbVIRQHandler.out.strays dev 0 0 = true ↔
      USBD_EP0_BUFFER_SIZE < got.length + (rxPacket dev).length := by
  have hcallback : usbdCtrlOutCallback.strays dev = false := by
    have hmounted : ¬ dev.ifs.length ≤ req.indexLow.toNat := by
      rw [h.allocated.tables.ifs.length_eq]
      exact Nat.not_le.mpr hreq.mounted
    rw [usbdCtrlOutCallback.strays, hidDataStage.strays, h.setup]
    simp [hmounted]
  rw [usbVIRQHandler.out.strays, h.data, hcallback, DataPtr.strays, rxPacket, Pma.length_packet,
    decide_eq_true_iff, decide_eq_true_iff, ← rxCount]
  -- An empty packet strays nowhere.
  constructor
  · rintro (⟨-, hover⟩ | ⟨-, -, hfalse⟩)
    · exact hover
    · exact absurd hfalse (by decide)
  · intro hover
    exact .inl ⟨by omega, hover⟩

end

/-- The handler on a request for an interface. -/
theorem WriteAsked.strays {req : SetupRequest} {dev : UsbDevice} (h : WriteAsked req dev)
    (hreq : req.SetsReport) : UsbAct.irq.strays dev = false := by
  have hsetup : usbVIRQHandler.setup.strays dev 0 = false := by
    show usbdSetupCallback.strays { dev with setup := bufferedSetup dev 0 } = false
    rw [h.buffer, usbdSetupCallback.strays]
    dsimp only
    rw [hreq.recipient]
    rfl
  have hsent : flag dev .tx 0 = false := by rw [flag, h.tx]
  rw [UsbAct.strays, h.toSetupAsked.pendingEp, Option.any_some, ← Bool.not_eq_true,
    h.allocated.strays_round_ctrl, h.setup, if_pos rfl, hsetup, hsent]
  simp

/-! ### A step -/

/-- A waiting packet stays in its buffer. -/
theorem rxPacket_away {dev dev' : UsbDevice} (hs : Away dev dev') (hcount : rxCount dev ≤ 64) :
    rxCount dev' = rxCount dev ∧ rxPacket dev' = rxPacket dev := by
  have hsame : rxCount dev' = rxCount dev := by
    rw [rxCount, rxCount, hs.memory _ (.inl (by decide))]
  refine ⟨hsame, ?_⟩
  rw [rxPacket, rxPacket, hsame]
  apply Pma.packet_congr
  intro b hb hlt
  rw [Pma.byte, Pma.byte, hs.memory (b / 2) (.inr (by omega))]

/-- The round of a control endpoint with an OUT packet. -/
theorem round_eq_out {dev : UsbDevice} (hnum : (eprFields (dev.epr 0)).ea.toNat = 0)
    (hrx : flag dev .rx 0 = true) (hsetup : (eprFields (dev.epr 0)).setup = false) :
    usbVIRQHandler.round dev 0 =
      if flag dev .tx 0 then usbVIRQHandler.in (usbVIRQHandler.out dev 0 0) 0 0
      else usbVIRQHandler.out dev 0 0 := by
  have hctr : dev.epr 0 &&& USB_EP_CTR_RX ≠ 0 := (flag_eq_true_iff dev .rx 0).mp hrx
  have hnot : ¬ dev.epr 0 &&& USB_EP_SETUP ≠ 0 := by
    rw [and_setup_ne_zero_iff, hsetup]
    decide
  have hea : (dev.epr 0 &&& USB_EPADDR_FIELD).toNat = 0 := (toNat_and_epaddr _).trans hnum
  have htx : dev.epr 0 &&& USB_EP_CTR_TX ≠ 0 ↔ flag dev .tx 0 = true :=
    (flag_eq_true_iff dev .tx 0).symm
  simp only [usbVIRQHandler.round, if_pos hctr, if_neg hnot, hea, htx]

section
variable {req : SetupRequest} {got waiting : List U8} {dev : UsbDevice}

/-- In every stage of the write the allocation holds. -/
theorem CtrlWrite.allocated (h : CtrlWrite req dev got waiting) : Allocated dev := by
  cases h with
  | asked hasked          => exact hasked.allocated
  | ready hstoring _ _    => exact hstoring.allocated
  | full hstoring _ _ _ _ => exact hstoring.allocated

/-- A step elsewhere. -/
theorem CtrlWrite.away (h : CtrlWrite req dev got waiting) {dev' : UsbDevice} (hs : Away dev dev') :
    CtrlWrite req dev' got waiting := by
  have hflag : flag dev' .rx 0 = flag dev .rx 0 := by rw [flag, flag, hs.reg]
  -- In each phase the same phase, with the same bytes.
  cases h with
  | asked hasked => exact .asked (hasked.away hs)
  | ready hstoring hrx hnone =>
      refine .ready (hstoring.away hs) ?_ (hflag.trans hnone)
      rw [hs.reg]
      exact hrx
  | full hstoring hrx hset hsetup hcount =>
      obtain ⟨hsame, hpacket⟩ := rxPacket_away hs hcount
      rw [← hpacket]
      refine .full (hstoring.away hs) ?_ (hflag.trans hset) ?_ (hsame.trans_le hcount)
      · rw [hs.reg]
        exact hrx
      · rw [hs.reg]
        exact hsetup

/-- The status packet, taken or not. -/
theorem CtrlWrite.busIn (h : CtrlWrite req dev got waiting) (ack : Bool) :
    CtrlWrite req (busIn dev 0 ack).1 got waiting := by
  cases h with
  | asked hasked =>
      -- A request that waits leaves nothing to send.
      rw [hasked.busIn]
      exact .asked hasked
  | ready hstoring hrx hnone =>
      obtain ⟨hstoring', hrx', -, -⟩ := hstoring.busIn ack
      refine .ready hstoring' ?_ ?_
      · rw [hrx']
        exact hrx
      · rw [flag, hrx']
        exact hnone
  | full hstoring hrx hset hsetup hcount =>
      obtain ⟨hstoring', hrx', hsetup', hpma⟩ := hstoring.busIn ack
      have hsame : rxCount (PikvmHid.busIn dev 0 ack).1 = rxCount dev := by
        rw [rxCount, hpma, rxCount]
      have hpacket : rxPacket (PikvmHid.busIn dev 0 ack).1 = rxPacket dev := by
        rw [rxPacket, hsame, hpma, rxPacket]
      rw [← hpacket]
      refine .full hstoring' ?_ ?_ (hsetup'.trans hsetup) (hsame.trans_le hcount)
      · rw [hrx']
        exact hrx
      · rw [flag, hrx']
        exact hset

/-- An OUT transaction adds its bytes to those that wait, if the endpoint takes it. -/
theorem CtrlWrite.busOut (h : CtrlWrite req dev got waiting) (bytes : List U8) :
    CtrlWrite req (busOut dev 0 bytes) got (waiting ++ outTaken dev (.outToken 0 bytes)) := by
  have hrefused : ∀ {waiting : List U8}, (eprHalf .rx (dev.epr 0)).stat = .nak →
      CtrlWrite req dev got waiting → flag dev .rx 0 = true →
      CtrlWrite req (PikvmHid.busOut dev 0 bytes) got
        (waiting ++ outTaken dev (.outToken 0 bytes)) := by
    intro waiting hnak hsame hset
    rw [flag] at hset
    rw [outTaken, h.allocated.busOut_of_not_valid (by simp [hnak]), if_neg (by simp [hset]),
      List.append_nil]
    exact hsame
  -- Only an endpoint that waits for a packet takes it.
  cases h with
  | asked hasked =>
      refine hrefused ?_ (.asked hasked) hasked.flag_rx
      rw [hasked.rx]
  | ready hstoring hrx hnone => exact hstoring.busOut hrx hnone bytes
  | full hstoring hrx hset hsetup hcount =>
      exact hrefused hrx (.full hstoring hrx hset hsetup hcount) hset

/-- The handler stores what waits, or does something else. -/
theorem CtrlWrite.irq (h : CtrlWrite req dev got waiting) (hreq : req.Writes) :
    ∃ got' waiting', CtrlWrite req (usbVIRQHandler.step dev) got' waiting' ∧
      got' ++ waiting' = got ++ waiting := by
  have hnum : (eprFields (dev.epr 0)).ea.toNat = 0 := by
    rw [h.allocated.registers.ctrl]
    rfl
  cases h with
  | asked hasked =>
      obtain ⟨hstoring, hrx, hnone⟩ := hasked.begun hreq
      exact ⟨[], [], .ready hstoring hrx hnone, rfl⟩
  | full hstoring hrx hset hsetup hcount =>
      obtain ⟨hstored, hvalid, hnone, htx⟩ := hstoring.irq_out hreq
      refine ⟨got ++ rxPacket dev, [], ?_, List.append_nil _⟩
      rw [usbVIRQHandler.step, pendingEp_of_pending (by rw [pending, hset, Bool.true_or])]
      dsimp only
      rw [round_eq_out hnum hset hsetup]
      by_cases hacked : flag dev .tx 0 = true
      · -- The status packet of the stage before is acknowledged as well.
        obtain ⟨hstored', hrx', -, -⟩ := hstored.irq_in hreq (htx.trans hacked)
        rw [if_pos hacked]
        refine .ready hstored' ?_ ?_
        · rw [hrx']
          exact hvalid
        · rw [flag, hrx']
          exact hnone
      · rw [if_neg hacked]
        exact .ready hstored hvalid hnone
  | ready hstoring hrx hnone =>
      have hready : CtrlWrite req dev got [] := .ready hstoring hrx hnone
      refine ⟨got, [], ?_, rfl⟩
      rw [usbVIRQHandler.step]
      split
      · rename_i r hr
        rcases hstoring.allocated.pendingEp_cases hr with ⟨rfl, hflagged⟩ | ⟨jtf, rfl, hflag⟩
        · have hacked : flag dev .tx 0 = true := by
            rw [pending, hnone, Bool.false_or] at hflagged
            exact hflagged
          obtain ⟨hstoring', hrx', -, -⟩ := hstoring.irq_in hreq hacked
          rw [round_eq_in hnum hnone hacked]
          refine .ready hstoring' ?_ ?_
          · rw [hrx']
            exact hrx
          · rw [flag, hrx']
            exact hnone
        · exact hready.away (hstoring.allocated.away_round hstoring.numbered hflag)
      · rw [usbVIRQHandler.tail, if_neg (by simp [hstoring.reset])]
        exact hready

/-- The next round strays with a packet that the rest of `CtrlData` has no room for. -/
theorem CtrlWrite.strays_iff (h : CtrlWrite req dev got waiting) (hreq : req.Writes)
    (hgot : got.length ≤ USBD_EP0_BUFFER_SIZE) :
    UsbAct.irq.strays dev = true ↔ USBD_EP0_BUFFER_SIZE < got.length + waiting.length := by
  -- Where no packet waits, neither holds.
  have hempty : UsbAct.irq.strays dev = false → waiting = [] →
      (UsbAct.irq.strays dev = true ↔ USBD_EP0_BUFFER_SIZE < got.length + waiting.length) := by
    intro hstays hnil
    rw [hstays, hnil]
    exact iff_of_false (by decide) (Nat.not_lt.mpr hgot)
  cases h with
  | asked hasked => exact hempty (hasked.strays hreq.toSetsReport) rfl
  | ready hstoring hrx hnone =>
      refine hempty ?_ rfl
      rw [UsbAct.strays, Option.any_eq_false]
      intro r hr
      rcases hstoring.allocated.pendingEp_cases hr with ⟨rfl, -⟩ | ⟨jtf, rfl, hflag⟩
      · -- The status packet was sent, and nothing received.
        have hnothing : usbVIRQHandler.received dev 0 = dev :=
          if_neg fun hctr => absurd (((flag_eq_true_iff dev .rx 0).mpr hctr).symm.trans hnone) (by decide)
        rw [← Bool.not_eq_true, hstoring.allocated.strays_round_ctrl, hnone, hnothing,
          strays_irq_in0 (by rw [hstoring.setup]; exact hreq.isIn)]
        simp
      · exact hstoring.allocated.strays_round_pipe (hstoring.numbered jtf hflag)
  | full hstoring hrx hset hsetup hcount =>
      have hreceived : usbVIRQHandler.received dev 0 = usbVIRQHandler.out dev 0 0 := by
        have hctr : dev.epr 0 &&& USB_EP_CTR_RX ≠ 0 := (flag_eq_true_iff dev .rx 0).mp hset
        have hnot : ¬ dev.epr 0 &&& USB_EP_SETUP ≠ 0 := by
          rw [and_setup_ne_zero_iff, hsetup]
          decide
        have hea : (dev.epr 0 &&& USB_EPADDR_FIELD).toNat = 0 := hstoring.allocated.num_ctrl
        rw [usbVIRQHandler.received, if_pos hctr, if_neg hnot, hea]
      have hisIn : (usbVIRQHandler.out dev 0 0).setup.isIn = false := by
        rw [(hstoring.irq_out hreq).1.setup]
        exact hreq.isIn
      rw [UsbAct.strays, pendingEp_of_pending (by rw [pending, hset, Bool.true_or]), Option.any_some,
        hstoring.allocated.strays_round_ctrl, hset, hsetup, hreceived, strays_irq_in0 hisIn]
      simpa using hstoring.strays_out hreq hgot

/-- What a step does to the bytes of the transfer. -/
theorem CtrlWrite.step (h : CtrlWrite req dev got waiting) (hreq : req.Writes)
    (hgot : got.length ≤ USBD_EP0_BUFFER_SIZE) {obs : List UsbObs} {i : UsbAct} (hi : KeepsWrite i)
    (hc : Contained (dev, obs) i) :
    ∃ got' waiting', CtrlWrite req (usbMachine.step dev i).1 got' waiting' ∧
      got' ++ waiting' = got ++ waiting ++ outTaken dev i ∧
      got'.length ≤ USBD_EP0_BUFFER_SIZE := by
  have hnothing : outTaken dev i = [] → got ++ waiting = got ++ waiting ++ outTaken dev i := by
    intro hnil
    rw [hnil, List.append_nil]
  -- Only an OUT packet to endpoint 0 adds bytes, and only the handler stores them.
  cases i with
  | inToken n ack =>
      refine ⟨got, waiting, ?_, hnothing rfl, hgot⟩
      by_cases hn : n = 0
      · subst hn
        exact h.busIn ack
      · exact h.away (h.allocated.away_busIn hn ack).1
  | outToken n bytes =>
      by_cases hn : n = 0
      · subst hn
        exact ⟨got, _, h.busOut bytes, (List.append_assoc ..).symm, hgot⟩
      · refine ⟨got, waiting, ?_, hnothing (if_neg fun h0 => hn h0.1), hgot⟩
        simp only [usbMachine, h.allocated.busOut_of_ne hn bytes]
        exact h
  | setup req => exact absurd hi not_false
  | busReset => exact absurd hi not_false
  | irq =>
      obtain ⟨got', waiting', hnext, hsame⟩ := h.irq hreq
      refine ⟨got', waiting', hnext, hsame.trans (hnothing rfl), ?_⟩
      -- What waits fits behind what is stored.
      have hfits : got.length + waiting.length ≤ USBD_EP0_BUFFER_SIZE := by
        refine Nat.le_of_not_lt fun hover => ?_
        have hstrays := (h.strays_iff hreq hgot).mpr hover
        exact absurd (hstrays.symm.trans hc.2) (by decide)
      have hlen := congrArg List.length hsame
      rw [List.length_append, List.length_append] at hlen
      omega
  | reportIn i bytes =>
      exact ⟨got, waiting, h.away (h.allocated.away_reportIn i hc.1), hnothing rfl, hgot⟩

/-- The bytes in `CtrlData` and in the receive buffer are those that the endpoint has taken. -/
theorem CtrlWrite.run (h : CtrlWrite req dev got waiting) (hreq : req.Writes)
    (hgot : got.length ≤ USBD_EP0_BUFFER_SIZE) {obs : List UsbObs} {post : List UsbAct}
    (hpost : ∀ i ∈ post, KeepsWrite i) (hc : usbMachine.Meets Contained (dev, obs) post) :
    ∃ got' waiting', CtrlWrite req (usbMachine.exec (dev, obs) post).1 got' waiting' ∧
      got' ++ waiting' = got ++ waiting ++ outBytes dev post ∧
      got'.length ≤ USBD_EP0_BUFFER_SIZE := by
  induction post generalizing dev got waiting obs with
  | nil => exact ⟨got, waiting, h, (List.append_nil _).symm, hgot⟩
  | cons i is ih =>
      obtain ⟨got₁, waiting₁, h₁, hsame₁, hgot₁⟩ := h.step hreq hgot (hpost i (.head _)) hc.1
      obtain ⟨got₂, waiting₂, h₂, hsame₂, hgot₂⟩ :=
        ih h₁ hgot₁ (fun j hj => hpost j (.tail _ hj)) hc.2
      refine ⟨got₂, waiting₂, h₂, ?_, hgot₂⟩
      rw [hsame₂, hsame₁, outBytes, List.append_assoc]

end

/-! ### The run -/

/-- The SETUP packet asks for the write. -/
theorem ReportRequest.writeAsked {dev : UsbDevice} {req : SetupRequest} (hreq : ReportRequest dev req)
    (h : Allocated dev) : WriteAsked req (busSetup dev req) := by
  have hstack : busSetup dev req =
      { dev with epr := (busSetup dev req).epr, pma := (busSetup dev req).pma } := by
    rw [busSetup]
    split_ifs <;> rfl
  refine ⟨hreq.toTakenRequest.setupAsked h, ?_, ?_⟩
  · rw [hstack]
    exact hreq.config
  · rw [hstack]
    exact hreq.mounted

/-- It is a `SET_REPORT`. -/
theorem ReportRequest.setsReport {dev : UsbDevice} {req : SetupRequest} (hreq : ReportRequest dev req)
    (h : Allocated dev) : req.SetsReport := by
  refine ⟨hreq.requestType, hreq.request, ?_⟩
  rw [← h.tables.ifs.length_eq]
  exact hreq.mounted

/-- When the handler has nothing left to do, no packet waits and the endpoint is ready for the next.
-/
theorem CtrlWrite.ready_of_pendingEp {req : SetupRequest} {got waiting : List U8} {dev : UsbDevice}
    (h : CtrlWrite req dev got waiting) (hdone : pendingEp dev = none) :
    waiting = [] ∧ (eprHalf .rx (dev.epr 0)).stat = .valid := by
  have hnone := flag_of_pendingEp hdone .rx (r := 0) (by decide)
  cases h with
  | asked hasked =>
      rw [hasked.flag_rx] at hnone
      exact absurd hnone (by decide)
  | ready _ hrx _ => exact ⟨rfl, hrx⟩
  | full _ _ hset _ _ =>
      rw [hset] at hnone
      exact absurd hnone (by decide)

/-- What is in `CtrlData`, and the length of the packet that waits. -/
theorem CtrlWrite.bytes {req : SetupRequest} {got waiting : List U8} {dev : UsbDevice}
    (h : CtrlWrite req dev got waiting) :
    dev.ctrlData.bytes got.length = got ∧ waiting.length ≤ 64 := by
  cases h with
  | asked _ => exact ⟨rfl, by simp⟩
  | ready hstoring _ _ => exact ⟨hstoring.stored, by simp⟩
  | full hstoring _ _ _ hcount => exact ⟨hstoring.stored, (Pma.length_packet ..).trans_le hcount⟩

/-- A `SET_REPORT` request: whatever happens in the meantime, the bytes that endpoint 0 takes are
stored from the start of `CtrlData` on, each once and in order, but for the packet that the handler
has yet to see. When it has nothing left to do, all are stored and the endpoint is ready for more,
whether `wLength` bytes have come or not. Nothing counts them: the first packet that does not fit in
the rest of the 64 bytes is stored behind the end of `CtrlData`. -/
theorem setReport_stored (pma : Pma) {pre post : List UsbAct} {req : SetupRequest}
    (hrun : usbMachine.Meets Contained (usbDeviceInit pma, []) (pre ++ .setup req :: post))
    (hpost : ∀ i ∈ post, KeepsWrite i)
    (hreq : WriteRequest (usbMachine.exec (usbDeviceInit pma, []) pre).1 req) :
    let c := usbMachine.exec (usbDeviceInit pma, []) pre
    let dev' := (usbMachine.exec c (.setup req :: post)).1
    ∃ stored waiting, stored ++ waiting = outBytes c.1 (.setup req :: post) ∧
      dev'.ctrlData.bytes stored.length = stored ∧ stored.length ≤ USBD_EP0_BUFFER_SIZE ∧
      waiting.length ≤ 64 ∧
      (pendingEp dev' = none → waiting = [] ∧ (eprHalf .rx (dev'.epr 0)).stat = .valid) ∧
      (UsbAct.irq.strays dev' = true ↔ USBD_EP0_BUFFER_SIZE < stored.length + waiting.length) := by
  intro c dev'
  obtain ⟨hpre, -, hrest⟩ := (usbMachine.meets_append ..).mp hrun
  rcases inOrder_run pma (fitsPacket_of_contained hpre) with ⟨hfresh, -⟩ | ⟨ha, -, -⟩
  · exact absurd hfresh hreq.toTakenRequest.not_fresh
  · have hwrites : req.Writes := ⟨hreq.setsReport ha, hreq.length⟩
    obtain ⟨stored, waiting, hend, hsame, hfits⟩ :=
      (CtrlWrite.asked (hreq.writeAsked ha)).run hwrites (Nat.zero_le _) hpost hrest
    exact ⟨stored, waiting, hsame, hend.bytes.1, hfits, hend.bytes.2, hend.ready_of_pendingEp,
      hend.strays_iff hwrites hfits⟩

/-- `SET_REPORT` of the LEDs of the keyboard, one byte. -/
def setLeds : SetupRequest where
  requestType := 0x21
  request := HID_REQ_SET_REPORT
  value := 0x0200
  index := 0
  length := 1

/-- The host sends the byte, and then more than it has asked for. The last packet is one byte too
long. -/
def writeMore : List UsbAct :=
  [.inToken 0 true, .irq, .outToken 0 [2], .irq, .outToken 0 (List.replicate 60 0xAA),
    .reportIn 0 [0, 0, 4, 0, 0, 0, 0, 0], .outToken 0 [3], .irq, .inToken 0 true, .irq,
    .outToken 0 [4, 5, 6, 7]]

/-- On the run `writeMore` the bytes are stored, up to the packet that is too long. -/
theorem writeMore_stored :
    let c := usbMachine.exec (usbDeviceInit fun _ => 0, []) configure
    let dev' := (usbMachine.exec c (.setup setLeds :: writeMore)).1
    outBytes c.1 (.setup setLeds :: writeMore) = 2 :: List.replicate 60 0xAA ++ [4, 5, 6, 7] ∧
      UsbAct.irq.strays dev' = true ∧
      ∃ stored waiting, stored ++ waiting = outBytes c.1 (.setup setLeds :: writeMore) ∧
        dev'.ctrlData.bytes stored.length = stored ∧ stored.length ≤ USBD_EP0_BUFFER_SIZE ∧
        waiting.length ≤ 64 ∧
        (pendingEp dev' = none → waiting = [] ∧ (eprHalf .rx (dev'.epr 0)).stat = .valid) ∧
        (UsbAct.irq.strays dev' = true ↔ USBD_EP0_BUFFER_SIZE < stored.length + waiting.length) := by
  refine ⟨by decide +kernel, by decide +kernel, setReport_stored _ (by decide +kernel) ?_ ?_⟩
  · simp [writeMore, KeepsWrite]
  · exact ⟨⟨⟨by decide +kernel, by decide +kernel, by decide +kernel⟩, by decide, by decide,
      by decide +kernel, by decide +kernel⟩, by decide⟩

end PikvmHid
