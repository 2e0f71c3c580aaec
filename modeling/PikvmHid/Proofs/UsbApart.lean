import PikvmHid.Lib.Footprint
import PikvmHid.Proofs.UsbWrites
import PikvmHid.Spec.UsbSystem

/-!
# `PikvmHid.Proofs.UsbApart`: the stack beside a report that is being written

A `PartReport` is what a call of `USBD_HID_ReportIn` has stored so far: a change of the endpoint handle
and stores in its part of the packet memory. Whatever the stack does on the control endpoint and
on the other pipe can be done before these stores or after them: `irq_on`, `busIn_on`, `busOut_on`,
`busSetup_on`. The functions of the stack are taken one by one, from the driver up.
-/

set_option autoImplicit false

namespace PikvmHid

/-! ### The stores of a report -/

/-- The halfwords of a report: `TX_COUNT` and the buffer. -/
def HidIf.region (itf : HidIf) (i : Nat) : Prop :=
  i = bdtTxCount itf.regId ∨
    itf.pmaAddress / 2 ≤ i ∧ i < itf.pmaAddress / 2 + (itf.reportSize + 1) / 2

instance (itf : HidIf) (i : Nat) : Decidable (itf.region i) :=
  inferInstanceAs (Decidable (_ ∨ _ ∧ _))

/-- The counts of the control endpoint and its buffer are elsewhere. -/
theorem HidIf.not_region (itf : HidIf) {i : Nat} (h : i < 5 ∨ 24 ≤ i ∧ i < 56) : ¬ itf.region i := by
  cases itf <;>
    simp [HidIf.region, bdtTxCount, HidIf.regId, HidIf.pmaAddress, HidIf.reportSize,
      HID_KB_REPORT_BYTE, HID_MS_REPORT_BYTE] <;> omega

/-- The store of a halfword. -/
theorem Pma.set_eq_update (p : Pma) (i : Nat) (v : U16) : p.set i v = Function.update p i v := by
  funext j
  by_cases h : j = i
  · rw [h, Pma.set_self, Function.update_self]
  · rw [Pma.set_of_ne p h, Function.update_of_ne h]

/-- A report of `itf` that is partly written. -/
structure PartReport (itf : HidIf) where
  handle : UsbEp → UsbEp
  stores : Pma → Pma
  same : ∀ ep, (handle ep).maxPacketSize = ep.maxPacketSize ∧ (handle ep).type = ep.type ∧
    (handle ep).regId = ep.regId
  halted : ∀ ep, ep.state ≠ .stall → (handle ep).state ≠ .stall
  within : Lib.Within itf.region stores

/-- The device with these stores. -/
def PartReport.on {itf : HidIf} (part : PartReport itf) (dev : UsbDevice) : UsbDevice :=
  (dev.setIn itf.epNum (part.handle (dev.epIn itf.epNum))).setPma part.stores

/-- A function of the packet memory that avoids the report of every interface. -/
def AvoidsReports (f : Pma → Pma) : Prop := ∀ itf : HidIf, Lib.Avoids itf.region f

/-- One store elsewhere. -/
theorem avoidsReports_set {i : Nat} (hi : i < 5 ∨ 24 ≤ i ∧ i < 56) (v : U16) :
    AvoidsReports fun p => p.set i v := by
  intro itf
  simp only [Pma.set_eq_update]
  exact Lib.Avoids.update (itf.not_region hi) fun _ _ _ => rfl

/-- Many stores elsewhere. -/
theorem avoidsReports_writePMA_loop (n : Nat) (src : Buffer) (dst : Nat) (h : 24 ≤ dst)
    (hn : dst + n ≤ 56) : AvoidsReports (usbPrvWritePMA.loop n src dst) := by
  intro itf
  induction n generalizing src dst with
  | zero => exact ⟨fun _ _ _ => rfl, fun _ _ hm => hm⟩
  | succ n ih =>
      have hset := avoidsReports_set (i := dst) (by omega) (halfword (src 0) (src 1)) itf
      exact hset.comp (ih (src.drop 2) (dst + 1) (by omega) (by omega))

/-- A packet in the buffer of the control endpoint. -/
theorem avoidsReports_writePMA (src : Buffer) {n : Nat} (hn : n ≤ 64) :
    AvoidsReports (usbPrvWritePMA src 48 n) :=
  avoidsReports_writePMA_loop _ src _ (by omega) (by omega)

namespace PartReport

section
variable {itf : HidIf} (part : PartReport itf) (dev : UsbDevice)

/-- The other IN endpoints are as they were. -/
theorem epIn_on {n : Nat} (hn : n ≠ itf.epNum) : (part.on dev).epIn n = dev.epIn n :=
  dev.setIn_of_ne hn _

/-- The halfwords outside the report are as they were. -/
theorem pma_on {i : Nat} (hi : i < 5 ∨ 24 ≤ i ∧ i < 56) : (part.on dev).pma i = dev.pma i :=
  part.within.rest dev.pma i (itf.not_region hi)

/-- An endpoint has kept what it was allocated. -/
theorem ep_on (epAddr : U8) :
    ((part.on dev).ep epAddr).maxPacketSize = (dev.ep epAddr).maxPacketSize ∧
      ((part.on dev).ep epAddr).type = (dev.ep epAddr).type ∧
      ((part.on dev).ep epAddr).regId = (dev.ep epAddr).regId := by
  rw [UsbDevice.ep, UsbDevice.ep]
  split
  · by_cases hn : epIndex epAddr = itf.epNum
    · rw [hn]
      show (((dev.setIn itf.epNum _).epIn itf.epNum).maxPacketSize = _) ∧ _
      rw [on]
      simp only [UsbDevice.setPma, UsbDevice.setIn_self]
      exact part.same _
    · rw [part.epIn_on dev hn]
      exact ⟨rfl, rfl, rfl⟩
  · exact ⟨rfl, rfl, rfl⟩

/-- A store to another IN endpoint. -/
theorem setIn_on {n : Nat} (hn : n ≠ itf.epNum) (ep : UsbEp) :
    (part.on dev).setIn n ep = part.on (dev.setIn n ep) := by
  -- The two handles are different entries of the table.
  have hcomm := Function.update_comm (Ne.symm hn) (part.handle (dev.epIn itf.epNum)) ep dev.epIn
  rw [on, on, dev.setIn_of_ne (Ne.symm hn)]
  simp only [UsbDevice.setIn, UsbDevice.setPma, UsbDevice.mk.injEq, true_and, and_true]
  exact hcomm

/-- A store to an OUT endpoint. -/
theorem setOut_on (n : Nat) (ep : UsbEp) : (part.on dev).setOut n ep = part.on (dev.setOut n ep) := rfl

/-- A write to a register. -/
theorem setEpr_on (r : Nat) (f : U16 → U16) : (part.on dev).setEpr r f = part.on (dev.setEpr r f) :=
  rfl

/-- A store to `CtrlData`. -/
theorem setCtrl_on (bytes : List U8) : (part.on dev).setCtrl bytes = part.on (dev.setCtrl bytes) := rfl

/-- A change of an interface handle. -/
theorem modifyIf_on (i : Nat) (f : HidIfHandle → HidIfHandle) :
    (part.on dev).modifyIf i f = part.on (dev.modifyIf i f) := rfl

/-- A store to the packet memory, elsewhere. -/
theorem setPma_on {f : Pma → Pma} (hf : AvoidsReports f) :
    (part.on dev).setPma f = part.on (dev.setPma f) := by
  -- What stays inside a region commutes with what stays outside.
  have hcomm := part.within.comm (hf itf) dev.pma
  simp only [on, UsbDevice.setIn, UsbDevice.setPma, UsbDevice.mk.injEq, true_and, and_true]
  exact hcomm

end

/-! ### The driver -/

section
variable {itf : HidIf} (part : PartReport itf) {dev : UsbDevice} (h : Allocated dev)
include h

/-- `USB_prvReceivePacket`. -/
theorem receivePacket_on (n : Nat) :
    usbPrvReceivePacket (part.on dev) n = part.on (usbPrvReceivePacket dev n) := by
  -- An OUT endpoint has the control register, so it stores the count of that one.
  have hreg : (usbPrvNextPacketSize (dev.epOut n)).2.regId = 0 :=
    (nextPacketSize_is _).2.2.trans (h.tables.out n).regId
  have hout : (part.on dev).epOut n = dev.epOut n := rfl
  simp only [usbPrvReceivePacket, hout, hreg]
  rw [part.setOut_on, part.setPma_on _ (avoidsReports_set (by decide) _), part.setEpr_on]

/-- `USB_prvTransmitPacket` on the control endpoint. -/
theorem transmitPacket_on :
    usbPrvTransmitPacket (part.on dev) 0 = part.on (usbPrvTransmitPacket dev 0) := by
  have h0 := h.tables.inRest 0 HidIf.zero_ne_epNum
  obtain ⟨-, -, hr⟩ := nextPacketSize_is (dev.epIn 0)
  have hreg : (usbPrvNextPacketSize (dev.epIn 0)).2.regId = 0 := hr.trans h0.regId
  have hlen : (usbPrvNextPacketSize (dev.epIn 0)).1 ≤ 64 :=
    (nextPacketSize_le _).trans (h0.maxPacketSize ▸ ctrlMps_le 0)
  have haddr : (dev.pma (bdtTxAddr 0)).toNat = 48 := h.layout.toNat_txAddr
  have haddr' : ((part.on dev).pma (bdtTxAddr 0)).toNat = 48 := by
    rw [part.pma_on dev (by decide), haddr]
  have hin : (part.on dev).epIn 0 = dev.epIn 0 := part.epIn_on dev itf.zero_ne_epNum
  have hctrl : (part.on dev).ctrlData = dev.ctrlData := rfl
  simp only [usbPrvTransmitPacket, hin, hreg, haddr, haddr', hctrl]
  -- The packet goes to the buffer at 48 and fits in it.
  have hwrite : AvoidsReports fun p =>
      usbPrvWritePMA ((usbPrvNextPacketSize (dev.epIn 0)).2.data.read dev.ctrlData) 48
        (usbPrvNextPacketSize (dev.epIn 0)).1
        (p.set (bdtTxCount 0) (.ofNat 16 (usbPrvNextPacketSize (dev.epIn 0)).1)) :=
    fun itf => (avoidsReports_set (by decide) _ itf).comp (avoidsReports_writePMA _ hlen itf)
  rw [part.setIn_on _ itf.zero_ne_epNum, part.setPma_on _ hwrite, part.setEpr_on]

/-- `USB_vEpSend` on the control endpoint. -/
theorem epSend_on (data : DataPtr) (length : Nat) :
    usbVEpSend (part.on dev) 0x80 data length = part.on (usbVEpSend dev 0x80 data length) := by
  have hload : loadCtrl (part.on dev) data length = part.on (loadCtrl dev data length) := by
    rw [loadCtrl, loadCtrl, part.epIn_on dev itf.zero_ne_epNum,
      part.setIn_on dev itf.zero_ne_epNum]
  rw [epSend_eq, epSend_eq, hload, part.transmitPacket_on (h.load data length)]

/-- `USB_vEpReceive`. -/
theorem epReceive_on (epAddr : U8) (data : DataPtr) (length : Nat) :
    usbVEpReceive (part.on dev) epAddr data length =
      part.on (usbVEpReceive dev epAddr data length) := by
  have hload : UsbFramed dev (dev.setOut epAddr.toNat
      { dev.epOut epAddr.toNat with data := data, progress := length, length := 0 }) :=
    framed_setOut rfl rfl rfl
  exact part.receivePacket_on (hload h).1 epAddr.toNat

omit h in
/-- `USB_vEpSetStall`. -/
theorem setStall_on (epAddr : U8) :
    usbVEpSetStall (part.on dev) epAddr = part.on (usbVEpSetStall dev epAddr) := by
  rw [usbVEpSetStall, usbVEpSetStall, (part.ep_on dev epAddr).2.2, part.setEpr_on]

/-! ### Control transfers -/

omit h in
/-- `USBD_CtrlSendError`. -/
theorem ctrlSendError_on : usbdCtrlSendError (part.on dev) = part.on (usbdCtrlSendError dev) := by
  have h0 : (0 : Nat) ≠ itf.epNum := itf.zero_ne_epNum
  simp only [usbdCtrlSendError, part.setStall_on, part.epIn_on _ h0, part.setIn_on _ h0]
  rfl

/-- `USBD_CtrlSendStatus`. -/
theorem ctrlSendStatus_on : usbdCtrlSendStatus (part.on dev) = part.on (usbdCtrlSendStatus dev) := by
  have h0 : (0 : Nat) ≠ itf.epNum := itf.zero_ne_epNum
  have hstate : UsbFramed dev (dev.setIn 0 { dev.epIn 0 with state := .status }) :=
    framed_setIn0 rfl rfl rfl
  rw [usbdCtrlSendStatus, usbdCtrlSendStatus, part.epIn_on _ h0, part.setIn_on _ h0]
  exact part.epSend_on (hstate h).1 _ _

/-- `USBD_CtrlReceiveStatus`. -/
theorem ctrlReceiveStatus_on :
    usbdCtrlReceiveStatus (part.on dev) = part.on (usbdCtrlReceiveStatus dev) := by
  have hstate : UsbFramed dev (dev.setOut 0 { dev.epOut 0 with state := .status }) :=
    framed_setOut rfl rfl rfl
  exact part.epReceive_on (hstate h).1 0x00 .null 0

end

/-- A result of the stack with the stores of the report. -/
def onResult {itf : HidIf} (part : PartReport itf) (r : UsbdReturn × UsbDevice) :
    UsbdReturn × UsbDevice := (r.1, part.on r.2)

section
variable {itf : HidIf} (part : PartReport itf) {dev : UsbDevice} (h : Allocated dev)
include h

/-- `USBD_CtrlSendData`. -/
theorem ctrlSendData_on (data : DataPtr) (len : Nat) :
    usbdCtrlSendData (part.on dev) data len = part.onResult (usbdCtrlSendData dev data len) := by
  have h0 : (0 : Nat) ≠ itf.epNum := itf.zero_ne_epNum
  have hout : (part.on dev).epOut = dev.epOut := rfl
  have hsetup : (part.on dev).setup = dev.setup := rfl
  have hstate : UsbFramed dev (dev.setIn 0 { dev.epIn 0 with state := .data }) :=
    framed_setIn0 rfl rfl rfl
  rw [usbdCtrlSendData, usbdCtrlSendData, hout, hsetup, part.epIn_on _ h0, part.setIn_on _ h0]
  split
  · exact congrArg (Prod.mk _) (part.epSend_on (hstate h).1 _ _)
  · rfl

/-- `USBD_CtrlReceiveData`. -/
theorem ctrlReceiveData_on (data : DataPtr) :
    usbdCtrlReceiveData (part.on dev) data = part.onResult (usbdCtrlReceiveData dev data) := by
  have hout : (part.on dev).epOut = dev.epOut := rfl
  have hsetup : (part.on dev).setup = dev.setup := rfl
  have hstate : UsbFramed dev (dev.setOut 0 { dev.epOut 0 with state := .data }) :=
    framed_setOut rfl rfl rfl
  rw [usbdCtrlReceiveData, usbdCtrlReceiveData, hout, hsetup, part.setOut_on]
  split
  · exact congrArg (Prod.mk _) (part.epReceive_on (hstate h).1 _ _ _)
  · rfl

/-- Data sent from `CtrlData`. -/
theorem sendCtrl_on (bytes : List U8) (len : Nat) :
    usbdCtrlSendData ((part.on dev).setCtrl bytes) (.ctrlData 0) len =
      part.onResult (usbdCtrlSendData (dev.setCtrl bytes) (.ctrlData 0) len) := by
  rw [part.setCtrl_on]
  exact part.ctrlSendData_on (framed_setCtrl dev bytes h).1 _ _

/-! ### The HID class -/

/-- `HID_SetupStage`. -/
theorem hidSetupStage_on (i : Nat) (handle : HidIfHandle) :
    hidSetupStage (part.on dev) i handle = part.onResult (hidSetupStage dev i handle) := by
  have hsetup : (part.on dev).setup = dev.setup := rfl
  rw [hidSetupStage, hidSetupStage, hsetup]
  split
  · -- Standard requests send a descriptor.
    rw [hidSetupStage.standard, hidSetupStage.standard, hsetup]
    split_ifs
    · exact part.sendCtrl_on h _ _
    · exact part.ctrlSendData_on h _ _
    · rfl
    · rfl
  · split
    · -- Class requests receive a report, or send and set the idle rate.
      simp only [hidSetupStage.class, hsetup]
      split_ifs
      · rfl
      · rfl
      · exact part.ctrlReceiveData_on h _
      · exact part.sendCtrl_on h _ _
      · rfl
      · rfl
      · rfl
    · rfl

omit h in
/-- `HID_DataStage`. -/
theorem hidDataStage_on (i : Nat) : hidDataStage (part.on dev) i = part.on (hidDataStage dev i) := by
  have hsetup : (part.on dev).setup = dev.setup := rfl
  rw [hidDataStage, hidDataStage, hsetup]
  split <;> rfl

/-! ### Requests -/

omit h in
/-- The descriptors do not show the report. -/
theorem sameReply (dev : UsbDevice) : SameReply dev (part.on dev) where
  setup := rfl
  desc := rfl
  ifs := rfl
  config := rfl
  wakeup := rfl
  powered := rfl
  ep epAddr := ⟨(part.ep_on dev epAddr).2.1, (part.ep_on dev epAddr).1⟩

/-- `USBD_GetDescriptor`. -/
theorem getDescriptor_on :
    usbdGetDescriptor (part.on dev) = part.onResult (usbdGetDescriptor dev) := by
  have hreply := part.sameReply dev
  simp only [usbdGetDescriptor, hreply.setup, hreply.deviceDesc, hreply.configDesc, hreply.string]
  split_ifs
  · exact part.sendCtrl_on h _ _
  · exact part.sendCtrl_on h _ _
  · exact part.ctrlSendData_on h _ _
  · split
    · exact part.sendCtrl_on h _ _
    · rfl
  · rfl

/-- `USBD_DevRequest`, but for `SET_CONFIGURATION`. -/
theorem devRequest_on (hconfig : ¬ (dev.setup.type = USB_REQ_TYPE_STANDARD ∧
      dev.setup.request = USB_REQ_SET_CONFIGURATION)) :
    usbdDevRequest (part.on dev) = part.onResult (usbdDevRequest dev) := by
  have hsetup : (part.on dev).setup = dev.setup := rfl
  have hfeature : ∀ b, usbdFeature b (part.on dev) = part.onResult (usbdFeature b dev) := by
    intro b
    rw [usbdFeature, usbdFeature, hsetup]
    split <;> rfl
  simp only [usbdDevRequest, hsetup]
  split_ifs with htype _ _ hset
  · exact part.getDescriptor_on h
  · rfl
  · exact absurd ⟨htype, hset⟩ hconfig
  · exact part.sendCtrl_on h _ _
  · exact part.sendCtrl_on h _ _
  · exact hfeature true
  · exact hfeature false
  · rfl
  · rfl

/-- `USBD_IfRequest`, but for `SET_INTERFACE`. -/
theorem ifRequest_on (hset : ¬ (dev.setup.type = USB_REQ_TYPE_STANDARD ∧
      dev.setup.request = USB_REQ_SET_INTERFACE)) :
    usbdIfRequest (part.on dev) = part.onResult (usbdIfRequest dev) := by
  have hsetup : (part.on dev).setup = dev.setup := rfl
  have hifs : (part.on dev).ifs = dev.ifs := rfl
  have hsel : (part.on dev).configSelector = dev.configSelector := rfl
  simp only [usbdIfRequest, hsetup, hifs, hsel]
  split
  · split_ifs with _ htype _ hif
    · rfl
    · exact part.ctrlSendData_on h _ _
    · exact absurd ⟨htype, hif⟩ hset
    · exact absurd ⟨htype, hif⟩ hset
    · exact part.hidSetupStage_on h _ _
    · exact part.hidSetupStage_on h _ _
  · rfl

omit h in
/-- An endpoint is halted or not, as it was. -/
theorem stall_on (hstate : (dev.epIn itf.epNum).state ≠ .stall) (epAddr : U8) :
    ((part.on dev).ep epAddr).state = .stall ↔ (dev.ep epAddr).state = .stall := by
  rw [UsbDevice.ep, UsbDevice.ep]
  split
  · by_cases hn : epIndex epAddr = itf.epNum
    · rw [hn, on]
      simp only [UsbDevice.setPma, UsbDevice.setIn_self]
      exact iff_of_false (part.halted _ hstate) hstate
    · rw [part.epIn_on dev hn]
  · exact Iff.rfl

/-- `USBD_EpRequest`, but for the halt feature. -/
theorem epRequest_on (hstate : (dev.epIn itf.epNum).state ≠ .stall)
    (hhalt : ¬ (dev.setup.type = USB_REQ_TYPE_STANDARD ∧
      (dev.setup.request = USB_REQ_SET_FEATURE ∨ dev.setup.request = USB_REQ_CLEAR_FEATURE))) :
    usbdEpRequest (part.on dev) = part.onResult (usbdEpRequest dev) := by
  -- Only `GET_STATUS` looks at an endpoint, and only whether it is halted.
  have hsetup : (part.on dev).setup = dev.setup := rfl
  have hsel : (part.on dev).configSelector = dev.configSelector := rfl
  simp only [usbdEpRequest, hsetup, hsel, part.stall_on hstate]
  by_cases htype : dev.setup.type = USB_REQ_TYPE_STANDARD
  · have hset : ¬ dev.setup.request = USB_REQ_SET_FEATURE := fun hs => hhalt ⟨htype, .inl hs⟩
    have hclear : ¬ dev.setup.request = USB_REQ_CLEAR_FEATURE := fun hs => hhalt ⟨htype, .inr hs⟩
    simp only [if_neg hset, if_neg hclear]
    split_ifs
    · rfl
    · exact part.sendCtrl_on h _ _
    · exact part.sendCtrl_on h _ _
    · rfl
  · rw [if_neg htype, if_neg htype]
    split_ifs <;> rfl

/-- A request that does not reconfigure. -/
theorem route_on (hstate : (dev.epIn itf.epNum).state ≠ .stall) (hreq : ¬ dev.setup.Reconfigures) :
    usbdSetupCallback.route (part.on dev) = part.onResult (usbdSetupCallback.route dev) := by
  have hsetup : (part.on dev).setup = dev.setup := rfl
  rw [usbdSetupCallback.route, usbdSetupCallback.route, hsetup]
  split_ifs with hdev hif hep
  · exact part.devRequest_on h fun hr => hreq ⟨hr.1, .inl ⟨hdev, hr.2⟩⟩
  · exact part.ifRequest_on h fun hr => hreq ⟨hr.1, .inr (.inl ⟨hif, hr.2⟩)⟩
  · exact part.epRequest_on h hstate fun hr => hreq ⟨hr.1, .inr (.inr ⟨hep, hr.2⟩)⟩
  · rfl

/-! ### Callbacks -/

/-- `USBD_SetupCallback` of a request that does not reconfigure. -/
theorem setupCallback_on (hstate : (dev.epIn itf.epNum).state ≠ .stall)
    (hreq : ¬ dev.setup.Reconfigures) :
    usbdSetupCallback (part.on dev) = part.on (usbdSetupCallback dev) := by
  have hout : (part.on dev).epOut = dev.epOut := rfl
  have hmark : UsbFramed dev (dev.setOut 0 { dev.epOut 0 with state := .setup }) :=
    framed_setOut rfl rfl rfl
  have hmarked := (hmark h).1
  have hrouted := (settled_route _ hmarked).1
  have hroute := part.route_on hmarked hstate hreq
  rw [usbdSetupCallback, usbdSetupCallback, hout, part.setOut_on, hroute]
  -- The answer is the same, so the transfer goes on in the same way.
  have hsetup : ∀ r : UsbdReturn × UsbDevice, (part.onResult r).2.setup = r.2.setup := fun _ => rfl
  have hreturn : ∀ r : UsbdReturn × UsbDevice, (part.onResult r).1 = r.1 := fun _ => rfl
  simp only [hsetup, hreturn]
  split_ifs
  · exact part.ctrlSendError_on
  · exact part.ctrlSendStatus_on hrouted
  · rfl

/-- `USBD_CtrlInCallback`. -/
theorem ctrlInCallback_on :
    usbdCtrlInCallback (part.on dev) = part.on (usbdCtrlInCallback dev) := by
  have h0 : (0 : Nat) ≠ itf.epNum := itf.zero_ne_epNum
  have hzlp : usbdNeedsZlp (part.on dev) = usbdNeedsZlp dev := by
    rw [usbdNeedsZlp, usbdNeedsZlp, part.epIn_on _ h0]
    rfl
  have hidle : UsbFramed dev (dev.setIn 0 { dev.epIn 0 with state := .idle }) :=
    framed_setIn0 rfl rfl rfl
  have hdata := fun i => (framed_hidDataStage _ i (hidle h).1).1
  have hsetup : ∀ d : UsbDevice, (part.on d).setup = d.setup := fun _ => rfl
  have hsel : ∀ d : UsbDevice, (part.on d).configSelector = d.configSelector := fun _ => rfl
  rw [usbdCtrlInCallback, usbdCtrlInCallback, hzlp, part.epIn_on _ h0, part.setIn_on _ h0]
  simp only [hsetup, hsel]
  split_ifs
  · exact part.epSend_on h _ _
  · rw [part.hidDataStage_on]
    exact part.ctrlReceiveStatus_on (hdata _)
  · exact part.ctrlReceiveStatus_on (hidle h).1
  · rfl
  · rfl

/-- `USBD_CtrlOutCallback`. -/
theorem ctrlOutCallback_on :
    usbdCtrlOutCallback (part.on dev) = part.on (usbdCtrlOutCallback dev) := by
  have hdata := fun i => (framed_hidDataStage _ i h).1
  have hsetup : (part.on dev).setup = dev.setup := rfl
  have hsel : (part.on dev).configSelector = dev.configSelector := rfl
  rw [usbdCtrlOutCallback, usbdCtrlOutCallback, hsetup, hsel]
  split_ifs
  · simp only []
    rw [part.hidDataStage_on]
    exact part.ctrlSendStatus_on (hdata _)
  · exact part.ctrlSendStatus_on h
  · rfl

/-- `USBD_EpOutCallback` on the control endpoint. -/
theorem epOutCallback_on :
    usbdEpOutCallback (part.on dev) 0 = part.on (usbdEpOutCallback dev 0) := by
  have hidle : UsbFramed dev (dev.setOut 0 { dev.epOut 0 with state := .idle }) :=
    framed_setOut rfl rfl rfl
  have hout : (part.on dev).epOut = dev.epOut := rfl
  rw [usbdEpOutCallback, usbdEpOutCallback, hout, part.setOut_on]
  exact part.ctrlOutCallback_on (hidle h).1

/-! ### The handler -/

/-- The request that waits is not part of the report. -/
theorem bufferedSetup_on : bufferedSetup (part.on dev) 0 = bufferedSetup dev 0 :=
  bufferedSetup_congr h.layout fun i hi => part.pma_on dev (by omega)

/-- A SETUP packet that does not reconfigure. -/
theorem irq_setup_on (hstate : (dev.epIn itf.epNum).state ≠ .stall)
    (hreq : ¬ (bufferedSetup dev 0).Reconfigures) :
    usbVIRQHandler.setup (part.on dev) 0 = part.on (usbVIRQHandler.setup dev 0) := by
  have hstored := (framed_storeSetup dev (bufferedSetup dev 0) h).1
  have hbuffer := part.bufferedSetup_on h
  show usbdSetupCallback
      { (part.on dev).setEpr 0 (flagClear .rx) with setup := bufferedSetup (part.on dev) 0 } = _
  rw [hbuffer]
  exact part.setupCallback_on hstored hstate hreq

/-- The packet that was received is not, either. -/
theorem outStored_on : outStored (part.on dev) = part.on (outStored dev) := by
  have haddr : (dev.pma (bdtRxAddr 0)).toNat = 48 := h.layout.toNat_rxAddr
  have hcount : rxCount (part.on dev) = rxCount dev := by
    rw [rxCount, rxCount, part.pma_on dev (by decide)]
  -- The packet is in the buffer of the control endpoint, which has 64 bytes.
  have hle : rxCount dev ≤ 64 := h.layout.rxCount
  have hpacket : (part.on dev).pma.packet 48 (rxCount dev) = dev.pma.packet 48 (rxCount dev) := by
    apply Pma.packet_congr
    intro b hb hb'
    rw [Pma.byte, Pma.byte, part.pma_on dev (by omega)]
  have hread : usbPrvReadPMA (part.on dev).pma ((part.on dev).pma (bdtRxAddr 0)).toNat (rxCount dev) =
      usbPrvReadPMA dev.pma (dev.pma (bdtRxAddr 0)).toNat (rxCount dev) := by
    rw [part.pma_on dev (by decide), haddr, readPMA_eq_packet _ (by decide), hpacket,
      readPMA_eq_packet _ (by decide)]
  have hout : (part.on dev).epOut = dev.epOut := rfl
  rw [outStored, outStored, hcount, hread, hout]
  rfl

/-- An OUT packet. -/
theorem irq_out_on : usbVIRQHandler.out (part.on dev) 0 0 = part.on (usbVIRQHandler.out dev 0 0) := by
  have hstored := (framed_outStored dev h).1
  have hcount : rxCount (part.on dev) = rxCount dev := by
    rw [rxCount, rxCount, part.pma_on dev (by decide)]
  have hout : (part.on dev).epOut = dev.epOut := rfl
  rw [irq_out0_eq, irq_out0_eq, hcount, hout, part.outStored_on h]
  split
  · rw [part.epOutCallback_on hstored, part.setPma_on _ (avoidsReports_set (by decide) _),
      part.setEpr_on]
  · exact part.receivePacket_on hstored 0

end

end PartReport

/-- The pipe of the call is open and empty. -/
structure QuietPipe (dev : UsbDevice) (itf : HidIf) : Prop where
  state : (dev.epIn itf.epNum).state = .idle
  stat : (eprHalf .tx (dev.epr itf.regId)).stat ≠ .valid
  ctr : (eprHalf .tx (dev.epr itf.regId)).ctr = false

/-- A pipe whose flag is set is not one at rest. -/
theorem QuietPipe.ne_of_flag {dev : UsbDevice} {itf jtf : HidIf} (h : QuietPipe dev itf)
    (hflag : flag dev .tx jtf.regId = true) : jtf ≠ itf := by
  intro hj
  subst hj
  rw [flag, h.ctr] at hflag
  exact absurd hflag (by decide)

/-- The part of the report is not what waits on another register. -/
theorem HidIf.txCount_not_region {itf : HidIf} {r : Nat}
    (hr : r = 0 ∨ ∃ jtf : HidIf, jtf ≠ itf ∧ r = jtf.regId) : ¬ itf.region (bdtTxCount r) := by
  rcases hr with rfl | ⟨jtf, hne, rfl⟩
  · exact itf.not_region (by decide)
  · cases itf <;> cases jtf <;> first | exact absurd rfl hne | decide

namespace PartReport

section
variable {itf : HidIf} (part : PartReport itf) {dev : UsbDevice} (h : Allocated dev)
include h

/-- The acknowledged packet of the control endpoint or of the other pipe. -/
theorem irq_in_on {r n : Nat} (hr : r = 0 ∨ ∃ jtf : HidIf, jtf ≠ itf ∧ r = jtf.regId)
    (hn : n = 0 ∨ ∃ jtf : HidIf, jtf ≠ itf ∧ n = jtf.epNum) :
    usbVIRQHandler.in (part.on dev) r n = part.on (usbVIRQHandler.in dev r n) := by
  have hne : n ≠ itf.epNum := by
    rcases hn with rfl | ⟨jtf, hj, rfl⟩
    · exact itf.zero_ne_epNum
    · exact fun h' => hj (HidIf.epNum_inj h')
  have hflag : Allocated (dev.setEpr r (flagClear .tx)) := by
    rcases hr with rfl | ⟨jtf, -, rfl⟩
    · exact (framed_flagClear0 dev .tx h).1
    · exact ((shuts_flagClear .tx).settled jtf h).1
  have hcount : (part.on dev).pma (bdtTxCount r) = dev.pma (bdtTxCount r) :=
    part.within.rest dev.pma _ (HidIf.txCount_not_region hr)
  have hpma : ∀ d : UsbDevice, (d.setEpr r (flagClear .tx)).pma = d.pma := fun _ => rfl
  have hin : ∀ d : UsbDevice, (d.setEpr r (flagClear .tx)).epIn = d.epIn := fun _ => rfl
  rw [usbVIRQHandler.in, usbVIRQHandler.in]
  simp only [hpma, hin]
  rw [hcount, part.setEpr_on, part.epIn_on dev hne, part.setIn_on _ hne]
  by_cases h0 : n = 0
  · subst h0
    have hadd : UsbFramed (dev.setEpr r (flagClear .tx)) ((dev.setEpr r (flagClear .tx)).setIn 0
        { dev.epIn 0 with
          data := (dev.epIn 0).data.add (dev.pma (bdtTxCount r) &&& 0x3FF).toNat }) :=
      framed_setIn0 rfl rfl rfl
    split
    · exact part.ctrlInCallback_on (hadd hflag).1
    · exact part.transmitPacket_on (hadd hflag).1
  · -- A report is one packet, so its endpoint is idle again.
    have hprogress : (dev.epIn n).progress = 0 := by
      obtain ⟨jtf, -, rfl⟩ := hn.resolve_left h0
      exact h.tables.progress jtf
    rw [if_pos hprogress, if_pos hprogress, usbdEpInCallback, usbdEpInCallback, if_neg h0, if_neg h0,
      part.epIn_on _ hne, part.setIn_on _ hne]

/-- A packet that the control endpoint has received. -/
theorem received_on (hstate : (dev.epIn itf.epNum).state ≠ .stall) (hreq : ¬ Reconfiguring dev) :
    usbVIRQHandler.received (part.on dev) 0 = part.on (usbVIRQHandler.received dev 0) := by
  have hepr : (part.on dev).epr = dev.epr := rfl
  have hnum : (dev.epr 0 &&& USB_EPADDR_FIELD).toNat = 0 := h.num_ctrl
  rw [usbVIRQHandler.received, usbVIRQHandler.received, hepr, hnum]
  split_ifs with hctr hsetup
  · refine part.irq_setup_on h hstate fun hr => hreq ⟨?_, ?_, hr⟩
    · exact (and_ctr_ne_zero_iff .rx _).mp hctr
    · exact (and_setup_ne_zero_iff _).mp hsetup
  · exact part.irq_out_on h
  · rfl

omit h in
/-- It is not seen in the report endpoints. -/
theorem framed_received (hreq : ¬ Reconfiguring dev) :
    UsbFramed dev (usbVIRQHandler.received dev 0) := by
  intro h
  have hnum : (dev.epr 0 &&& USB_EPADDR_FIELD).toNat = 0 := h.num_ctrl
  suffices hf : UsbFramed dev (usbVIRQHandler.received dev 0) from hf h
  rw [usbVIRQHandler.received, hnum]
  split_ifs with hctr hsetup
  · refine framed_irq_setup fun hr => hreq ⟨?_, ?_, hr⟩
    · exact (and_ctr_ne_zero_iff .rx _).mp hctr
    · exact (and_setup_ne_zero_iff _).mp hsetup
  · exact framed_irq_out dev 0
  · exact UsbFramed.refl dev

/-- A round of the control endpoint. -/
theorem round_ctrl_on (hstate : (dev.epIn itf.epNum).state ≠ .stall) (hreq : ¬ Reconfiguring dev) :
    usbVIRQHandler.round (part.on dev) 0 = part.on (usbVIRQHandler.round dev 0) := by
  have hepr : (part.on dev).epr = dev.epr := rfl
  have hnum : (dev.epr 0 &&& USB_EPADDR_FIELD).toNat = 0 := h.num_ctrl
  rw [round_eq_received, round_eq_received, hepr, hnum, part.received_on h hstate hreq]
  split
  · exact part.irq_in_on (framed_received hreq h).1 (.inl rfl) (.inl rfl)
  · rfl

/-- The round that handles the completion of the other pipe. -/
theorem round_pipe_on {jtf : HidIf} (hne : jtf ≠ itf) (hflag : flag dev .tx jtf.regId = true) :
    usbVIRQHandler.round (part.on dev) jtf.regId = part.on (usbVIRQHandler.round dev jtf.regId) := by
  have hrx : flag dev .rx jtf.regId = false := (h.registers.rx jtf).2
  have hround : ∀ n, (eprFields (dev.epr jtf.regId)).ea.toNat = n →
      n = 0 ∨ (∃ jtf : HidIf, jtf ≠ itf ∧ n = jtf.epNum) →
      usbVIRQHandler.round (part.on dev) jtf.regId = part.on (usbVIRQHandler.round dev jtf.regId) := by
    intro n hnum hn
    have hthis := round_eq_in hnum hrx hflag
    have hthat : usbVIRQHandler.round (part.on dev) jtf.regId =
        usbVIRQHandler.in (part.on dev) jtf.regId n := round_eq_in hnum hrx hflag
    rw [hthis, hthat]
    exact part.irq_in_on h (.inr ⟨jtf, hne, rfl⟩) hn
  -- After a bus reset the register has lost its address.
  rcases h.registers.addr jtf with h0 | hown
  · exact hround 0 (by rw [h0]; rfl) (.inl rfl)
  · exact hround jtf.epNum (by rw [hown]; cases jtf <;> rfl) (.inr ⟨jtf, hne, rfl⟩)

/-- The handler, unless it is about to reconfigure the pipes. -/
theorem irq_on (hquiet : QuietPipe dev itf) (hcalm : ¬ Disturbing dev) :
    usbVIRQHandler.step (part.on dev) = part.on (usbVIRQHandler.step dev) := by
  have hstate : (dev.epIn itf.epNum).state ≠ .stall := by simp [hquiet.state]
  have hpending : pendingEp (part.on dev) = pendingEp dev := rfl
  rw [usbVIRQHandler.step, usbVIRQHandler.step, hpending]
  cases hr : pendingEp dev with
  | some r =>
      rcases h.pendingEp_cases hr with ⟨rfl, -⟩ | ⟨jtf, rfl, hflag⟩
      · exact part.round_ctrl_on h hstate fun hreq => hcalm (.inl hreq)
      · -- It is not the pipe of the call, which has no completion.
        exact part.round_pipe_on h (hquiet.ne_of_flag hflag) hflag
  | none =>
      -- No flag and no reset: the handler returns.
      have hreset : dev.reset = false := Bool.eq_false_iff.mpr fun hreset => hcalm (.inr ⟨hreset, hr⟩)
      have hreset' : (part.on dev).reset = false := hreset
      simp only [usbVIRQHandler.tail, hreset, hreset', Bool.false_eq_true, if_false]

/-! ### The bus -/

/-- The packet in a buffer that is not the report's. -/
theorem txPacket_on {r : Nat} (hr : r = 0 ∨ ∃ jtf : HidIf, jtf ≠ itf ∧ r = jtf.regId ∧
      (txPacket dev jtf.regId).length ≤ jtf.reportSize) :
    txPacket (part.on dev) r = txPacket dev r := by
  have hsame : ∀ i, ¬ itf.region i → (part.on dev).pma i = dev.pma i := part.within.rest dev.pma
  have hcount : (part.on dev).pma (bdtTxCount r) = dev.pma (bdtTxCount r) := by
    refine hsame _ (HidIf.txCount_not_region (hr.imp_right fun hjtf => ?_))
    obtain ⟨jtf, hne, hreg, -⟩ := hjtf
    exact ⟨jtf, hne, hreg⟩
  rcases hr with rfl | ⟨jtf, hne, rfl, hfits⟩
  · have haddr : (dev.pma (bdtTxAddr 0)).toNat = 48 := h.layout.toNat_txAddr
    have hle := h.layout.txCount
    rw [txPacket, txPacket, hcount, part.pma_on dev (by decide), haddr]
    apply Pma.packet_congr
    intro b hb hb'
    rw [Pma.byte, Pma.byte, part.pma_on dev (by omega)]
  · have haddr : (dev.pma (bdtTxAddr jtf.regId)).toNat = jtf.pmaAddress :=
    h.layout.toNat_report jtf
    have haddr' : (part.on dev).pma (bdtTxAddr jtf.regId) = dev.pma (bdtTxAddr jtf.regId) :=
      hsame _ (by cases itf <;> cases jtf <;> decide)
    rw [txPacket, Pma.length_packet] at hfits
    rw [txPacket, txPacket, hcount, haddr', haddr]
    apply Pma.packet_congr
    intro b hb hb'
    -- The buffers of the two pipes do not overlap.
    have hapart : ¬ itf.region (b / 2) := by
      have hdisjoint := HidIf.buffers_disjoint hne
      have hbehind : 112 ≤ jtf.pmaAddress := by cases jtf <;> decide
      have htable : bdtTxCount itf.regId < 12 := by cases itf <;> decide
      rintro (htx | ⟨hlow, hhigh⟩)
      · omega
      · omega
    rw [Pma.byte, Pma.byte, hsame _ hapart]

/-- An IN transaction. -/
theorem busIn_on (hquiet : QuietPipe dev itf)
    (hfits : ∀ jtf, ∀ p ∈ waiting dev jtf, p.length ≤ jtf.reportSize) (n : Nat) (ack : Bool) :
    busIn (part.on dev) n ack = (part.on (busIn dev n ack).1, (busIn dev n ack).2) := by
  have hfor : eprFor (part.on dev) .tx n = eprFor dev .tx n := rfl
  have henabled : (part.on dev).enabled = dev.enabled := rfl
  have hepr : (part.on dev).epr = dev.epr := rfl
  rw [busIn, busIn, hfor, henabled, hepr]
  cases hr : eprFor dev .tx n with
  | none => rfl
  | some r =>
      dsimp only
      by_cases hv : dev.enabled ∧ (eprHalf .tx (dev.epr r)).stat = .valid
      · have hne : dev.epr r ≠ 0 := by
          intro h0
          have hstat := hv.2
          rw [h0] at hstat
          exact absurd hstat (by decide)
        -- The register that answers is `VALID`, so it is not that of the call.
        have hpacket : txPacket (part.on dev) r = txPacket dev r := by
          refine part.txPacket_on h ((h.pending_cases hne).imp_right fun hjtf => ?_)
          obtain ⟨jtf, rfl⟩ := hjtf
          refine ⟨jtf, fun hj => ?_, rfl, hfits jtf _ ?_⟩
          · subst hj
            exact hquiet.stat hv.2
          · rw [waiting, if_pos hv.2]
            exact List.mem_singleton_self _
        rw [if_pos hv, if_pos hv, hpacket]
        cases ack
        · rfl
        · rfl
      · rw [if_neg hv, if_neg hv]

/-- A received packet goes to the buffer of the control endpoint. -/
theorem rxStore_on {bytes : List U8} (hlen : bytes.length ≤ rxCapacity (dev.pma (bdtRxCount 0))) :
    (part.on dev).setPma (fun _ => rxStore (part.on dev) 0 bytes) =
      part.on (dev.setPma fun _ => rxStore dev 0 bytes) := by
  have haddr : (dev.pma (bdtRxAddr 0)).toNat = 48 := h.layout.toNat_rxAddr
  have hle : bytes.length ≤ 64 := hlen.trans h.layout.capacity
  -- The size of the buffer is kept in the count, which is outside the report.
  let count : Pma → U16 := fun p => (p (bdtRxCount 0) &&& 0xFC00) ||| .ofNat 16 bytes.length
  have hcount : AvoidsReports fun p => p.set (bdtRxCount 0) (count p) := by
    intro itf
    simp only [Pma.set_eq_update]
    refine Lib.Avoids.update (itf.not_region (by decide)) fun m m' hm => ?_
    show (m (bdtRxCount 0) &&& 0xFC00) ||| _ = (m' (bdtRxCount 0) &&& 0xFC00) ||| _
    rw [hm _ (itf.not_region (by decide))]
  have hstore : AvoidsReports fun p =>
      (usbPrvWritePMA (.ofList bytes .zero) 48 bytes.length p).set (bdtRxCount 0)
        (count (usbPrvWritePMA (.ofList bytes .zero) 48 bytes.length p)) :=
    fun itf => (avoidsReports_writePMA _ hle itf).comp (hcount itf)
  have hon := part.setPma_on dev hstore
  simp only [rxStore, part.pma_on dev (show bdtRxAddr 0 < 5 ∨ _ from .inl (by decide)), haddr]
  exact hon

/-- An OUT transaction. -/
theorem busOut_on (n : Nat) (bytes : List U8) :
    busOut (part.on dev) n bytes = part.on (busOut dev n bytes) := by
  have hfor : eprFor (part.on dev) .rx n = eprFor dev .rx n := rfl
  have henabled : (part.on dev).enabled = dev.enabled := rfl
  have hepr : (part.on dev).epr = dev.epr := rfl
  rw [busOut, busOut, hfor]
  cases hr : eprFor dev .rx n with
  | none => rfl
  | some r =>
      obtain rfl := h.eprFor_rx hr
      dsimp only
      rw [henabled, hepr, part.pma_on dev (show bdtRxCount 0 < 5 ∨ _ from .inl (by decide))]
      split
      · rename_i hok
        exact congrArg (UsbDevice.setEpr · 0 fun e => hwDone .rx e &&& ~~~USB_EP_SETUP)
          (part.rxStore_on h hok.2.2)
      · rfl

/-- A SETUP packet. -/
theorem busSetup_on (req : SetupRequest) : busSetup (part.on dev) req = part.on (busSetup dev req) := by
  have henabled : (part.on dev).enabled = dev.enabled := rfl
  have hepr : (part.on dev).epr = dev.epr := rfl
  rw [busSetup, busSetup, henabled, hepr, part.pma_on dev (by decide)]
  split
  · rename_i hok
    exact congrArg (UsbDevice.setEpr · 0 hwSetup) (part.rxStore_on h hok.2.2.2)
  · rfl

omit h in
/-- A bus reset. -/
theorem busReset_on : busReset (part.on dev) = part.on (busReset dev) := rfl

/-! ### Stray accesses -/

section
omit h

/-- A descriptor has the same length. -/
theorem strays_setupCallback_on (dev : UsbDevice) :
    usbdSetupCallback.strays (part.on dev) = usbdSetupCallback.strays dev := by
  have hreply := part.sameReply dev
  have hdescriptor : usbdGetDescriptor.strays (part.on dev) = usbdGetDescriptor.strays dev := by
    rw [usbdGetDescriptor.strays, usbdGetDescriptor.strays, hreply.deviceDesc, hreply.configDesc,
      hreply.string, hreply.setup]
  have hdevice : usbdDevRequest.strays (part.on dev) = usbdDevRequest.strays dev := by
    rw [usbdDevRequest.strays, usbdDevRequest.strays, hdescriptor, hreply.setup]
  have hendpoint : usbdEpRequest.strays (part.on dev) = usbdEpRequest.strays dev := rfl
  rw [usbdSetupCallback.strays, usbdSetupCallback.strays, hdevice, hendpoint, hreply.setup]

/-- The end of a transfer looks up the same interface. -/
theorem strays_irq_in_on (dev : UsbDevice) {n : Nat} (hn : n ≠ itf.epNum) :
    usbVIRQHandler.in.strays (part.on dev) n = usbVIRQHandler.in.strays dev n := by
  have hcallback : usbdCtrlInCallback.strays (part.on dev) = usbdCtrlInCallback.strays dev := by
    have hzlp : usbdNeedsZlp (part.on dev) = usbdNeedsZlp dev := by
      rw [usbdNeedsZlp, usbdNeedsZlp, part.epIn_on _ itf.zero_ne_epNum]
      rfl
    rw [usbdCtrlInCallback.strays, usbdCtrlInCallback.strays, hzlp]
    rfl
  rw [usbVIRQHandler.in.strays, usbVIRQHandler.in.strays, hcallback, part.epIn_on dev hn]

end

/-- A round of the control endpoint. -/
theorem strays_round_ctrl_on (hstate : (dev.epIn itf.epNum).state ≠ .stall)
    (hreq : ¬ Reconfiguring dev) :
    usbVIRQHandler.round.strays (part.on dev) 0 = usbVIRQHandler.round.strays dev 0 := by
  have hepr : (part.on dev).epr = dev.epr := rfl
  have hnum : (dev.epr 0 &&& USB_EPADDR_FIELD).toNat = 0 := h.num_ctrl
  have hsetup : usbVIRQHandler.setup.strays (part.on dev) 0 = usbVIRQHandler.setup.strays dev 0 := by
    have hbuffer := part.bufferedSetup_on h
    show usbdSetupCallback.strays { part.on dev with setup := bufferedSetup (part.on dev) 0 } = _
    rw [hbuffer]
    exact part.strays_setupCallback_on { dev with setup := bufferedSetup dev 0 }
  have hout : usbVIRQHandler.out.strays (part.on dev) 0 0 = usbVIRQHandler.out.strays dev 0 0 := by
    rw [usbVIRQHandler.out.strays, usbVIRQHandler.out.strays, part.pma_on dev (by decide)]
    rfl
  rw [usbVIRQHandler.round.strays, usbVIRQHandler.round.strays, hepr, hnum, hsetup, hout,
    part.received_on h hstate hreq, part.strays_irq_in_on _ itf.zero_ne_epNum]

/-- A round of the other pipe. -/
theorem strays_round_pipe_on {jtf : HidIf} (hne : jtf ≠ itf) :
    usbVIRQHandler.round.strays (part.on dev) jtf.regId =
      usbVIRQHandler.round.strays dev jtf.regId := by
  have hepr : (part.on dev).epr = dev.epr := rfl
  have hrx : ¬ dev.epr jtf.regId &&& USB_EP_CTR_RX ≠ 0 := by
    intro hctr
    have hset := (flag_eq_true_iff dev .rx jtf.regId).mpr hctr
    rw [flag, (h.registers.rx jtf).2] at hset
    exact absurd hset (by decide)
  -- A report endpoint receives nothing.
  have hreceived : ∀ d : UsbDevice, d.epr = dev.epr → usbVIRQHandler.received d jtf.regId = d := by
    intro d hd
    rw [usbVIRQHandler.received, hd, if_neg hrx]
  have hnum : (dev.epr jtf.regId &&& USB_EPADDR_FIELD).toNat ≠ itf.epNum := by
    rw [toNat_and_epaddr]
    rcases h.registers.addr jtf with h0 | hown
    · rw [h0]
      exact itf.zero_ne_epNum
    · rw [hown]
      cases itf <;> cases jtf <;> first | exact absurd rfl hne | decide
  rw [usbVIRQHandler.round.strays, usbVIRQHandler.round.strays, hepr, hreceived _ hepr,
    hreceived _ rfl, part.strays_irq_in_on dev hnum]
  simp only [hrx, false_and]

/-- The handler strays as it would without the report. -/
theorem strays_irq_on (hquiet : QuietPipe dev itf) (hcalm : ¬ Disturbing dev) :
    UsbAct.strays (part.on dev) .irq = UsbAct.strays dev .irq := by
  have hstate : (dev.epIn itf.epNum).state ≠ .stall := by simp [hquiet.state]
  have hpending : pendingEp (part.on dev) = pendingEp dev := rfl
  show (pendingEp (part.on dev)).any _ = (pendingEp dev).any _
  rw [hpending]
  cases hr : pendingEp dev with
  | none => rfl
  | some r =>
      show usbVIRQHandler.round.strays (part.on dev) r = usbVIRQHandler.round.strays dev r
      rcases h.pendingEp_cases hr with ⟨rfl, -⟩ | ⟨jtf, rfl, hflag⟩
      · exact part.strays_round_ctrl_on h hstate fun hreq => hcalm (.inl hreq)
      · exact part.strays_round_pipe_on h (hquiet.ne_of_flag hflag)

/-- It reconfigures what it would. -/
theorem disturbing_on : Disturbing (part.on dev) ↔ Disturbing dev := by
  have hbuffer := part.bufferedSetup_on h
  rw [Disturbing, Reconfiguring, hbuffer]
  rfl

end

end PartReport

end PikvmHid
