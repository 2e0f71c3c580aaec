import PikvmHid.Usb.Irq
import Mathlib.Tactic.SplitIfs

/-!
# `PikvmHid.Proofs.UsbIgnored`: what the stack leaves alone

Most functions of the stack change nothing but endpoint handles, packet memory, a few bytes of
`CtrlData`, and registers by one of the macros. `Ignored` says of an observation of the device that it
does not see these changes, and then it does not see the functions. It is proved once here for
every observation; the completion flags, the configuration and the address are such.
-/

set_option autoImplicit false

namespace PikvmHid

universe u

/-- An observation that does not see the changes of which the stack is made. -/
structure Ignored {α : Type u} (o : UsbDevice → α) : Prop where
  setIn : ∀ (dev : UsbDevice) (n : Nat) (ep : UsbEp), o (dev.setIn n ep) = o dev
  setOut : ∀ (dev : UsbDevice) (n : Nat) (ep : UsbEp), o (dev.setOut n ep) = o dev
  setPma : ∀ (dev : UsbDevice) (f : Pma → Pma), o (dev.setPma f) = o dev
  setCtrl : ∀ (dev : UsbDevice) (bytes : List U8), o (dev.setCtrl bytes) = o dev
  modifyIf : ∀ (dev : UsbDevice) (i : Nat) (f : HidIfHandle → HidIfHandle),
    o (dev.modifyIf i f) = o dev
  remoteWakeup : ∀ (dev : UsbDevice) (b : Bool), o { dev with remoteWakeup := b } = o dev
  setStatus : ∀ (dev : UsbDevice) (r : Nat) (d : EpHalf) (s : EpStatus),
    o (dev.setEpr r (setStatus d s)) = o dev
  toggleClear : ∀ (dev : UsbDevice) (r : Nat) (d : EpHalf), o (dev.setEpr r (toggleClear d)) = o dev
  setType : ∀ (dev : UsbDevice) (r : Nat) (t : EpType), o (dev.setEpr r (setType t)) = o dev
  setAddress : ∀ (dev : UsbDevice) (r : Nat) (a : U8), o (dev.setEpr r (setAddress a)) = o dev

namespace Ignored

variable {α : Type u} {o : UsbDevice → α} (h : Ignored o) (dev : UsbDevice)
include h

/-! ### The driver -/

/-- A store to an endpoint by its address. -/
theorem setEp (epAddr : U8) (ep : UsbEp) : o (dev.setEp epAddr ep) = o dev := by
  rw [UsbDevice.setEp]
  split
  · exact h.setIn dev _ ep
  · exact h.setOut dev _ ep

/-- `USB_prvReceivePacket`. -/
theorem receivePacket (n : Nat) : o (usbPrvReceivePacket dev n) = o dev := by
  simp only [usbPrvReceivePacket, h.setStatus, h.setPma, h.setOut]

/-- `USB_prvTransmitPacket`. -/
theorem transmitPacket (n : Nat) : o (usbPrvTransmitPacket dev n) = o dev := by
  simp only [usbPrvTransmitPacket, h.setStatus, h.setPma, h.setIn]

/-- `USB_vEpSend`. -/
theorem epSend (epAddr : U8) (data : DataPtr) (length : Nat) :
    o (usbVEpSend dev epAddr data length) = o dev := by
  simp only [usbVEpSend, h.transmitPacket, h.setIn]

/-- `USB_vEpReceive`. -/
theorem epReceive (epAddr : U8) (data : DataPtr) (length : Nat) :
    o (usbVEpReceive dev epAddr data length) = o dev := by
  simp only [usbVEpReceive, h.receivePacket, h.setOut]

/-- `USBD_EpOpen`. -/
theorem epOpen (epAddr : U8) (type : EpType) (mps : Nat) :
    o (usbdEpOpen dev epAddr type mps) = o dev := by
  simp only [usbdEpOpen, usbVEpOpen, h.setEp, h.setStatus, h.toggleClear, h.setAddress, h.setType]

/-- `USBD_EpClose`. -/
theorem epClose (epAddr : U8) : o (usbdEpClose dev epAddr) = o dev := by
  simp only [usbdEpClose, usbVEpClose, h.setEp, h.setStatus, h.toggleClear]

/-- `USB_vEpSetStall`. -/
theorem setStall (epAddr : U8) : o (usbVEpSetStall dev epAddr) = o dev := by
  simp only [usbVEpSetStall, h.setStatus]

/-- `USB_vEpClearStall`. -/
theorem clearStall (epAddr : U8) : o (usbVEpClearStall dev epAddr) = o dev := by
  simp only [usbVEpClearStall, h.setStatus, h.toggleClear]

/-- One register of `USB_vAllocateEPs`. -/
theorem allocateEPs_reg (s : UsbDevice × Nat) (n : Nat) : o (usbVAllocateEPs.reg s n).1 = o s.1 := by
  rw [usbVAllocateEPs.reg]
  dsimp only
  split_ifs <;> simp only [h.setIn, h.setOut]

/-- `USB_vAllocateEPs`. -/
theorem allocateEPs : o (usbVAllocateEPs dev) = o dev := by
  have hregs : ∀ (l : List Nat) (s : UsbDevice × Nat),
      o (l.foldl usbVAllocateEPs.reg s).1 = o s.1 := by
    intro l
    induction l with
    | nil => exact fun _ => rfl
    | cons n l ih => exact fun s => (ih _).trans (h.allocateEPs_reg s n)
  have hdev := hregs (List.range USBD_MAX_EP_COUNT) (dev, 0)
  rw [usbVAllocateEPs]
  generalize (List.range USBD_MAX_EP_COUNT).foldl usbVAllocateEPs.reg (dev, 0) = s at hdev ⊢
  dsimp only
  split
  · exact (h.setPma s.1 fun _ => (usbVAllocateEPs.pma s.1 s.2).1).trans hdev
  · exact hdev

/-- `USB_vCtrlEpOpen`. -/
theorem ctrlEpOpen : o (usbVCtrlEpOpen dev) = o dev := by
  simp only [usbVCtrlEpOpen, usbPrvCtrlEpOpen, h.setStatus, h.toggleClear, h.setPma, h.setAddress,
    h.setType, h.allocateEPs]

/-! ### Control transfers and the HID class -/

/-- `USBD_CtrlSendError`. -/
theorem ctrlSendError : o (usbdCtrlSendError dev) = o dev := by
  simp only [usbdCtrlSendError, h.setOut, h.setStall, h.setIn]

/-- `USBD_CtrlSendStatus`. -/
theorem ctrlSendStatus : o (usbdCtrlSendStatus dev) = o dev := by
  simp only [usbdCtrlSendStatus, h.epSend, h.setIn]

/-- `USBD_CtrlReceiveStatus`. -/
theorem ctrlReceiveStatus : o (usbdCtrlReceiveStatus dev) = o dev := by
  simp only [usbdCtrlReceiveStatus, h.epReceive, h.setOut]

/-- `USBD_CtrlSendData`. -/
theorem ctrlSendData (data : DataPtr) (len : Nat) : o (usbdCtrlSendData dev data len).2 = o dev := by
  rw [usbdCtrlSendData]
  split
  · simp only [h.epSend, h.setIn]
  · rfl

/-- `USBD_CtrlReceiveData`. -/
theorem ctrlReceiveData (data : DataPtr) : o (usbdCtrlReceiveData dev data).2 = o dev := by
  rw [usbdCtrlReceiveData]
  split
  · simp only [h.epReceive, h.setOut]
  · rfl

/-- `HID_Init`. -/
theorem hidInit (i : Nat) : o (hidInit dev i) = o dev := by
  rw [PikvmHid.hidInit]
  split
  · simp only [h.modifyIf, h.epOpen]
  · rfl

/-- `HID_Deinit`. -/
theorem hidDeinit (i : Nat) : o (hidDeinit dev i) = o dev := by
  rw [PikvmHid.hidDeinit]
  split
  · exact h.epClose dev _
  · rfl

/-- `HID_SetupStage`. -/
theorem hidSetupStage (i : Nat) (itf : HidIfHandle) : o (hidSetupStage dev i itf).2 = o dev := by
  rw [PikvmHid.hidSetupStage, hidSetupStage.standard, hidSetupStage.class]
  split_ifs <;> simp only [h.ctrlSendData, h.ctrlReceiveData, h.setCtrl, h.modifyIf]

/-- `HID_DataStage`. -/
theorem hidDataStage (i : Nat) : o (hidDataStage dev i) = o dev := by
  rw [PikvmHid.hidDataStage]
  split
  · exact h.modifyIf dev i _
  · rfl

/-- `USBD_CtrlOutCallback`. -/
theorem ctrlOutCallback : o (usbdCtrlOutCallback dev) = o dev := by
  rw [usbdCtrlOutCallback]
  dsimp only
  split_ifs <;> simp only [h.ctrlSendStatus, h.hidDataStage]

/-- The callback of an OUT endpoint. -/
theorem epOutCallback (n : Nat) : o (usbdEpOutCallback dev n) = o dev := by
  rw [usbdEpOutCallback]
  dsimp only
  split_ifs <;> simp only [h.ctrlOutCallback, h.setOut]

/-- `USBD_CtrlInCallback`, if it sets no address or the observation does not see it. -/
theorem ctrlInCallback (haddr : ∀ (dev' : UsbDevice) (a : U8), dev'.setup = dev.setup →
      dev.setup.requestType = 0x00 ∧ dev.setup.request = USB_REQ_SET_ADDRESS →
      o (usbVSetAddress dev' a) = o dev') : o (usbdCtrlInCallback dev) = o dev := by
  rw [usbdCtrlInCallback]
  dsimp only
  split_ifs with hzlp hin hif hset
  · exact h.epSend dev _ _ _
  · simp only [h.ctrlReceiveStatus, h.hidDataStage, h.setIn]
  · simp only [h.ctrlReceiveStatus, h.setIn]
  · exact (haddr (dev.setIn 0 { dev.epIn 0 with state := .idle }) _ rfl hset).trans (h.setIn dev 0 _)
  · exact h.setIn dev 0 _

/-! ### Reports -/

/-- `USBD_EpSend`, accepted or not. -/
theorem usbdEpSend (epAddr : U8) (data : DataPtr) (len : Nat) :
    o (usbdEpSend dev epAddr data len).2 = o dev := by
  rw [PikvmHid.usbdEpSend]
  split
  · exact (h.epSend _ epAddr data len).trans (h.setIn dev _ _)
  · rfl

/-- `USBD_HID_ReportIn`. -/
theorem reportIn (i : Nat) (data : Buffer) (length : Nat) :
    o (usbdHidReportIn dev i data length).2 = o dev := by
  rw [usbdHidReportIn]
  split
  · dsimp only
    split
    · exact (h.modifyIf _ i _).trans (h.ctrlSendData dev _ _)
    · exact h.usbdEpSend dev _ _ _
  · rfl

/-! ### Requests -/

omit h in
/-- A loop over the interfaces. -/
theorem foldl {f : UsbDevice → Nat → UsbDevice} (hf : ∀ dev i, o (f dev i) = o dev) (l : List Nat) :
    o (l.foldl f dev) = o dev := by
  induction l generalizing dev with
  | nil => rfl
  | cons i l ih => rw [List.foldl_cons, ih, hf]

/-- `USBD_IfConfig`, if the observation does not see the configuration. -/
theorem ifConfig
    (hselect : ∀ (dev' : UsbDevice) (n : U8), o { dev' with configSelector := n } = o dev')
    (cfgNum : U8) : o (usbdIfConfig dev cfgNum) = o dev := by
  have hclear : o (if dev.configSelector ≠ 0 then
      (List.range dev.ifs.length).foldl (fun dev i =>
        (PikvmHid.hidDeinit dev i).modifyIf i fun itf =>
          { itf with altSelector := 0 }) dev else dev) =
      o dev := by
    split
    · exact foldl dev (fun dev i => (h.modifyIf _ i _).trans (h.hidDeinit dev i)) _
    · rfl
  have hopen : ∀ dev' : UsbDevice, o (if dev'.configSelector ≠ 0 then
      (List.range dev'.ifs.length).foldl PikvmHid.hidInit dev' else dev') = o dev' := by
    intro dev'
    split
    · exact foldl dev' h.hidInit _
    · rfl
  rw [usbdIfConfig]
  split
  · exact (hopen _).trans ((hselect _ _).trans hclear)
  · rfl

/-- `USBD_IfRequest`. -/
theorem ifRequest : o (usbdIfRequest dev).2 = o dev := by
  rw [usbdIfRequest]
  dsimp only
  split
  · split_ifs <;> simp only [h.ctrlSendData, h.hidInit, h.modifyIf, h.hidDeinit, h.hidSetupStage]
  · rfl

/-- `USBD_EpRequest`. -/
theorem epRequest : o (usbdEpRequest dev).2 = o dev := by
  rw [usbdEpRequest]
  dsimp only
  split_ifs <;> simp only [h.setEp, h.setStall, h.clearStall, h.ctrlSendData, h.setCtrl]

/-- `USBD_GetDescriptor`. -/
theorem getDescriptor : o (usbdGetDescriptor dev).2 = o dev := by
  rw [usbdGetDescriptor]
  dsimp only
  split_ifs
  · simp only [h.ctrlSendData, h.setCtrl]
  · simp only [h.ctrlSendData, h.setCtrl]
  · exact h.ctrlSendData dev _ _
  · split
    · simp only [h.ctrlSendData, h.setCtrl]
    · rfl
  · rfl

/-- `SET_FEATURE` and `CLEAR_FEATURE` of the device. -/
theorem feature (remoteWakeup : Bool) : o (usbdFeature remoteWakeup dev).2 = o dev := by
  rw [usbdFeature]
  split
  · exact h.remoteWakeup dev _
  · rfl

/-- Requests to the device, if `SET_CONFIGURATION` is not seen. -/
theorem devRequest (hset : dev.setup.type = USB_REQ_TYPE_STANDARD →
      dev.setup.request = USB_REQ_SET_CONFIGURATION → o (usbdSetConfig dev).2 = o dev) :
    o (usbdDevRequest dev).2 = o dev := by
  rw [usbdDevRequest]
  split_ifs with htype hdesc haddr hconfig
  · exact h.getDescriptor dev
  · rfl
  · exact hset htype hconfig
  · exact (h.ctrlSendData _ _ _).trans (h.setCtrl dev _)
  · exact (h.ctrlSendData _ _ _).trans (h.setCtrl dev _)
  · exact h.feature dev true
  · exact h.feature dev false
  · rfl
  · rfl

/-- `USBD_SetupCallback`, if `SET_CONFIGURATION` is not seen. -/
theorem setupCallback (hset : ∀ dev' : UsbDevice, dev'.setup = dev.setup →
      dev.setup.type = USB_REQ_TYPE_STANDARD → dev.setup.recipient = USB_REQ_RECIPIENT_DEVICE →
      dev.setup.request = USB_REQ_SET_CONFIGURATION → o (usbdSetConfig dev').2 = o dev') :
    o (usbdSetupCallback dev) = o dev := by
  have hroute : ∀ dev' : UsbDevice, dev'.setup = dev.setup →
      o (usbdSetupCallback.route dev').2 = o dev' := by
    intro dev' hsetup
    rw [usbdSetupCallback.route]
    split_ifs with hdev
    · rw [hsetup] at hdev
      refine h.devRequest dev' fun htype hreq => ?_
      rw [hsetup] at htype hreq
      exact hset dev' hsetup htype hdev hreq
    · exact h.ifRequest dev'
    · exact h.epRequest dev'
    · rfl
  have hserve :=
    (hroute (dev.setOut 0 { dev.epOut 0 with state := .setup }) rfl).trans (h.setOut dev 0 _)
  rw [usbdSetupCallback]
  dsimp only
  split_ifs
  · exact (h.ctrlSendError _).trans hserve
  · exact (h.ctrlSendStatus _).trans hserve
  · exact hserve

/-! ### The handler -/

/-- An OUT packet, but for its flag, if what is stored is not seen. -/
theorem irq_out (hctrl : ∀ (dev' : UsbDevice) (ctrlData : Buffer),
      o { dev' with ctrlData := ctrlData } = o dev') (epId n : Nat) :
    o (usbVIRQHandler.out dev epId n) = o (dev.setEpr epId (flagClear .rx)) := by
  rw [usbVIRQHandler.out]
  dsimp only
  split_ifs <;> simp only [h.setStatus, h.setPma, h.epOutCallback, h.receivePacket, h.setOut, hctrl]

/-- An IN packet, but for its flag, if the address is not seen. -/
theorem irq_in (haddr : ∀ (dev' : UsbDevice) (a : U8), o (usbVSetAddress dev' a) = o dev')
    (epId n : Nat) : o (usbVIRQHandler.in dev epId n) = o (dev.setEpr epId (flagClear .tx)) := by
  have hcallback : ∀ dev' : UsbDevice, o (usbdEpInCallback dev' n) = o dev' := by
    intro dev'
    rw [usbdEpInCallback]
    split
    · exact h.ctrlInCallback dev' fun mid a _ _ => haddr mid a
    · exact h.setIn dev' n _
  rw [usbVIRQHandler.in]
  split
  · exact (hcallback _).trans (h.setIn _ n _)
  · exact (h.transmitPacket _ n).trans (h.setIn _ n _)

end Ignored

end PikvmHid
