import PikvmHid.Proofs.UsbWrites
import PikvmHid.Spec.UsbAborts

/-!
# `PikvmHid.Proofs.UsbAborts`: when a new request gets through

`USB_prvReceivePacket` sizes the receive buffer for the packet that is due. While a short one is due,
and before the empty packet of a status stage, the buffer is too small for the eight bytes of a SETUP
packet. So a host that drops its transfer there gets no request through any more, and only a reset
helps (`setup_refused`). `SET_REPORT` without data leaves such a buffer behind as well.
-/

set_option autoImplicit false

namespace PikvmHid

/-! ### The receive side of the control endpoint -/

/-- A change that leaves the buffer as it is and does not close the endpoint. -/
structure RxKept (dev dev' : UsbDevice) : Prop where
  buffer : dev'.pma (bdtRxCount 0) = dev.pma (bdtRxCount 0)
  open_ : (eprHalf .rx (dev.epr 0)).stat ≠ .dis → (eprHalf .rx (dev'.epr 0)).stat ≠ .dis

/-- A change that leaves the whole receive side as it is. -/
structure RxSame (dev dev' : UsbDevice) : Prop where
  buffer : dev'.pma (bdtRxCount 0) = dev.pma (bdtRxCount 0)
  half : eprHalf .rx (dev'.epr 0) = eprHalf .rx (dev.epr 0)

/-- No change keeps the receive side. -/
theorem RxKept.refl (dev : UsbDevice) : RxKept dev dev := ⟨rfl, id⟩

/-- No change leaves it the same. -/
theorem RxSame.refl (dev : UsbDevice) : RxSame dev dev := ⟨rfl, rfl⟩

/-- A receive side that is the same is kept. -/
theorem RxSame.kept {a b : UsbDevice} (h : RxSame a b) : RxKept a b := by
  refine ⟨h.buffer, fun hopen => ?_⟩
  rw [h.half]
  exact hopen

/-- Changes compose, the last one first. -/
theorem RxKept.after {a b d : UsbDevice} (h' : RxKept b d) (h : RxKept a b) : RxKept a d :=
  ⟨h'.buffer.trans h.buffer, fun hopen => h'.open_ (h.open_ hopen)⟩

/-- The interface handles do not matter. -/
theorem RxKept.modifyIf {a b : UsbDevice} (h : RxKept a b) (i : Nat) (f : HidIfHandle → HidIfHandle) :
    RxKept a (b.modifyIf i f) := ⟨h.buffer, h.open_⟩

/-- Such changes compose. -/
theorem RxSame.after {a b d : UsbDevice} (h' : RxSame b d) (h : RxSame a b) : RxSame a d :=
  ⟨h'.buffer.trans h.buffer, h'.half.trans h.half⟩

section
variable (dev : UsbDevice)

/-- A register written by a macro that does not close the endpoint. -/
theorem rxKept_setEpr (r : Nat) {f : U16 → U16}
    (hf : ∀ e, (eprHalf .rx e).stat ≠ .dis → (eprHalf .rx (f e)).stat ≠ .dis) :
    RxKept dev (dev.setEpr r f) := by
  refine ⟨rfl, fun hopen => ?_⟩
  by_cases hr : r = 0
  · subst hr
    rw [UsbDevice.setEpr_self]
    exact hf _ hopen
  · rw [dev.setEpr_of_ne (Ne.symm hr)]
    exact hopen

/-- A status change does not close the receive side, unless it sets `DIS` there. -/
theorem rxKept_setStatus (r : Nat) (d : EpHalf) {s : EpStatus} (hs : s ≠ .dis ∨ d = .tx) :
    RxKept dev (dev.setEpr r (setStatus d s)) := by
  refine rxKept_setEpr dev r fun e hopen => ?_
  rw [eprHalf_setStatus]
  split
  · rename_i hd
    exact hs.resolve_right fun htx => absurd (hd.trans htx) (by decide)
  · exact hopen

/-- Clearing a data toggle does not. -/
theorem rxKept_toggleClear (r : Nat) (d : EpHalf) : RxKept dev (dev.setEpr r (toggleClear d)) := by
  refine rxKept_setEpr dev r fun e hopen => ?_
  rw [eprHalf_toggleClear]
  split
  · rename_i hd
    rw [← hd]
    exact hopen
  · exact hopen

/-- Nor does a store to an endpoint. -/
theorem rxKept_setEp (epAddr : U8) (ep : UsbEp) : RxKept dev (dev.setEp epAddr ep) := by
  rw [UsbDevice.setEp]
  split <;> exact ⟨rfl, id⟩

/-! ### Report endpoints and halts -/

/-- Opening a report endpoint keeps the receive side of the control endpoint. -/
theorem rxKept_epOpen (epAddr : U8) (type : EpType) (mps : Nat) :
    RxKept dev (usbdEpOpen dev epAddr type mps) := by
  have htype : ∀ (dev' : UsbDevice) (r : Nat), RxKept dev' (dev'.setEpr r (setType type)) :=
    fun dev' r => rxKept_setEpr dev' r fun e hopen => by rwa [eprHalf_setType]
  have haddr : ∀ (dev' : UsbDevice) (r : Nat), RxKept dev' (dev'.setEpr r (setAddress epAddr)) :=
    fun dev' r => rxKept_setEpr dev' r fun e hopen => by rwa [eprHalf_setAddress]
  rw [usbdEpOpen, usbVEpOpen]
  refine RxKept.after (rxKept_setEp _ epAddr _) ?_
  refine RxKept.after (rxKept_setStatus _ _ _ (.inl (by decide))) ?_
  refine RxKept.after (rxKept_toggleClear _ _ _) ?_
  exact (haddr _ _).after ((htype _ _).after (rxKept_setEp dev epAddr _))

/-- So does closing one. -/
theorem rxKept_epClose (kind : HidIf) : RxKept dev (usbdEpClose dev kind.inEpNum) := by
  rw [usbdEpClose, usbVEpClose, epHalfOf_inEpNum]
  exact (rxKept_setEp _ _ _).after
    ((rxKept_setStatus _ _ .tx (.inr rfl)).after (rxKept_toggleClear dev _ _))

/-- So does a halt. -/
theorem rxKept_setStall (epAddr : U8) : RxKept dev (usbVEpSetStall dev epAddr) :=
  rxKept_setStatus dev _ _ (.inl (by decide))

/-- So does the end of a halt. -/
theorem rxKept_clearStall (epAddr : U8) : RxKept dev (usbVEpClearStall dev epAddr) := by
  rw [usbVEpClearStall]
  refine RxKept.after (rxKept_setStatus _ _ _ (.inl ?_)) (rxKept_toggleClear dev _ _)
  split <;> decide

/-- So does a stalled request. -/
theorem rxKept_ctrlSendError : RxKept dev (usbdCtrlSendError dev) := by
  have hin : ∀ (dev' : UsbDevice) (ep : UsbEp), RxKept dev' (dev'.setIn 0 ep) := fun _ _ => ⟨rfl, id⟩
  have hout : ∀ (dev' : UsbDevice) (ep : UsbEp), RxKept dev' (dev'.setOut 0 ep) :=
    fun _ _ => ⟨rfl, id⟩
  rw [usbdCtrlSendError]
  exact (hout _ _).after ((rxKept_setStall _ _).after ((hin _ _).after (rxKept_setStall dev _)))

end

/-! ### The control endpoint sends -/

section
variable {dev : UsbDevice} (h : Allocated dev)
include h

/-- Sending a packet leaves the receive side as it is. -/
theorem Allocated.rxSame_transmitPacket : RxSame dev (usbPrvTransmitPacket dev 0) := by
  have hn : min (dev.epIn 0).progress 64 ≤ 64 := Nat.min_le_right _ _
  rw [h.transmitPacket, sendCtrl]
  constructor
  · show usbPrvWritePMA _ 48 _ (dev.pma.set (bdtTxCount 0) _) (bdtRxCount 0) = _
    rw [writePMA_of_not_mem _ _ _ _ (by simp [bdtRxCount]), Pma.set_of_ne _ (by decide)]
  · rw [UsbDevice.setEpr_self, eprHalf_setStatus, if_neg (by decide)]
    rfl

/-- So does beginning a transfer. -/
theorem Allocated.rxSame_epSend (data : DataPtr) (length : Nat) :
    RxSame dev (usbVEpSend dev 0x80 data length) := by
  have hload : RxSame dev (loadCtrl dev data length) := ⟨rfl, rfl⟩
  rw [epSend_eq]
  exact (h.load data length).rxSame_transmitPacket.after hload

/-- So does the status stage of a write. -/
theorem Allocated.rxSame_sendStatus : RxSame dev (usbdCtrlSendStatus dev) := by
  have hset : UsbFramed dev (dev.setIn 0 { dev.epIn 0 with state := .status }) :=
    framed_setIn0 rfl rfl rfl
  exact ((hset h).1.rxSame_epSend .null 0).after ⟨rfl, rfl⟩

/-- So does the data stage of a read. -/
theorem Allocated.rxSame_sendData (data : DataPtr) (len : Nat) :
    RxSame dev (usbdCtrlSendData dev data len).2 := by
  have hset : UsbFramed dev (dev.setIn 0 { dev.epIn 0 with state := .data }) :=
    framed_setIn0 rfl rfl rfl
  rw [usbdCtrlSendData]
  split
  · exact ((hset h).1.rxSame_epSend data _).after ⟨rfl, rfl⟩
  · exact .refl dev

/-- An answer from `CtrlData` keeps it too. -/
theorem Allocated.rxKept_sendCtrl (bytes : List U8) (len : Nat) :
    RxKept dev (usbdCtrlSendData (dev.setCtrl bytes) (.ctrlData 0) len).2 :=
  ((framed_setCtrl dev bytes h).1.rxSame_sendData _ _).kept.after ⟨rfl, id⟩

end

/-! ### Requests -/

/-- What the recipient of a request leaves: the receive side as it was, or ready for data. -/
def RxRouted (dev : UsbDevice) (r : UsbdReturn × UsbDevice) : Prop :=
  RxKept dev r.2 ∨ r.1 = .ok ∧ (eprHalf .rx (r.2.epr 0)).stat = .valid

/-- A loop whose body keeps the receive side keeps it. -/
theorem rxKept_foldl {f : UsbDevice → Nat → UsbDevice}
    (hf : ∀ dev i, Allocated dev → Allocated (f dev i) ∧ RxKept dev (f dev i)) (l : List Nat) :
    ∀ dev, Allocated dev → Allocated (l.foldl f dev) ∧ RxKept dev (l.foldl f dev) := by
  induction l with
  | nil => exact fun dev h => ⟨h, .refl dev⟩
  | cons i l ih =>
      intro dev h
      obtain ⟨ha, hkept⟩ := hf dev i h
      obtain ⟨ha', hkept'⟩ := ih _ ha
      exact ⟨ha', hkept'.after hkept⟩

/-- `HID_Init` keeps it. -/
theorem rxKept_hidInit (dev : UsbDevice) (i : Nat) : RxKept dev (hidInit dev i) := by
  rw [hidInit]
  split
  · exact (rxKept_epOpen dev _ _ _).modifyIf i _
  · exact .refl dev

section
variable {dev : UsbDevice} (h : Allocated dev)
include h

/-- `HID_Deinit` does. -/
theorem Allocated.rxKept_hidDeinit (i : Nat) : RxKept dev (hidDeinit dev i) := by
  rw [hidDeinit]
  split
  · rename_i itf hi
    obtain ⟨kind, -, -, hep, -⟩ := h.tables.ifs.cases hi
    rw [hep]
    exact rxKept_epClose dev kind
  · exact .refl dev

/-- So does a change of the configuration. -/
theorem Allocated.rxKept_ifConfig (cfgNum : U8) : RxKept dev (usbdIfConfig dev cfgNum) := by
  have hclear : ∀ (dev : UsbDevice) (i : Nat), Settled dev
      ((hidDeinit dev i).modifyIf i fun itf => { itf with altSelector := 0 }) := fun dev i =>
    Settled.after (settled_modifyIf _ i fun _ => ⟨rfl, rfl, id⟩) (settled_hidDeinit dev i)
  have hselect : ∀ dev : UsbDevice, Settled dev { dev with configSelector := cfgNum } :=
    fun dev => settled_of_eq id rfl rfl rfl rfl
  -- The old configuration is closed first, then the new one opened.
  have hcleared : Allocated (if dev.configSelector ≠ 0 then
      (List.range dev.ifs.length).foldl (fun dev i =>
        (hidDeinit dev i).modifyIf i fun itf => { itf with altSelector := 0 }) dev else dev) ∧
      RxKept dev (if dev.configSelector ≠ 0 then
        (List.range dev.ifs.length).foldl (fun dev i =>
          (hidDeinit dev i).modifyIf i fun itf => { itf with altSelector := 0 }) dev else dev) := by
    split
    · exact rxKept_foldl (fun dev i ha =>
        ⟨(hclear dev i ha).1, (ha.rxKept_hidDeinit i).modifyIf i _⟩) _ dev h
    · exact ⟨h, .refl dev⟩
  rw [usbdIfConfig]
  split
  · generalize (if dev.configSelector ≠ 0 then
      (List.range dev.ifs.length).foldl (fun dev i =>
        (hidDeinit dev i).modifyIf i fun itf => { itf with altSelector := 0 }) dev else dev) = mid
      at hcleared ⊢
    have hmid : RxKept dev { mid with configSelector := cfgNum } :=
      ⟨hcleared.2.buffer, hcleared.2.open_⟩
    dsimp only
    split
    · exact (rxKept_foldl (fun dev i ha => ⟨(settled_hidInit dev i ha).1, rxKept_hidInit dev i⟩) _ _
        (hselect mid hcleared.1).1).2.after hmid
    · exact hmid
  · exact .refl dev

/-- So does `GET_DESCRIPTOR`. -/
theorem Allocated.rxKept_getDescriptor : RxKept dev (usbdGetDescriptor dev).2 := by
  rw [usbdGetDescriptor]
  split
  · exact h.rxKept_sendCtrl _ _
  · split
    · exact h.rxKept_sendCtrl _ _
    · split
      · split
        · exact (h.rxSame_sendData _ _).kept
        · split
          · exact h.rxKept_sendCtrl _ _
          · exact .refl dev
      · exact .refl dev

/-- So does every request to the device. -/
theorem Allocated.rxKept_devRequest : RxKept dev (usbdDevRequest dev).2 := by
  have hfeature : ∀ remoteWakeup, RxKept dev (usbdFeature remoteWakeup dev).2 := by
    intro remoteWakeup
    rw [usbdFeature]
    split
    · exact ⟨rfl, id⟩
    · exact .refl dev
  have hconfig : RxKept dev (usbdSetConfig dev).2 := by
    rw [usbdSetConfig]
    split
    · exact h.rxKept_ifConfig _
    · exact .refl dev
  rw [usbdDevRequest]
  split_ifs
  · exact h.rxKept_getDescriptor
  · exact .refl dev
  · exact hconfig
  · exact h.rxKept_sendCtrl _ _
  · exact h.rxKept_sendCtrl _ _
  · exact hfeature true
  · exact hfeature false
  · exact .refl dev
  · exact .refl dev

/-- A data stage of a write leaves the endpoint ready for its packet. -/
theorem Allocated.rxRouted_receiveData (data : DataPtr) :
    RxRouted dev (usbdCtrlReceiveData dev data) := by
  rw [usbdCtrlReceiveData]
  split
  · refine .inr ⟨rfl, ?_⟩
    have hset : UsbFramed dev (dev.setOut 0 { dev.epOut 0 with state := .data }) :=
      framed_setOut rfl rfl rfl
    have hload : ∀ (dev' : UsbDevice) (len : Nat), UsbFramed dev'
        (dev'.setOut 0 { dev'.epOut 0 with data := data, progress := len, length := 0 }) :=
      fun _ _ => framed_setOut rfl rfl rfl
    exact (UsbFramed.after (hload _ _) hset h).1.rxReopened.rx
  · exact .inl (.refl dev)

/-- A class request keeps the receive side, or makes it ready. -/
theorem Allocated.rxRouted_hidSetupStage (i : Nat) (itf : HidIfHandle) :
    RxRouted dev (hidSetupStage dev i itf) := by
  rw [hidSetupStage]
  split
  · rw [hidSetupStage.standard]
    split
    · split
      · exact .inl (h.rxKept_sendCtrl _ _)
      · split
        · exact .inl (h.rxSame_sendData _ _).kept
        · exact .inl (.refl dev)
    · exact .inl (.refl dev)
  · split
    · rw [hidSetupStage.class]
      split
      · exact .inl ⟨rfl, id⟩
      · split
        · exact h.rxRouted_receiveData _
        · split
          · exact .inl (h.rxKept_sendCtrl _ _)
          · split
            · split
              · exact .inl ⟨rfl, id⟩
              · exact .inl (.refl dev)
            · exact .inl (.refl dev)
    · exact .inl (.refl dev)

/-- So does any request to an interface. -/
theorem Allocated.rxRouted_ifRequest : RxRouted dev (usbdIfRequest dev) := by
  have hinterface : ∀ (i : Nat) (altSel : U8), RxKept dev
      (hidInit ((hidDeinit dev i).modifyIf i fun itf => { itf with altSelector := altSel }) i) := by
    intro i altSel
    exact (rxKept_hidInit _ i).after ((h.rxKept_hidDeinit i).modifyIf i _)
  rw [usbdIfRequest]
  dsimp only
  split
  · split_ifs
    · exact .inl (.refl dev)
    · exact .inl (h.rxSame_sendData _ _).kept
    · exact .inl (hinterface _ _)
    · exact .inl (.refl dev)
    · exact h.rxRouted_hidSetupStage _ _
    · exact h.rxRouted_hidSetupStage _ _
  · exact .inl (.refl dev)

/-- A halt of an endpoint that does not exist stalls the control endpoint, but leaves it open. -/
theorem Allocated.rxKept_epRequest : RxKept dev (usbdEpRequest dev).2 := by
  rw [usbdEpRequest]
  dsimp only
  split_ifs
  · exact .refl dev
  · exact (rxKept_setEp _ _ _).after (rxKept_setStall dev _)
  · exact .refl dev
  · exact .refl dev
  · exact (rxKept_setEp _ _ _).after (rxKept_clearStall dev _)
  · exact .refl dev
  · exact .refl dev
  · exact h.rxKept_sendCtrl _ _
  · exact h.rxKept_sendCtrl _ _
  · exact .refl dev
  · exact .refl dev

/-- So does any request at all. -/
theorem Allocated.rxRouted_route : RxRouted dev (usbdSetupCallback.route dev) := by
  rw [usbdSetupCallback.route]
  split_ifs
  · exact .inl h.rxKept_devRequest
  · exact h.rxRouted_ifRequest
  · exact .inl h.rxKept_epRequest
  · exact .inl (.refl dev)

end

/-! ### The rounds of the control register -/

/-- The control endpoint is open, and while its buffer is too small it is ready to receive. -/
structure RxReady (dev : UsbDevice) : Prop where
  open_ : (eprHalf .rx (dev.epr 0)).stat ≠ .dis
  small : ctrlCapacity dev < 8 → (eprHalf .rx (dev.epr 0)).stat = .valid

/-- A control endpoint that is `VALID` is ready. -/
theorem RxReady.of_valid {dev : UsbDevice} (h : (eprHalf .rx (dev.epr 0)).stat = .valid) :
    RxReady dev :=
  ⟨by simp [h], fun _ => h⟩

/-- A change that leaves a buffer with room for a SETUP packet. -/
theorem RxKept.ready {dev dev' : UsbDevice} (h : RxKept dev dev')
    (hopen : (eprHalf .rx (dev.epr 0)).stat ≠ .dis)
    (hfits : 8 ≤ ctrlCapacity dev) : RxReady dev' := by
  refine ⟨h.open_ hopen, fun hsmall => ?_⟩
  rw [ctrlCapacity, h.buffer] at hsmall
  exact absurd hfits (Nat.not_le_of_lt hsmall)

/-- Readiness depends on the receive side only. -/
theorem RxSame.ready {dev dev' : UsbDevice} (h : RxSame dev dev') (hready : RxReady dev) :
    RxReady dev' := by
  refine ⟨h.kept.open_ hready.open_, fun hsmall => ?_⟩
  rw [ctrlCapacity, h.buffer] at hsmall
  rw [h.half]
  exact hready.small hsmall

section
variable {dev : UsbDevice} (h : Allocated dev)
include h

/-- A SETUP packet is handled. -/
theorem Allocated.rxReady_setupCallback (hopen : (eprHalf .rx (dev.epr 0)).stat ≠ .dis)
    (hfits : 8 ≤ ctrlCapacity dev) : RxReady (usbdSetupCallback dev) := by
  have hset : UsbFramed dev (dev.setOut 0 { dev.epOut 0 with state := .setup }) :=
    framed_setOut rfl rfl rfl
  have hmid := (hset h).1
  have hrouted := hmid.rxRouted_route
  have hroute := (settled_route _ hmid).1
  rw [usbdSetupCallback]
  generalize hdev : dev.setOut 0 { dev.epOut 0 with state := .setup } = mid at hmid hrouted hroute ⊢
  have hopen' : (eprHalf .rx (mid.epr 0)).stat ≠ .dis := by
    rw [← hdev]
    exact hopen
  have hfits' : 8 ≤ ctrlCapacity mid := by
    rw [← hdev]
    exact hfits
  rcases hrouted with hkept | ⟨hok, hvalid⟩
  · have hready := hkept.ready hopen' hfits'
    split_ifs
    · exact ((rxKept_ctrlSendError _).after hkept).ready hopen' hfits'
    · exact hroute.rxSame_sendStatus.ready hready
    · exact hready
  · rw [if_neg (by simp [hok])]
    split_ifs
    · exact hroute.rxSame_sendStatus.ready (.of_valid hvalid)
    · exact .of_valid hvalid

/-- Once a SETUP packet is served the endpoint takes the next one. -/
theorem Allocated.rxReady_irq_setup (hopen : (eprHalf .rx (dev.epr 0)).stat ≠ .dis)
    (hfits : 8 ≤ ctrlCapacity dev) : RxReady (usbVIRQHandler.setup dev 0) := by
  have hopen' : (eprHalf .rx ((dev.setEpr 0 (flagClear .rx)).epr 0)).stat ≠ .dis := by
    rw [UsbDevice.setEpr_self, eprHalf_flagClear, if_pos rfl]
    exact hopen
  rw [usbVIRQHandler.setup]
  exact (framed_storeSetup dev _ h).1.rxReady_setupCallback hopen' hfits

/-- An OUT packet is handled: the endpoint is ready again, whatever comes next. -/
theorem Allocated.rxReady_irq_out : RxReady (usbVIRQHandler.out dev 0 0) := by
  rw [irq_out0_eq]
  split
  · exact .of_valid (rxReopened_setEpr _ _).rx
  · exact .of_valid (framed_outStored dev h).1.rxReopened.rx

/-- The status stage of a control read: the buffer for its empty packet has no room for anything. -/
theorem Allocated.rx_receiveStatus :
    (eprHalf .rx ((usbdCtrlReceiveStatus dev).epr 0)).stat = .valid ∧
      ctrlCapacity (usbdCtrlReceiveStatus dev) = 0 := by
  have hset : ∀ (dev' : UsbDevice) (data : DataPtr), UsbFramed dev'
      (dev'.setOut 0 { dev'.epOut 0 with data := data, progress := 0, length := 0 }) :=
    fun _ _ => framed_setOut rfl rfl rfl
  have hstate : UsbFramed dev (dev.setOut 0 { dev.epOut 0 with state := .status }) :=
    framed_setOut rfl rfl rfl
  have ha := (UsbFramed.after (hset _ .null) hstate h).1
  refine ⟨ha.rxReopened.rx, ?_⟩
  have hbuffer : (usbdCtrlReceiveStatus dev).pma (bdtRxCount 0) = usbPrvConvertRxCount 0 := by
    refine ha.buffer_receivePacket.trans ?_
    rw [UsbDevice.setOut_self, usbPrvNextPacketSize, if_neg (Nat.not_lt_zero _)]
  rw [ctrlCapacity, hbuffer]
  decide

/-- The callback at the end of a stage to the host. -/
theorem Allocated.rx_ctrlInCallback :
    RxSame dev (usbdCtrlInCallback dev) ∨
      (eprHalf .rx ((usbdCtrlInCallback dev).epr 0)).stat = .valid ∧
        ctrlCapacity (usbdCtrlInCallback dev) = 0 := by
  have hidle : UsbFramed dev (dev.setIn 0 { dev.epIn 0 with state := .idle }) :=
    framed_setIn0 rfl rfl rfl
  rw [usbdCtrlInCallback]
  split
  · exact .inl (h.rxSame_epSend _ _)
  · dsimp only
    split
    · refine .inr (Allocated.rx_receiveStatus ?_)
      split
      · exact (framed_hidDataStage _ _ (hidle h).1).1
      · exact (hidle h).1
    · split <;> exact .inl ⟨rfl, rfl⟩

/-- The IN half of a round: it takes the completion for one of the control endpoint. -/
theorem Allocated.rx_irq_in {epId : Nat} (hr : epId = 0 ∨ ∃ itf : HidIf, epId = itf.regId) :
    RxSame dev (usbVIRQHandler.in dev epId 0) ∨
      (eprHalf .rx ((usbVIRQHandler.in dev epId 0).epr 0)).stat = .valid ∧
        ctrlCapacity (usbVIRQHandler.in dev epId 0) = 0 := by
  have hflag : Allocated (dev.setEpr epId (flagClear .tx)) := by
    rcases hr with rfl | ⟨itf, rfl⟩
    · exact (framed_flagClear0 dev .tx h).1
    · exact ((shuts_flagClear .tx).settled itf h).1
  have hsame : RxSame dev (dev.setEpr epId (flagClear .tx)) := by
    refine ⟨rfl, ?_⟩
    by_cases h0 : epId = 0
    · subst h0
      rw [UsbDevice.setEpr_self, eprHalf_flagClear, if_neg (by decide)]
    · rw [dev.setEpr_of_ne (Ne.symm h0)]
  generalize hmid : dev.setEpr epId (flagClear .tx) = mid at hflag hsame
  have hadd : ∀ data : DataPtr, UsbFramed mid (mid.setIn 0 { mid.epIn 0 with data := data }) :=
    fun _ => framed_setIn0 rfl rfl rfl
  have hadded : ∀ data : DataPtr, RxSame dev (mid.setIn 0 { mid.epIn 0 with data := data }) :=
    fun _ => ⟨hsame.buffer, hsame.half⟩
  rw [usbVIRQHandler.in, hmid]
  split
  · rw [usbdEpInCallback, if_pos rfl]
    exact ((hadd _ hflag).1.rx_ctrlInCallback).imp_left fun hs => hs.after (hadded _)
  · exact .inl ((hadd _ hflag).1.rxSame_transmitPacket.after (hadded _))

/-- The round of a pipe, which can be taken for one of the control endpoint. -/
theorem Allocated.rx_round_pipe {jtf : HidIf} (hflag : flag dev .tx jtf.regId = true) :
    RxSame dev (usbVIRQHandler.round dev jtf.regId) ∨
      (eprHalf .rx ((usbVIRQHandler.round dev jtf.regId).epr 0)).stat = .valid ∧
        ctrlCapacity (usbVIRQHandler.round dev jtf.regId) = 0 := by
  have hrx : flag dev .rx jtf.regId = false := (h.registers.rx jtf).2
  rcases h.registers.addr jtf with hea | hea
  · rw [round_eq_in (n := 0) (by rw [hea]; rfl) hrx hflag]
    exact h.rx_irq_in (.inr ⟨jtf, rfl⟩)
  · obtain ⟨ep, -, heq⟩ := h.irq_in_pipe jtf
    rw [round_eq_in (n := jtf.epNum) (by rw [hea]; cases jtf <;> rfl) hrx hflag, heq]
    refine .inl ⟨rfl, ?_⟩
    show eprHalf .rx ((dev.setEpr jtf.regId (flagClear .tx)).epr 0) = _
    rw [dev.setEpr_of_ne (Ne.symm jtf.regId_ne_zero)]

end

/-- The bus reset leaves the control endpoint ready to receive. -/
theorem rx_ctrlEpOpen (dev : UsbDevice) :
    (eprHalf .rx ((usbVCtrlEpOpen dev).epr 0)).stat = .valid := by
  rw [usbVCtrlEpOpen, usbPrvCtrlEpOpen, UsbDevice.setEpr_self, eprHalf_setStatus, if_pos rfl]

/-- The reset opens the control endpoint. -/
theorem rx_tail {dev : UsbDevice} (hreset : dev.reset = true) :
    (eprHalf .rx ((usbVIRQHandler.tail dev).epr 0)).stat = .valid := by
  have hidle : ∀ (dev' : UsbDevice) (ep : UsbEp), (dev'.setOut 0 ep).epr = dev'.epr := fun _ _ => rfl
  rw [usbVIRQHandler.tail, if_pos hreset, usbdResetCallback, hidle]
  exact rx_ctrlEpOpen _

/-- An IN transaction leaves the receive side. -/
theorem rxSame_busIn (dev : UsbDevice) (n : Nat) (ack : Bool) : RxSame dev (busIn dev n ack).1 := by
  obtain ⟨hstack, hrx, -⟩ := busIn_rest dev n ack
  have hpma : (busIn dev n ack).1.pma = dev.pma := by rw [hstack]
  exact ⟨congrFun hpma _, hrx⟩

/-! ### The invariant -/

/-- A SETUP packet that waits has come into a large enough buffer, and once resets are served the
endpoint is ready for the next one, or for the packet that is due. -/
structure CtrlArmed (dev : UsbDevice) : Prop where
  allocated : Allocated dev
  fits : flag dev .rx 0 = true → (eprFields (dev.epr 0)).setup = true → 8 ≤ ctrlCapacity dev
  open_ : dev.reset = false → (eprHalf .rx (dev.epr 0)).stat ≠ .dis
  ready : dev.reset = false → flag dev .rx 0 = false → RxReady dev

/-- With nothing to handle, readiness is all there is to show. -/
theorem CtrlArmed.of_ready {dev : UsbDevice} (ha : Allocated dev) (hflag : flag dev .rx 0 = false)
    (hready : dev.reset = false → RxReady dev) : CtrlArmed dev :=
  ⟨ha, fun hset => absurd (hset.symm.trans hflag) (by decide), fun hreset => (hready hreset).open_,
    fun hreset _ => hready hreset⟩

section
variable {dev : UsbDevice} (h : CtrlArmed dev)
include h

/-- The invariant depends on the receive side, the SETUP bit and the reset line. -/
theorem CtrlArmed.of_same {dev' : UsbDevice} (ha : Allocated dev') (hs : RxSame dev dev')
    (hsetup : (eprFields (dev'.epr 0)).setup = (eprFields (dev.epr 0)).setup)
    (hreset : dev'.reset = dev.reset) : CtrlArmed dev' := by
  have hflag : flag dev' .rx 0 = flag dev .rx 0 := by rw [flag, flag, hs.half]
  have hcap : ctrlCapacity dev' = ctrlCapacity dev := by rw [ctrlCapacity, ctrlCapacity, hs.buffer]
  refine ⟨ha, ?_, ?_, ?_⟩
  · rw [hflag, hsetup, hcap]
    exact h.fits
  · rw [hreset, hs.half]
    exact h.open_
  · rw [hreset, hflag]
    exact fun hr hf => hs.ready (h.ready hr hf)

/-- A change away from the control endpoint keeps it. -/
theorem CtrlArmed.away {dev' : UsbDevice} (hs : Away dev dev') : CtrlArmed dev' := by
  refine h.of_same hs.allocated ⟨hs.memory _ (.inl (by decide)), ?_⟩ ?_ ?_
  · rw [hs.reg]
  · rw [hs.reg]
  · rw [hs.stack]

/-- An IN transaction keeps it. -/
theorem CtrlArmed.busIn (n : Nat) (ack : Bool) : CtrlArmed (busIn dev n ack).1 := by
  obtain ⟨hstack, -, hsetup⟩ := busIn_rest dev n ack
  have hreset : (PikvmHid.busIn dev n ack).1.reset = dev.reset := by rw [hstack]
  exact h.of_same (settled_busIn dev n ack h.allocated).1 (rxSame_busIn dev n ack) hsetup hreset

/-- A SETUP packet comes into a buffer with room for it. -/
theorem CtrlArmed.busSetup (req : SetupRequest) : CtrlArmed (busSetup dev req) := by
  have ha := (framed_busSetup dev req h.allocated).1
  rw [PikvmHid.busSetup] at ha ⊢
  split
  · -- The bus takes the packet only if the buffer has room for it.
    rename_i hok
    rw [if_pos hok] at ha
    have hhalf :
        eprHalf .rx (({ dev with pma := rxStore dev 0 req.toBytes }.setEpr 0 hwSetup).epr 0) =
        ⟨.nak, true, true⟩ := by
      rw [UsbDevice.setEpr_self, ← half_eprFields, fields_hwSetup]
      rfl
    refine ⟨ha, fun _ _ => ?_, fun _ => ?_, fun _ hflag => ?_⟩
    · exact hok.2.2.2.trans (h.allocated.layout.capacity_rxStore hok.2.2.2).ge
    · rw [hhalf]
      simp
    · rw [flag, hhalf] at hflag
      exact absurd hflag (by decide)
  · exact h

/-- An OUT transaction makes what it says come true, or is not acknowledged. -/
theorem CtrlArmed.busOut (n : Nat) (bytes : List U8) : CtrlArmed (busOut dev n bytes) := by
  by_cases hn : n = 0
  · subst hn
    have ha := (framed_busOut dev 0 bytes h.allocated).1
    by_cases hrx : (eprHalf .rx (dev.epr 0)).stat = .valid
    · obtain heq | ⟨-, heq⟩ := h.allocated.busOut_ctrl hrx bytes
      · rw [heq]
        exact h
      · -- An OUT packet that is taken clears `SETUP`.
        obtain ⟨hhalf, -, hsetup⟩ := epr_outAccepted dev bytes
        rw [heq] at ha ⊢
        refine ⟨ha, fun _ hset => ?_, fun _ => ?_, fun _ hflag => ?_⟩
        · exact absurd (hset.symm.trans hsetup) (by decide)
        · rw [hhalf]
          simp
        · rw [flag, hhalf] at hflag
          exact Bool.noConfusion hflag
    · rw [h.allocated.busOut_of_not_valid hrx bytes]
      exact h
  · rw [h.allocated.busOut_of_ne hn bytes]
    exact h

/-- A bus reset clears the `SETUP` bit. -/
theorem CtrlArmed.busReset : CtrlArmed (busReset dev) := by
  have hnot : ∀ {p : Prop}, (PikvmHid.busReset dev).reset = false → p :=
    fun hreset => absurd hreset (by simp [PikvmHid.busReset])
  refine ⟨(settled_busReset dev h.allocated).1, fun _ hsetup => ?_, hnot, hnot⟩
  have hcleared : (eprFields ((PikvmHid.busReset dev).epr 0)).setup = false := by
    show (eprFields (hwReset (dev.epr 0))).setup = false
    rw [fields_hwReset]
  exact absurd (hsetup.symm.trans hcleared) (by decide)

/-- The round of the control register. -/
theorem CtrlArmed.round_ctrl (hreset : dev.reset = false) : RxReady (usbVIRQHandler.round dev 0) := by
  have hnum : (dev.epr 0 &&& USB_EPADDR_FIELD).toNat = 0 := h.allocated.num_ctrl
  have hrx : Allocated (if dev.epr 0 &&& USB_EP_CTR_RX ≠ 0 then
      if dev.epr 0 &&& USB_EP_SETUP ≠ 0 then usbVIRQHandler.setup dev 0
      else usbVIRQHandler.out dev 0 0 else dev) ∧
      RxReady (if dev.epr 0 &&& USB_EP_CTR_RX ≠ 0 then
        if dev.epr 0 &&& USB_EP_SETUP ≠ 0 then usbVIRQHandler.setup dev 0
        else usbVIRQHandler.out dev 0 0 else dev) := by
    -- The receive part first: SETUP, OUT, or none.
    split_ifs with hctr hsetup
    · have hfits :=
        h.fits ((flag_eq_true_iff dev .rx 0).mpr hctr) ((and_setup_ne_zero_iff _).mp hsetup)
      exact ⟨(settled_irq_setup dev 0 h.allocated).1,
        h.allocated.rxReady_irq_setup (h.open_ hreset) hfits⟩
    · exact ⟨(framed_irq_out dev 0 h.allocated).1, h.allocated.rxReady_irq_out⟩
    · have hnone := eq_false_of_ne_true (mt (flag_eq_true_iff dev .rx 0).mp hctr)
      exact ⟨h.allocated, h.ready hreset hnone⟩
  rw [usbVIRQHandler.round, hnum]
  generalize (if dev.epr 0 &&& USB_EP_CTR_RX ≠ 0 then
      if dev.epr 0 &&& USB_EP_SETUP ≠ 0 then usbVIRQHandler.setup dev 0
      else usbVIRQHandler.out dev 0 0 else dev) = mid at hrx ⊢
  split
  · rcases hrx.1.rx_irq_in (.inl rfl) with hsame | ⟨hvalid, -⟩
    · exact hsame.ready hrx.2
    · exact .of_valid hvalid
  · exact hrx.2

/-- The round of a register. -/
theorem CtrlArmed.round {r : Nat} (hr : pendingEp dev = some r) :
    CtrlArmed (usbVIRQHandler.round dev r) := by
  have ha := (settled_irq_round dev r h.allocated).1
  have hreset : (usbVIRQHandler.round dev r).reset = dev.reset :=
    congrArg Prod.snd (h.allocated.istr_round r)
  have hflag := h.allocated.flag_round r .rx 0
  rcases h.allocated.pendingEp_cases hr with ⟨rfl, -⟩ | ⟨jtf, rfl, hset⟩
  · refine .of_ready ha (hflag.trans (by simp)) fun hres => h.round_ctrl (hreset.symm.trans hres)
  · -- The control register comes first, so no packet waits there.
    have hnone := flag_of_pendingEp_pipe hr
    refine .of_ready ha (hflag.trans (by rw [hnone, Bool.false_and])) fun hres => ?_
    rcases h.allocated.rx_round_pipe hset with hsame | ⟨hvalid, -⟩
    · exact hsame.ready (h.ready (hreset.symm.trans hres) hnone)
    · exact .of_valid hvalid

/-- The rest of the handler. -/
theorem CtrlArmed.tail (hdone : pendingEp dev = none) : CtrlArmed (usbVIRQHandler.tail dev) := by
  have hflag : flag (usbVIRQHandler.tail dev) .rx 0 = false := by
    rw [flag_irq_tail]
    exact flag_of_pendingEp hdone .rx (by decide)
  refine .of_ready (settled_irq_tail dev h.allocated).1 hflag fun _ => ?_
  by_cases hreset : dev.reset = true
  · exact .of_valid (rx_tail hreset)
  · rw [usbVIRQHandler.tail, if_neg hreset]
    exact h.ready (eq_false_of_ne_true hreset) (flag_of_pendingEp hdone .rx (by decide))

/-- Every step keeps it. -/
theorem CtrlArmed.step {i : UsbAct} (hi : FitsPacket i) : CtrlArmed (usbMachine.step dev i).1 := by
  cases i with
  | inToken n ack => exact h.busIn n ack
  | outToken n bytes => exact h.busOut n bytes
  | setup req => exact h.busSetup req
  | busReset => exact h.busReset
  | irq =>
      show CtrlArmed (usbVIRQHandler.step dev)
      rw [usbVIRQHandler.step]
      split
      · rename_i r hr
        exact h.round hr
      · rename_i hdone
        exact h.tail hdone
  | reportIn i bytes => exact h.away (h.allocated.away_reportIn i hi)

end

/-- Before the first reset is served the function is disabled. -/
def Disabled (dev : UsbDevice) : Prop := Fresh dev ∧ dev.enabled = false

/-- Before the first bus reset the endpoint is disabled, after it the invariant holds. -/
theorem Disabled.step {dev : UsbDevice} (h : Disabled dev) (i : UsbAct) :
    Disabled (usbMachine.step dev i).1 ∨ CtrlArmed (usbMachine.step dev i).1 := by
  obtain ⟨hfresh, hoff⟩ := h
  rcases hfresh.step_cases i with hsame | ⟨-, hbus⟩ | ⟨-, hreset, htail, ha, -⟩
  · rw [hsame]
    exact .inl ⟨hfresh, hoff⟩
  · rw [hbus]
    refine .inl ⟨hfresh.busReset, ?_⟩
    show (0 : U8).getLsbD 7 = false
    decide
  · -- The first reset opens the control endpoint and enables the function.
    have hflag : flag (usbVIRQHandler.tail dev) .rx 0 = false := by
      rw [flag_irq_tail]
      exact flag_of_pendingEp hfresh.pendingEp .rx (by decide)
    rw [htail]
    exact .inr (.of_ready ha hflag fun _ => .of_valid (rx_tail hreset))

/-- Every run from start-up has one or the other. -/
theorem armed_run (pma : Pma) {is : List UsbAct} (h : ∀ i ∈ is, FitsPacket i) :
    Disabled (usbMachine.exec (usbDeviceInit pma, []) is).1 ∨
      CtrlArmed (usbMachine.exec (usbDeviceInit pma, []) is).1 := by
  have hinit : Disabled (usbDeviceInit pma) := by
    refine ⟨fresh_usbDeviceInit pma, ?_⟩
    have hdaddr : (usbDeviceInit pma).daddr = 0 := rfl
    rw [UsbDevice.enabled, hdaddr]
    decide
  refine usbMachine.invariant (I := fun c => Disabled c.1 ∨ CtrlArmed c.1) (fun c i hc hi => ?_)
    (.inl hinit) ((usbMachine.meets_forall_iff _).mpr h)
  rcases hc with hdisabled | harmed
  · exact hdisabled.step i
  · exact .inr (harmed.step hi)

/-! ### A request is refused -/

/-- The buffer is too small for a SETUP packet, and no packet of the host waits. -/
structure TooSmall (dev : UsbDevice) : Prop where
  allocated : Allocated dev
  reset : dev.reset = false
  none : flag dev .rx 0 = false
  small : ctrlCapacity dev < 8

/-- A request has eight bytes on the wire. -/
theorem length_toBytes (req : SetupRequest) : req.toBytes.length = 8 := rfl

/-- A SETUP packet is taken if the buffer has room for it. -/
theorem takes_iff {dev : UsbDevice} (hon : dev.enabled = true)
    (hopen : (eprHalf .rx (dev.epr 0)).stat ≠ .dis)
    (hnone : flag dev .rx 0 = false) (req : SetupRequest) : Takes dev req ↔ 8 ≤ ctrlCapacity dev := by
  rw [Takes, busSetup, length_toBytes, ← ctrlCapacity]
  constructor
  · rintro ⟨-, htaken⟩
    by_contra hsmall
    rw [if_neg fun hok => hsmall hok.2.2.2] at htaken
    rw [flag, htaken] at hnone
    exact absurd hnone (by decide)
  · intro hfits
    refine ⟨hnone, ?_⟩
    rw [if_pos ⟨hon, hopen, hnone, hfits⟩, UsbDevice.setEpr_self, ← half_eprFields, fields_hwSetup]
    rfl

section
variable {dev : UsbDevice} (h : TooSmall dev)
include h

/-- An endpoint that is too small for a SETUP packet does not answer it. -/
theorem TooSmall.busSetup (req : SetupRequest) : busSetup dev req = dev := by
  rw [PikvmHid.busSetup, length_toBytes, ← ctrlCapacity, if_neg]
  exact fun hok => absurd h.small (Nat.not_lt_of_le hok.2.2.2)

/-- It stays too small while the receive side stays the same. -/
theorem TooSmall.of_same {dev' : UsbDevice} (ha : Allocated dev') (hs : RxSame dev dev')
    (hreset : dev'.reset = dev.reset) : TooSmall dev' := by
  refine ⟨ha, hreset.trans h.reset, ?_, ?_⟩
  · rw [flag, hs.half]
    exact h.none
  · rw [ctrlCapacity, hs.buffer]
    exact h.small

/-- The round of a register: the next packet due can only be the empty one of a status stage. -/
theorem TooSmall.round {r : Nat} (hr : pendingEp dev = some r) :
    TooSmall (usbVIRQHandler.round dev r) := by
  have ha := (settled_irq_round dev r h.allocated).1
  have hreset : (usbVIRQHandler.round dev r).reset = dev.reset :=
    congrArg Prod.snd (h.allocated.istr_round r)
  have hnone : flag (usbVIRQHandler.round dev r) .rx 0 = false := by
    rw [h.allocated.flag_round, h.none, Bool.false_and]
  have hrx : RxSame dev (usbVIRQHandler.round dev r) ∨
      (eprHalf .rx ((usbVIRQHandler.round dev r).epr 0)).stat = .valid ∧
        ctrlCapacity (usbVIRQHandler.round dev r) = 0 := by
    rcases h.allocated.pendingEp_cases hr with ⟨rfl, hflagged⟩ | ⟨jtf, rfl, hset⟩
    · have hnum : (eprFields (dev.epr 0)).ea.toNat = 0 := by
        rw [h.allocated.registers.ctrl]
        rfl
      have hacked : flag dev .tx 0 = true := by
        rw [pending, h.none, Bool.false_or] at hflagged
        exact hflagged
      rw [round_eq_in hnum h.none hacked]
      exact h.allocated.rx_irq_in (.inl rfl)
    · exact h.allocated.rx_round_pipe hset
  rcases hrx with hsame | ⟨-, hempty⟩
  · exact h.of_same ha hsame hreset
  · exact ⟨ha, hreset.trans h.reset, hnone, by rw [hempty]; decide⟩

/-- Without an OUT packet or a reset the buffer stays too small. -/
theorem TooSmall.step {i : UsbAct} (hi : DropsTransfer i ∧ FitsPacket i) :
    TooSmall (usbMachine.step dev i).1 := by
  -- Only an OUT packet or a reset makes the buffer larger again, and the host sends neither.
  cases i with
  | inToken n ack =>
      obtain ⟨hstack, -⟩ := busIn_rest dev n ack
      have hreset : (busIn dev n ack).1.reset = dev.reset := by rw [hstack]
      exact h.of_same (settled_busIn dev n ack h.allocated).1 (rxSame_busIn dev n ack) hreset
  | outToken n bytes =>
      simp only [usbMachine, h.allocated.busOut_of_ne hi.1 bytes]
      exact h
  | setup req =>
      simp only [usbMachine, h.busSetup]
      exact h
  | busReset => exact absurd hi.1 not_false
  | irq =>
      show TooSmall (usbVIRQHandler.step dev)
      rw [usbVIRQHandler.step]
      split
      · rename_i r hr
        exact h.round hr
      · rw [usbVIRQHandler.tail, if_neg (by simp [h.reset])]
        exact h
  | reportIn i bytes =>
      have haway := h.allocated.away_reportIn i hi.2
      refine h.of_same haway.allocated ⟨haway.memory _ (.inl (by decide)), ?_⟩ ?_
      · rw [haway.reg]
      · rw [haway.stack]

end

/-! ### A report without data -/

/-- A request waits in the buffer, so no other one is taken. -/
theorem SetupAsked.busSetup {req : SetupRequest} {dev : UsbDevice} (h : SetupAsked req dev)
    (req' : SetupRequest) : busSetup dev req' = dev := by
  rw [PikvmHid.busSetup, if_neg]
  rintro ⟨-, -, hnone, -⟩
  rw [h.rx] at hnone
  exact absurd hnone (by decide)

/-- The handler sizes the buffer for the data that do not come, and sends the status packet. -/
structure EmptyServed (dev dev' : UsbDevice) : Prop where
  tooSmall : TooSmall dev'
  tx : eprHalf .tx (dev'.epr 0) = ⟨.valid, true, false⟩
  packet : txPacket dev' 0 = []
  daddr : dev'.daddr = dev.daddr

/-- A report without data is served by one call of the handler. -/
theorem WriteAsked.served_empty {req : SetupRequest} {dev : UsbDevice} (h : WriteAsked req dev)
    (hreq : req.SetsReport) (hlen : req.length = 0) :
    EmptyServed dev (usbVIRQHandler.step dev) := by
  obtain ⟨hstep, -⟩ := h.irq
  obtain ⟨hnone, hreset⟩ := h.served
  have ha := (settled_irq_setup dev 0 h.allocated).1
  obtain ⟨dev', hend, hawaited⟩ := h.awaits hreq
  rw [if_pos hlen] at hend
  rw [← hstep] at ha hnone hreset
  obtain ⟨-, htx, hpacket, -, -, -, -, hdaddr⟩ := hawaited.allocated.statusSent
  have hbuffer : (usbdCtrlSendStatus dev').pma (bdtRxCount 0) = usbPrvConvertRxCount 0 :=
    hawaited.allocated.rxSame_sendStatus.buffer.trans (hawaited.buffer hlen)
  refine ⟨⟨ha, hreset, hnone, ?_⟩, ?_, ?_, ?_⟩
  · rw [hend, ctrlCapacity, hbuffer]
    decide
  · rw [hend, htx, hawaited.tx, h.tx_stored]
  · rw [hend, hpacket]
  · rw [hend, hdaddr, hawaited.daddr]
    rfl

/-- The request waits for the handler, or its buffer is too small for the next one. -/
def EmptyWrite (req : SetupRequest) (dev : UsbDevice) : Prop := WriteAsked req dev ∨ TooSmall dev

/-- The steps after it keep what was served. -/
theorem EmptyWrite.step {req : SetupRequest} {dev : UsbDevice} (h : EmptyWrite req dev)
    (hreq : req.SetsReport) (hlen : req.length = 0) {i : UsbAct}
    (hi : DropsTransfer i ∧ FitsPacket i) : EmptyWrite req (usbMachine.step dev i).1 := by
  rcases h with hasked | hsmall
  · -- Only the handler goes on with a request that waits.
    cases i with
    | inToken n ack =>
        refine .inl ?_
        by_cases hn : n = 0
        · subst hn
          have hsame : (busIn dev 0 ack).1 = dev := congrArg Prod.fst (hasked.busIn ack)
          simp only [usbMachine, hsame]
          exact hasked
        · exact hasked.away (hasked.allocated.away_busIn hn ack).1
    | outToken n bytes =>
        simp only [usbMachine, hasked.allocated.busOut_of_ne hi.1 bytes]
        exact .inl hasked
    | setup req' =>
        simp only [usbMachine, hasked.toSetupAsked.busSetup]
        exact .inl hasked
    | busReset => exact absurd hi.1 not_false
    | irq => exact .inr (hasked.served_empty hreq hlen).tooSmall
    | reportIn i bytes => exact .inl (hasked.away (hasked.allocated.away_reportIn i hi.2))
  · exact .inr (hsmall.step hi)

/-- When the handler is done, the buffer is too small. -/
theorem EmptyWrite.tooSmall {req : SetupRequest} {dev : UsbDevice} (h : EmptyWrite req dev)
    (hdone : pendingEp dev = none) : TooSmall dev := by
  refine h.resolve_left fun hasked => ?_
  rw [hasked.toSetupAsked.pendingEp] at hdone
  exact absurd hdone (by simp)

/-- No register but that of the control endpoint has a flag. -/
def CtrlFlagged (dev : UsbDevice) : Prop :=
  ∀ d r, r ≠ 0 → r < USBD_MAX_EP_COUNT → flag dev d r = false

/-- A write to the control register leaves the flags of the other ones. -/
theorem CtrlFlagged.setEpr {dev : UsbDevice} (h : CtrlFlagged dev) (f : U16 → U16) :
    CtrlFlagged (dev.setEpr 0 f) := by
  intro d r hr hlt
  rw [flag, dev.setEpr_of_ne hr]
  exact h d r hr hlt

/-- So does taking one of its completions. -/
theorem CtrlFlagged.istrClear {dev dev' : UsbDevice} (h : CtrlFlagged dev) {d : EpHalf}
    (histr : istr dev' = istrClear dev d 0) : CtrlFlagged dev' := by
  intro d' r hr hlt
  have hflag := congrFun (congrFun (congrArg Prod.fst histr) d') r
  dsimp only [istr, PikvmHid.istrClear] at hflag
  rw [hflag, h d' r hr hlt, Bool.false_and]

/-- When both of its completions are taken nothing is pending. -/
theorem CtrlFlagged.done {dev : UsbDevice} (h : CtrlFlagged dev)
    (hrx : flag dev .rx 0 = false) (htx : flag dev .tx 0 = false) : pendingEp dev = none := by
  rw [pendingEp_eq, Lib.firstPending, List.find?_eq_none]
  intro r hr
  rw [Bool.not_eq_true, pending, Bool.or_eq_false_iff]
  by_cases h0 : r = 0
  · subst h0
    exact ⟨hrx, htx⟩
  · exact ⟨h .rx r h0 (List.mem_range.mp hr), h .tx r h0 (List.mem_range.mp hr)⟩

/-- The host reads the status packet. -/
theorem EmptyServed.busIn {dev dev' : UsbDevice} (h : EmptyServed dev dev')
    (hon : dev.enabled = true) :
    busIn dev' 0 true = (dev'.setEpr 0 (hwDone .tx), [.packet 0 true [] true]) := by
  have hon' : dev'.enabled = true := by
    rw [UsbDevice.enabled, h.daddr]
    exact hon
  rw [PikvmHid.busIn, h.tooSmall.allocated.eprFor_ctrl (by simp [h.tx])]
  dsimp only
  rw [if_pos ⟨hon', by rw [h.tx]⟩, h.tx, h.packet]
  rfl

/-- The handler sees that it was read, and has nothing left to do. -/
theorem CtrlFlagged.acknowledged {dev : UsbDevice} (h : CtrlFlagged dev) (ha : Allocated dev)
    (hnone : flag dev .rx 0 = false) :
    pendingEp (usbVIRQHandler.step (dev.setEpr 0 (hwDone .tx))) = none := by
  have hacked : CtrlFlagged (dev.setEpr 0 (hwDone .tx)) := h.setEpr _
  have hrx : flag (dev.setEpr 0 (hwDone .tx)) .rx 0 = false := by
    rw [flag, UsbDevice.setEpr_self, ← half_eprFields, fields_hwDone]
    exact hnone
  have hset : flag (dev.setEpr 0 (hwDone .tx)) .tx 0 = true := by
    rw [flag, UsbDevice.setEpr_self, eprHalf_hwDone]
  have hnum : (eprFields ((dev.setEpr 0 (hwDone .tx)).epr 0)).ea.toNat = 0 := by
    rw [(framed_hwDone0 dev .tx ha).1.registers.ctrl]
    rfl
  generalize dev.setEpr 0 (hwDone .tx) = dev' at hacked hrx hset hnum ⊢
  have histr : istr (usbVIRQHandler.step dev') = PikvmHid.istrClear dev' .tx 0 := by
    rw [usbVIRQHandler.step, pendingEp_of_pending (by rw [pending, hset, Bool.or_true])]
    dsimp only
    rw [round_eq_in hnum hrx hset, istr_irq_in, istr_flagClear]
  have hflag : ∀ d, flag (usbVIRQHandler.step dev') d 0 =
      (flag dev' d 0 && !decide (d = .tx ∧ 0 = 0)) :=
    fun d => congrFun (congrFun (congrArg Prod.fst histr) d) 0
  refine (hacked.istrClear histr).done ?_ ?_
  · rw [hflag, hrx, Bool.false_and]
  · rw [hflag, hset]
    rfl

/-- The transfer is complete: the host has the status packet, and the handler nothing left to do. -/
theorem ReportRequest.completed {c : UsbDevice × List UsbObs} {req : SetupRequest}
    (hreq : ReportRequest c.1 req) (h : Allocated c.1) (hon : c.1.enabled = true)
    (hlen : req.length = 0) :
    let c' := usbMachine.exec c [.setup req, .irq, .inToken 0 true, .irq]
    c'.2 = c.2 ++ [.packet 0 true [] true] ∧ pendingEp c'.1 = none := by
  have hasked := hreq.writeAsked h
  have hserved := hasked.served_empty (hreq.setsReport h) hlen
  have hnone : CtrlFlagged c.1 := fun d r _ hlt => flag_of_pendingEp hreq.handled d hlt
  have hasks : CtrlFlagged (busSetup c.1 req) := by
    have hstored : CtrlFlagged { c.1 with pma := rxStore c.1 0 req.toBytes } := hnone
    rw [busSetup]
    split
    · exact hstored.setEpr _
    · exact hnone
  have hon' : (busSetup c.1 req).enabled = true := by
    rw [busSetup]
    split
    · exact hon
    · exact hon
  have hflagged : CtrlFlagged (usbVIRQHandler.step (busSetup c.1 req)) := by
    refine hasks.istrClear (d := .rx) ?_
    rw [hasked.irq.1, istr_irq_setup, istr_flagClear]
  have hin := hserved.busIn hon'
  have hdone := hflagged.acknowledged hserved.tooSmall.allocated hserved.tooSmall.none
  generalize hdev : usbVIRQHandler.step (busSetup c.1 req) = dev at hin hdone
  have hend : usbMachine.exec c [.setup req, .irq, .inToken 0 true, .irq] =
      (usbVIRQHandler.step (dev.setEpr 0 (hwDone .tx)), c.2 ++ [.packet 0 true [] true]) := by
    simp only [Lib.Machine.exec_cons, Lib.Machine.exec_nil, Lib.Machine.next, usbMachine, hdev, hin,
      List.append_nil]
  rw [hend]
  exact ⟨rfl, hdone⟩

/-! ### The run -/

/-- As long as the host sends no OUT packet to endpoint 0 and no reset, none of its requests gets
through. -/
theorem TooSmall.refuses {c : UsbDevice × List UsbObs} (h : TooSmall c.1) {post : List UsbAct}
    (hpost : ∀ i ∈ post, DropsTransfer i) (hc : usbMachine.Meets Contained c post)
    (req : SetupRequest) : ¬ Takes (usbMachine.exec c post).1 req := by
  have hend : TooSmall (usbMachine.exec c post).1 :=
    usbMachine.invariant (I := fun c => TooSmall c.1) (fun c i hc hi => hc.step hi) h
      ((usbMachine.meets_forall_iff c).mpr fun i hi => ⟨hpost i hi, fitsPacket_of_contained hc i hi⟩)
  rintro ⟨hbefore, htaken⟩
  rw [hend.busSetup, hbefore] at htaken
  exact absurd htaken (by decide)

/-- A request gets through to an idle handler if the receive buffer has the eight bytes, and only
then. If not, the driver has made the endpoint ready for a shorter packet; as long as the host sends
no OUT packet and no reset, none of its requests gets through any more, whatever else happens. So it
is after a `SET_REPORT` request without data: when the handler is done with it, the buffer is too
small, also where the transfer is complete. -/
theorem setup_refused (pma : Pma) {pre : List UsbAct}
    (hpre : usbMachine.Meets Contained (usbDeviceInit pma, []) pre)
    (hdone : pendingEp (usbMachine.exec (usbDeviceInit pma, []) pre).1 = none)
    (hreset : (usbMachine.exec (usbDeviceInit pma, []) pre).1.reset = false)
    (hon : (usbMachine.exec (usbDeviceInit pma, []) pre).1.enabled = true) :
    TakesRequests (usbMachine.exec (usbDeviceInit pma, []) pre) := by
  rcases armed_run pma (fitsPacket_of_contained hpre) with ⟨-, hoff⟩ | harmed
  · exact absurd (hon.symm.trans hoff) (by decide)
  · generalize usbMachine.exec (usbDeviceInit pma, []) pre = c at hdone hreset hon harmed
    have hnone : flag c.1 .rx 0 = false := flag_of_pendingEp hdone .rx (by decide)
    have hready := harmed.ready hreset hnone
    constructor
    · exact takes_iff hon hready.open_ hnone
    · exact hready.small
    · intro hsmall post hpost hc
      exact TooSmall.refuses ⟨harmed.allocated, hreset, hnone, hsmall⟩ hpost hc
    · intro req hreq hlen
      exact hreq.completed harmed.allocated hon hlen
    · intro req hreq hlen post hpost hc hidle
      have hstart : EmptyWrite req (usbMachine.next c (.setup req)).1 :=
        .inl (hreq.writeAsked harmed.allocated)
      have hend : EmptyWrite req (usbMachine.exec (usbMachine.next c (.setup req)) post).1 :=
        usbMachine.invariant (I := fun c => EmptyWrite req c.1)
          (fun c i hc hi => hc.step (hreq.setsReport harmed.allocated) hlen hi) hstart
          ((usbMachine.meets_forall_iff _).mpr fun i hi =>
            ⟨hpost i hi, fitsPacket_of_contained hc.2 i hi⟩)
      exact (hend.tooSmall hidle).small

/-- `SET_REPORT` without data. -/
def emptyReport : SetupRequest := { setLeds with length := 0 }

/-- A configured device takes the request. -/
theorem emptyReport_refused :
    let c := usbMachine.exec (usbDeviceInit fun _ => 0, []) configure
    let c' := usbMachine.exec c [.setup emptyReport, .irq, .inToken 0 true, .irq]
    ReportRequest c.1 emptyReport ∧ ctrlCapacity c.1 = 64 ∧ ctrlCapacity c'.1 = 0 ∧
      TakesRequests c ∧ TakesRequests c' := by
  have hpre : usbMachine.Meets Contained (usbDeviceInit fun _ => 0, [])
      (configure ++ [.setup emptyReport, .irq, .inToken 0 true, .irq]) := by
    decide +kernel
  refine ⟨?_, by decide +kernel, by decide +kernel, ?_, ?_⟩
  · exact ⟨⟨by decide +kernel, by decide +kernel, by decide +kernel⟩, by decide, by decide,
      by decide +kernel, by decide +kernel⟩
  · exact setup_refused _ ((usbMachine.meets_append ..).mp hpre).1 (by decide +kernel)
      (by decide +kernel) (by decide +kernel)
  · rw [← Lib.Machine.exec_append]
    exact setup_refused _ hpre (by decide +kernel) (by decide +kernel) (by decide +kernel)

end PikvmHid
