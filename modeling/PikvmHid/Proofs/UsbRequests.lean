import PikvmHid.Proofs.UsbControl

/-!
# `PikvmHid.Proofs.UsbRequests`: from the request to the data

A request that the device has a reply to makes it start a data stage with that reply
(`usbdSetupCallback_reply`), and the data stage then brings it to the host. So a control read gets
what `reply` says, whatever the tasks and the other endpoints do in the meantime.
-/

set_option autoImplicit false

namespace PikvmHid

/-! ### The reply -/

/-- What a reply is read from. -/
structure SameReply (dev dev' : UsbDevice) : Prop where
  setup : dev'.setup = dev.setup
  desc : dev'.desc = dev.desc
  ifs : dev'.ifs = dev.ifs
  config : dev'.configSelector = dev.configSelector
  wakeup : dev'.remoteWakeup = dev.remoteWakeup
  powered : dev'.selfPowered = dev.selfPowered
  ep : ∀ epAddr, (dev'.ep epAddr).type = (dev.ep epAddr).type ∧
    (dev'.ep epAddr).maxPacketSize = (dev.ep epAddr).maxPacketSize

section
variable {dev dev' : UsbDevice} (h : SameReply dev dev')
include h

/-- The endpoint descriptors are the same. -/
theorem SameReply.epDesc (epAddr : U8) : usbdEpDesc dev' epAddr = usbdEpDesc dev epAddr := by
  rw [usbdEpDesc, usbdEpDesc, (h.ep epAddr).1, (h.ep epAddr).2]

/-- So are the interface descriptors. -/
theorem SameReply.interfaces (ifs : List HidIfHandle) (ifNum : U8) :
    usbdConfigDesc.interfaces dev' ifs ifNum = usbdConfigDesc.interfaces dev ifs ifNum := by
  induction ifs generalizing ifNum with
  | nil => rfl
  | cons itf ifs ih =>
      rw [usbdConfigDesc.interfaces, usbdConfigDesc.interfaces, ih, hidGetDesc, hidGetDesc, h.epDesc]

/-- So is the configuration descriptor. -/
theorem SameReply.configDesc : usbdConfigDesc dev' = usbdConfigDesc dev := by
  rw [usbdConfigDesc, usbdConfigDesc, h.interfaces, h.ifs, h.desc]

/-- So is the device descriptor. -/
theorem SameReply.deviceDesc : usbdDeviceDesc dev' = usbdDeviceDesc dev := by
  have hmps : (dev'.epOut 0).maxPacketSize = (dev.epOut 0).maxPacketSize := (h.ep 0).2
  rw [usbdDeviceDesc, usbdDeviceDesc, hmps, h.desc]

/-- So are the strings. -/
theorem SameReply.string : usbdString dev' = usbdString dev := by
  rw [usbdString, usbdString, usbdIfString, usbdIfString, h.setup, h.desc, h.ifs]

/-- So is the reply. -/
theorem SameReply.reply : reply dev' = reply dev := by
  have hdevice : deviceDescriptor dev' = deviceDescriptor dev := by
    rw [deviceDescriptor, deviceDescriptor, h.deviceDesc, h.configDesc, h.string, h.setup]
  have hinterface : interfaceReply dev' = interfaceReply dev := by
    funext itf
    rw [interfaceReply, interfaceReply, interfaceDescriptor, interfaceDescriptor, h.setup]
  rw [PikvmHid.reply, PikvmHid.reply, deviceStatus, deviceStatus, hdevice, hinterface, h.setup, h.ifs,
    h.config, h.wakeup, h.powered]

end

/-- The answer to a request: the stack sends the bytes, from `CtrlData` or from memory. -/
def RepliesWith (dev : UsbDevice) (r : UsbdReturn × UsbDevice) (bytes : List U8) : Prop :=
  ∃ (ctrl : Buffer) (data : DataPtr), (data.read ctrl).bytes bytes.length = bytes ∧
    r = usbdCtrlSendData { dev with ctrlData := ctrl } data bytes.length

/-- Bytes put into `CtrlData` are replied from there. -/
theorem repliesWith_setCtrl (dev : UsbDevice) (bytes : List U8) :
    RepliesWith dev (usbdCtrlSendData (dev.setCtrl bytes) (.ctrlData 0) bytes.length) bytes := by
  refine ⟨(DataPtr.ctrlData 0).write dev.ctrlData bytes, .ctrlData 0, ?_, rfl⟩
  refine Eq.trans (Buffer.bytes_congr fun i hi => ?_) (Buffer.bytes_ofList bytes dev.ctrlData)
  simp [DataPtr.read, DataPtr.write, Buffer.drop, Buffer.ofList]

/-- Bytes that lie in the flash are replied from there. -/
theorem repliesWith_mem (dev : UsbDevice) (bytes : List U8) :
    RepliesWith dev (usbdCtrlSendData dev (.mem (.ofList bytes .zero)) bytes.length) bytes :=
  ⟨dev.ctrlData, .mem (.ofList bytes .zero), Buffer.bytes_ofList bytes .zero, rfl⟩

/-- A descriptor of the device. -/
theorem repliesWith_getDescriptor {dev : UsbDevice} {bytes : List U8}
    (h : deviceDescriptor dev = some bytes) : RepliesWith dev (usbdGetDescriptor dev) bytes := by
  rw [deviceDescriptor] at h
  rw [usbdGetDescriptor]
  dsimp only
  split_ifs at h ⊢
  · obtain rfl := Option.some.inj h
    exact repliesWith_setCtrl dev _
  · obtain rfl := Option.some.inj h
    exact repliesWith_setCtrl dev _
  · obtain rfl := Option.some.inj h
    exact repliesWith_mem dev _
  · obtain ⟨str, hstr, rfl⟩ := Option.map_eq_some_iff.mp h
    rw [hstr]
    exact repliesWith_setCtrl dev _

/-- What an interface says. -/
theorem repliesWith_ifRequest {dev : UsbDevice} {itf : HidIfHandle} {bytes : List U8}
    (hconf : dev.configSelector ≠ 0) (hitf : dev.ifs[dev.setup.indexLow.toNat]? = some itf)
    (h : interfaceReply dev itf = some bytes) : RepliesWith dev (usbdIfRequest dev) bytes := by
  rw [interfaceReply] at h
  rw [usbdIfRequest]
  dsimp only
  rw [hitf]
  dsimp only
  rw [if_neg hconf]
  split_ifs at h with htype hget hdesc hclass
  · -- `GET_INTERFACE` sends the first of two bytes.
    obtain rfl := Option.some.inj h
    rw [if_pos htype, if_pos hget]
    exact ⟨dev.ctrlData, .mem (.ofList [itf.altSelector, itf.altCount] .zero), rfl, rfl⟩
  · have hset : dev.setup.request ≠ USB_REQ_SET_INTERFACE := by
      rw [hdesc]
      decide
    rw [if_pos htype, if_neg hget, if_neg hset, hidSetupStage, if_pos htype, hidSetupStage.standard,
      if_pos hdesc]
    rw [interfaceDescriptor] at h
    split_ifs at h ⊢
    · obtain rfl := Option.some.inj h
      exact repliesWith_setCtrl dev _
    · obtain rfl := Option.some.inj h
      exact repliesWith_mem dev _
  · obtain rfl := Option.some.inj h
    rw [if_neg htype, hidSetupStage, if_neg htype, if_pos hclass.1, hidSetupStage.class]
    rw [hclass.2, if_neg (by decide), if_neg (by decide), if_pos rfl]
    exact repliesWith_setCtrl dev _

/-- A request to the device that has a reply is answered with it. -/
theorem repliesWith_devRequest {dev : UsbDevice} {bytes : List U8}
    (htype : dev.setup.type = USB_REQ_TYPE_STANDARD)
    (h : (if dev.setup.request = USB_REQ_GET_DESCRIPTOR then deviceDescriptor dev
      else if dev.setup.request = USB_REQ_GET_CONFIGURATION then some [dev.configSelector]
      else if dev.setup.request = USB_REQ_GET_STATUS then some [deviceStatus dev, 0]
      else none) = some bytes) : RepliesWith dev (usbdDevRequest dev) bytes := by
  rw [usbdDevRequest, if_pos htype]
  split_ifs at h with hdesc hconf hstatus
  · rw [if_pos hdesc]
    exact repliesWith_getDescriptor h
  · obtain rfl := Option.some.inj h
    rw [hconf, if_neg (by decide), if_neg (by decide), if_neg (by decide), if_pos rfl]
    exact repliesWith_setCtrl dev _
  · obtain rfl := Option.some.inj h
    rw [hstatus, if_neg (by decide), if_neg (by decide), if_neg (by decide), if_neg (by decide),
      if_pos rfl]
    exact repliesWith_setCtrl dev _

/-- A request with a reply is answered with it. -/
theorem repliesWith_route {dev : UsbDevice} {bytes : List U8} (h : reply dev = some bytes) :
    RepliesWith dev (usbdSetupCallback.route dev) bytes := by
  rw [reply] at h
  rw [usbdSetupCallback.route]
  by_cases hdev : dev.setup.recipient = USB_REQ_RECIPIENT_DEVICE
  · rw [if_pos hdev] at h ⊢
    by_cases htype : dev.setup.type = USB_REQ_TYPE_STANDARD
    · rw [if_neg (not_not.mpr htype)] at h
      exact repliesWith_devRequest htype h
    · rw [if_pos htype] at h
      exact absurd h (by simp)
  · rw [if_neg hdev] at h ⊢
    by_cases hif : dev.setup.recipient = USB_REQ_RECIPIENT_INTERFACE ∧ dev.configSelector ≠ 0
    · rw [if_pos hif] at h
      rw [if_pos hif.1]
      obtain ⟨itf, hitf, hreply⟩ := Option.bind_eq_some_iff.mp h
      exact repliesWith_ifRequest hif.2 hitf hreply
    · rw [if_neg hif] at h
      exact absurd h (by simp)

/-! ### The data stage begins -/

/-- The condition of the stack for the closing packet is that of the library. -/
theorem ctrlZlp_eq {dev : UsbDevice} (h : (dev.epIn 0).maxPacketSize = 64) :
    ctrlZlp dev =
      if Lib.NeedsEmpty 64 dev.setup.length.toNat (dev.epIn 0).length then [[]] else [] := by
  have hmask : (dev.epIn 0).length &&& (64 - 1) = (dev.epIn 0).length % 64 :=
    Nat.and_two_pow_sub_one_eq_mod _ 6
  rw [ctrlZlp, usbdNeedsZlp, h, hmask]
  refine if_congr ?_ rfl rfl
  simp [Lib.NeedsEmpty]

/-- The first packet of a data stage is sent, and `packets` are those of the whole. -/
structure StageBegun (dev dev' : UsbDevice) (packets : List (List U8)) : Prop where
  half : eprHalf .tx (dev'.epr 0) = { eprHalf .tx (dev.epr 0) with stat := .valid }
  count : txCount dev' ≤ 64
  queue : ctrlQueue dev' = packets

/-- `USBD_CtrlSendData` in a setup stage. -/
theorem Allocated.ctrlSendData {dev : UsbDevice} (h : Allocated dev)
    (hstate : (dev.epOut 0).state = .setup) (data : DataPtr) (len : Nat) :
    ∃ dev', usbdCtrlSendData dev data len = (.ok, dev') ∧ dev'.setup = dev.setup ∧
      StageBegun dev dev' (dataStage dev.setup ((data.read dev.ctrlData).bytes len)) := by
  rw [usbdCtrlSendData, if_pos hstate]
  generalize hn : (if dev.setup.length.toNat < len then dev.setup.length.toNat else len) = n
  have hset : UsbFramed dev (dev.setIn 0 { dev.epIn 0 with state := .data }) :=
    framed_setIn0 rfl rfl rfl
  have ha := (hset h).1
  refine ⟨_, rfl, rfl, ha.tx_epSend data n, ha.count_epSend data n, ?_⟩
  -- The driver sends no more than `wLength` bytes.
  have hmin : n = min dev.setup.length.toNat len := by
    rw [← hn]
    split <;> omega
  have hle : n ≤ len := by omega
  have htake : ((data.read dev.ctrlData).bytes len).take dev.setup.length.toNat =
      (data.read dev.ctrlData).bytes n := by
    rw [← Buffer.take_bytes (data.read dev.ctrlData) hle, hmin, ← List.take_take]
    congr 1
    exact (List.take_of_length_le (by rw [Buffer.length_bytes])).symm
  have hmps :
      ((loadCtrl (dev.setIn 0 { dev.epIn 0 with state := .data }) data n).epIn 0).maxPacketSize
      = 64 := (ha.load data n).ctrlEp.maxPacketSize
  have hlength :
      ((loadCtrl (dev.setIn 0 { dev.epIn 0 with state := .data }) data n).epIn 0).length = n := by
    rw [epIn_loadCtrl]
  rw [ha.ctrlQueue_epSend, ctrlZlp_eq hmps, hlength, dataStage, Lib.transfer, htake,
    Buffer.length_bytes]
  rfl

/-! ### The request is taken -/

/-- A device whose handler has yet to see a request. -/
structure SetupAsked (req : SetupRequest) (dev : UsbDevice) : Prop where
  allocated : Allocated dev
  reset : dev.reset = false
  rx : eprHalf .rx (dev.epr 0) = ⟨.nak, true, true⟩
  setup : (eprFields (dev.epr 0)).setup = true
  tx : eprHalf .tx (dev.epr 0) = ⟨.nak, true, false⟩
  buffer : bufferedSetup dev 0 = req
  numbered : Numbered dev

/-- The request has a reply. -/
structure CtrlAsked (req : SetupRequest) (bytes : List U8) (dev : UsbDevice) : Prop
    extends SetupAsked req dev where
  reply : reply { dev with setup := req } = some bytes

/-- The flags of the control endpoint come first. -/
theorem pendingEp_of_pending {dev : UsbDevice} (h : pending dev 0 = true) :
    pendingEp dev = some 0 := by
  -- The loop looks for the smallest number.
  have hrange : List.range USBD_MAX_EP_COUNT = 0 :: [1, 2, 3, 4, 5, 6, 7] := rfl
  rw [pendingEp_eq, Lib.firstPending, hrange, List.find?_cons_of_pos h]

/-- A report endpoint is served only when no packet waits on the control endpoint. -/
theorem flag_of_pendingEp_pipe {dev : UsbDevice} {jtf : HidIf} (h : pendingEp dev = some jtf.regId) :
    flag dev .rx 0 = false := by
  refine eq_false_of_ne_true fun hrx => jtf.regId_ne_zero ?_
  have hfirst : pendingEp dev = some 0 :=
    pendingEp_of_pending (by rw [pending, hrx, Bool.true_or])
  rw [h] at hfirst
  exact Option.some.inj hfirst

section
variable {req : SetupRequest} {dev dev' : UsbDevice} (h : SetupAsked req dev)
include h

/-- A request that was asked flags the control endpoint. -/
theorem SetupAsked.flag_rx : flag dev .rx 0 = true := by rw [flag, h.rx]

/-- The handler sees it before anything else. -/
theorem SetupAsked.pendingEp : pendingEp dev = some 0 :=
  pendingEp_of_pending (by rw [pending, h.flag_rx, Bool.true_or])

/-- It stays asked under changes elsewhere. -/
theorem SetupAsked.away (hs : Away dev dev') : SetupAsked req dev' := by
  have hreset : dev'.reset = dev.reset := by rw [hs.stack]
  refine ⟨hs.allocated, hreset.trans h.reset, ?_, ?_, ?_, ?_, hs.numbered h.numbered⟩
  · rw [hs.reg]
    exact h.rx
  · rw [hs.reg]
    exact h.setup
  · rw [hs.reg]
    exact h.tx
  · rw [bufferedSetup_congr h.allocated.layout fun i hi => hs.memory i (by omega)]
    exact h.buffer

/-- The endpoint is `NAK`. -/
theorem SetupAsked.busIn (ack : Bool) : busIn dev 0 ack = (dev, []) := by
  have hfor : eprFor dev .tx 0 = some 0 := h.allocated.eprFor_ctrl (by simp [h.tx])
  rw [PikvmHid.busIn, hfor]
  dsimp only
  rw [if_neg (by simp [h.tx])]

/-- The handler finds the request: the callback runs with the request stored and the flag cleared. -/
theorem SetupAsked.irq :
    usbVIRQHandler.step dev = usbVIRQHandler.setup dev 0 ∧
      usbVIRQHandler.setup dev 0 =
        usbdSetupCallback { dev.setEpr 0 (flagClear .rx) with setup := req } := by
  have hround : usbVIRQHandler.round dev 0 = usbVIRQHandler.setup dev 0 := by
    have hctr : dev.epr 0 &&& USB_EP_CTR_RX ≠ 0 := (flag_eq_true_iff dev .rx 0).mp h.flag_rx
    have hnot : ¬ dev.epr 0 &&& USB_EP_CTR_TX ≠ 0 := by
      intro hctr
      have hset := (flag_eq_true_iff dev .tx 0).mpr hctr
      rw [flag, h.tx] at hset
      exact absurd hset (by decide)
    rw [usbVIRQHandler.round, if_neg hnot, if_pos hctr,
      if_pos ((and_setup_ne_zero_iff _).mpr h.setup)]
  rw [usbVIRQHandler.step, h.pendingEp]
  refine ⟨hround, ?_⟩
  rw [← h.buffer]
  rfl

/-- The flag of the request is cleared, and the reset is as it was. -/
theorem SetupAsked.served :
    flag (usbVIRQHandler.setup dev 0) .rx 0 = false ∧ (usbVIRQHandler.setup dev 0).reset = false := by
  have histr : istr (usbVIRQHandler.setup dev 0) = istrClear dev .rx 0 := by
    rw [istr_irq_setup, istr_flagClear]
  have hflag := congrFun (congrFun (congrArg Prod.fst histr) .rx) 0
  exact ⟨hflag.trans (by simp [istrClear]), (congrArg Prod.snd histr).trans h.reset⟩

end

/-- The endpoint handles of two allocated devices. -/
theorem Allocated.ep_eq {dev dev' : UsbDevice} (h : Allocated dev) (h' : Allocated dev')
    (epAddr : U8) :
    (dev'.ep epAddr).type = (dev.ep epAddr).type ∧
      (dev'.ep epAddr).maxPacketSize = (dev.ep epAddr).maxPacketSize := by
  have hsame : ∀ {ep ep' : UsbEp} {mps : Nat} {type : EpType} {regId : Nat}, ep.Is mps type regId →
      ep'.Is mps type regId → ep'.type = ep.type ∧ ep'.maxPacketSize = ep.maxPacketSize :=
    fun his his' => ⟨his'.type.trans his.type.symm, his'.maxPacketSize.trans his.maxPacketSize.symm⟩
  rw [UsbDevice.ep, UsbDevice.ep]
  split
  · by_cases hitf : ∃ itf : HidIf, epIndex epAddr = itf.epNum
    · obtain ⟨itf, hitf⟩ := hitf
      rw [hitf]
      exact hsame (h.tables.report itf) (h'.tables.report itf)
    · have hrest : ∀ itf : HidIf, epIndex epAddr ≠ itf.epNum := fun itf heq => hitf ⟨itf, heq⟩
      exact hsame (h.tables.inRest _ hrest) (h'.tables.inRest _ hrest)
  · exact hsame (h.tables.out _) (h'.tables.out _)

/-- So does its reply. -/
theorem CtrlAsked.away {req : SetupRequest} {bytes : List U8} {dev dev' : UsbDevice}
    (h : CtrlAsked req bytes dev) (hs : Away dev dev') : CtrlAsked req bytes dev' := by
  have hsame : SameReply { dev with setup := req } { dev' with setup := req } := by
    have hep := fun epAddr => h.allocated.ep_eq hs.allocated epAddr
    refine ⟨rfl, ?_, ?_, ?_, ?_, ?_, hep⟩ <;> rw [hs.stack]
  exact ⟨h.toSetupAsked.away hs, hsame.reply.trans h.reply⟩

/-- A request with a reply leaves the pipes alone. -/
theorem not_reconfigures_of_reply {dev : UsbDevice} {bytes : List U8} (h : reply dev = some bytes) :
    ¬ dev.setup.Reconfigures := by
  rintro ⟨htype, ⟨hrec, hreq⟩ | ⟨hrec, hreq⟩ | ⟨hrec, -⟩⟩
  · rw [reply, if_pos hrec, if_neg (not_not.mpr htype), hreq, if_neg (by decide), if_neg (by decide),
      if_neg (by decide)] at h
    exact absurd h (by simp)
  · have hnone : ∀ itf, interfaceReply dev itf = none := by
      intro itf
      rw [interfaceReply, if_pos htype, hreq, if_neg (by decide), if_neg (by decide)]
    rw [reply, hrec, if_neg (by decide), funext hnone] at h
    simp at h
  · rw [reply, hrec, if_neg (by decide), if_neg fun h => absurd h.1 (by decide)] at h
    exact absurd h (by simp)

/-- `USBD_SetupCallback` on a request with a reply. -/
theorem setupCallback_of_reply {dev : UsbDevice} {bytes : List U8} (h : Allocated dev)
    (hreply : reply dev = some bytes) (hlen : dev.setup.length ≠ 0) :
    StageBegun dev (usbdSetupCallback dev) (dataStage dev.setup bytes) := by
  have hsetOut : UsbFramed dev (dev.setOut 0 { dev.epOut 0 with state := .setup }) :=
    framed_setOut rfl rfl rfl
  have hstate : ((dev.setOut 0 { dev.epOut 0 with state := .setup }).epOut 0).state = .setup := by
    rw [UsbDevice.setOut_self]
  rw [usbdSetupCallback]
  have hsame : SameReply dev (dev.setOut 0 { dev.epOut 0 with state := .setup }) :=
    ⟨rfl, rfl, rfl, rfl, rfl, rfl, h.ep_eq (hsetOut h).1⟩
  obtain ⟨ctrl, data, hread, hroute⟩ := repliesWith_route (hsame.reply.trans hreply)
  have hload : UsbFramed (dev.setOut 0 { dev.epOut 0 with state := .setup })
      { dev.setOut 0 { dev.epOut 0 with state := .setup } with ctrlData := ctrl } :=
    framed_of_eq id rfl rfl rfl rfl
  obtain ⟨dev', hsend, hsetup, hhalf, hcount, hqueue⟩ :=
    (UsbFramed.after hload hsetOut h).1.ctrlSendData hstate data bytes.length
  have hlen' : dev'.setup.length ≠ 0 := by
    rw [hsetup]
    exact hlen
  rw [hroute, hsend]
  dsimp only
  rw [if_neg (by simp), if_neg hlen']
  refine ⟨hhalf, hcount, hqueue.trans ?_⟩
  show dataStage dev.setup ((data.read ctrl).bytes bytes.length) = dataStage dev.setup bytes
  rw [hread]

/-- The handler finds the request, and the data stage begins. -/
theorem CtrlAsked.begun {req : SetupRequest} {bytes : List U8} {dev : UsbDevice}
    (h : CtrlAsked req bytes dev) (hlen : req.length ≠ 0) :
    CtrlSending (usbVIRQHandler.step dev) ∧
      ctrlSender (usbVIRQHandler.step dev) = ⟨true, dataStage req bytes⟩ := by
  obtain ⟨hstep, hsetup⟩ := h.irq
  obtain ⟨hrx, hreset⟩ := h.served
  have hnot : ¬ (bufferedSetup dev 0).Reconfigures := by
    have hstays := not_reconfigures_of_reply h.reply
    rw [h.buffer]
    exact hstays
  -- A read moves no pipe, so the whole step is a frame for them.
  have hkeeps := framed_irq_setup hnot h.allocated
  have hbegun : StageBegun { dev.setEpr 0 (flagClear .rx) with setup := req }
      (usbVIRQHandler.setup dev 0) (dataStage req bytes) := by
    have hsame :
        SameReply { dev with setup := req } { dev.setEpr 0 (flagClear .rx) with setup := req } :=
      ⟨rfl, rfl, rfl, rfl, rfl, rfl, fun _ => ⟨rfl, rfl⟩⟩
    have hreply := hsame.reply.trans h.reply
    have hstored := (framed_storeSetup dev req h.allocated).1
    rw [hsetup]
    exact setupCallback_of_reply hstored hreply hlen
  -- The first packet has the toggle that the SETUP packet left.
  have hhalf : eprHalf .tx ((usbVIRQHandler.setup dev 0).epr 0) = ⟨.valid, true, false⟩ := by
    rw [hbegun.half]
    show ({ eprHalf .tx ((dev.setEpr 0 (flagClear .rx)).epr 0) with stat := .valid } : EprHalf) = _
    rw [UsbDevice.setEpr_self, eprHalf_flagClear, if_neg (by decide), h.tx]
  rw [hstep]
  constructor
  · refine ⟨hkeeps.1, hreset, hrx, ?_, fun _ => ?_, hbegun.count, fun itf hset => ?_⟩
    · rw [hhalf]
      simp
    · rw [flag, hhalf]
    · rw [flag, (hkeeps.2 itf).reg] at hset
      rw [(hkeeps.2 itf).reg]
      exact h.numbered itf hset
  · rw [ctrlSender, hhalf, hbegun.queue]

/-! ### The run -/

/-- The request waits for the handler, or its data stage is under way. -/
def CtrlStage (req : SetupRequest) (bytes : List U8) (dev : UsbDevice) : Prop :=
  CtrlAsked req bytes dev ∨ CtrlSending dev

/-- The sender of the reply, from the request on. -/
def requestSender (req : SetupRequest) (bytes : List U8) (dev : UsbDevice) :
    Lib.ToggleLink.Sender (List U8) :=
  if flag dev .rx 0 then ⟨true, dataStage req bytes⟩ else ctrlSender dev

section
variable {req : SetupRequest} {bytes : List U8} {dev : UsbDevice}

/-- Until the handler serves it the whole data stage is to come. -/
theorem CtrlAsked.sender (h : CtrlAsked req bytes dev) :
    requestSender req bytes dev = ⟨true, dataStage req bytes⟩ := if_pos h.flag_rx

/-- After that what is to come is what the endpoint still holds. -/
theorem CtrlSending.sender (h : CtrlSending dev) : requestSender req bytes dev = ctrlSender dev := by
  rw [requestSender, if_neg (by simp [h.rx])]

/-- When the handler has nothing left to do, a packet that is missing is ready. -/
theorem CtrlStage.valid (h : CtrlStage req bytes dev) (hdone : pendingEp dev = none)
    (hmore : (requestSender req bytes dev).queue ≠ []) : (eprHalf .tx (dev.epr 0)).stat = .valid := by
  rcases h with hasked | hsending
  · rw [hasked.pendingEp] at hdone
    exact absurd hdone (by simp)
  · have htx : ¬ (eprHalf .tx (dev.epr 0)).ctr := by
      intro hctr
      rw [pendingEp_of_pending (by rw [pending, flag, flag, hctr, Bool.or_true])] at hdone
      exact absurd hdone (by simp)
    by_contra hnot
    rw [hsending.sender, ctrlSender, ctrlQueue, if_neg hnot, if_neg htx] at hmore
    exact hmore rfl

/-- Until the handler comes, the control endpoint shows nothing. -/
theorem CtrlAsked.step (h : CtrlAsked req bytes dev) (hlen : req.length ≠ 0) {i : UsbAct}
    (hi : KeepsCtrl i ∧ FitsPacket i) :
    CtrlStage req bytes (usbMachine.step dev i).1 ∧
      requestSender req bytes (usbMachine.step dev i).1 = requestSender req bytes dev ∧
      (usbMachine.step dev i).2.filterMap ctrlObs = [] := by
  have haway : ∀ {dev' : UsbDevice}, Away dev dev' →
      CtrlStage req bytes dev' ∧ requestSender req bytes dev' = requestSender req bytes dev :=
    fun hs => ⟨.inl (h.away hs), (h.away hs).sender.trans h.sender.symm⟩
  have hself := haway h.allocated.away_self
  -- The request waits until the handler comes, and nothing is sent before.
  cases i with
  | inToken n ack =>
      by_cases hn : n = 0
      · subst hn
        simp only [usbMachine, h.busIn]
        exact ⟨hself.1, trivial, rfl⟩
      · obtain ⟨hs, hobs⟩ := h.allocated.away_busIn hn ack
        exact ⟨(haway hs).1, (haway hs).2, hobs⟩
  | outToken n bytes =>
      simp only [usbMachine, h.allocated.busOut_of_ne hi.1 bytes]
      exact ⟨hself.1, trivial, rfl⟩
  | setup req => exact absurd hi.1 not_false
  | busReset => exact absurd hi.1 not_false
  | irq =>
      obtain ⟨hsending, hsender⟩ := h.begun hlen
      exact ⟨.inr hsending, hsending.sender.trans (hsender.trans h.sender.symm), rfl⟩
  | reportIn i bytes =>
      have hs := haway (h.allocated.away_reportIn i hi.2)
      exact ⟨hs.1, hs.2, rfl⟩

end

/-- A control read refines the sender of the library. -/
theorem request_refines {req : SetupRequest} (bytes : List U8) (hlen : req.length ≠ 0) :
    usbMachine.Refines Lib.ToggleLink.sender (requestSender req bytes) ctrlObs (CtrlStage req bytes)
      (fun i => KeepsCtrl i ∧ FitsPacket i) := by
  constructor
  · intro dev i h hi
    rcases h with hasked | hsending
    · exact (hasked.step hlen hi).1
    · exact .inr (ctrl_refines.keeps dev i hsending hi)
  · intro dev i h hi
    rcases h with hasked | hsending
    · obtain ⟨-, hsender, hobs⟩ := hasked.step hlen hi
      refine ⟨[], ?_⟩
      rw [hsender, hobs]
      rfl
    · rw [hsending.sender, (ctrl_refines.keeps dev i hsending hi).sender]
      exact ctrl_refines.step dev i hsending hi

/-- The request as the handler will find it. -/
theorem TakenRequest.setupAsked {dev : UsbDevice} {req : SetupRequest} (hreq : TakenRequest dev req)
    (h : Allocated dev) : SetupAsked req (busSetup dev req) := by
  have htaken := hreq.taken
  have hrx := flag_of_pendingEp hreq.handled .rx (r := 0) (by decide)
  have htx : (eprHalf .tx (dev.epr 0)).ctr = false :=
    flag_of_pendingEp hreq.handled .tx (r := 0) (by decide)
  obtain ⟨ha, hkeeps⟩ := framed_busSetup dev req h
  have hbuffer := (bufferedSetup_busSetup h.layout req).resolve_left fun hsame => by
    rw [flag, ← hsame, htaken] at hrx
    exact absurd hrx (by decide)
  have hreset : (busSetup dev req).reset = dev.reset := by
    rw [busSetup]
    split_ifs <;> rfl
  -- The registers are as a SETUP transaction leaves them.
  have hfields : (eprFields ((busSetup dev req).epr 0)).setup = true ∧
      eprHalf .rx ((busSetup dev req).epr 0) = ⟨.nak, true, true⟩ ∧
      eprHalf .tx ((busSetup dev req).epr 0) = ⟨.nak, true, false⟩ := by
    rw [busSetup] at htaken ⊢
    split_ifs at htaken ⊢
    · rw [UsbDevice.setEpr_self, ← half_eprFields, ← half_eprFields, fields_hwSetup]
      exact ⟨rfl, rfl, by rw [← htx]; rfl⟩
    · rw [flag, htaken] at hrx
      exact absurd hrx (by decide)
  refine ⟨ha, hreset.trans hreq.reset, hfields.2.1, hfields.1, hfields.2.2, hbuffer,
    fun itf hflag => ?_⟩
  rw [flag, (hkeeps itf).reg] at hflag
  have hno := flag_of_pendingEp hreq.handled .tx (r := itf.regId) (by cases itf <;> decide)
  rw [flag, hflag] at hno
  exact absurd hno (by decide)

/-- Before the first reset no request is taken. -/
theorem TakenRequest.not_fresh {dev : UsbDevice} {req : SetupRequest} (hreq : TakenRequest dev req) :
    ¬ Fresh dev := by
  intro hfresh
  have htaken := hreq.taken
  rw [hfresh.busSetup, hfresh.epr] at htaken
  exact absurd htaken (by decide)

/-- The SETUP packet of a read asks for its reply. -/
theorem ReadRequest.ctrlAsked {dev : UsbDevice} {req : SetupRequest} {bytes : List U8}
    (hreq : ReadRequest dev req bytes) (h : Allocated dev) :
    CtrlAsked req bytes (busSetup dev req) := by
  have hasked := hreq.toTakenRequest.setupAsked h
  have hsame : SameReply { dev with setup := req }
      { busSetup dev req with setup := req } := by
    have hstack : busSetup dev req =
        { dev with epr := (busSetup dev req).epr, pma := (busSetup dev req).pma } := by
      rw [busSetup]
      split_ifs <;> rfl
    refine ⟨rfl, ?_, ?_, ?_, ?_, ?_, fun epAddr => h.ep_eq hasked.allocated epAddr⟩ <;> rw [hstack]
  exact ⟨hasked, hsame.reply.trans hreq.reply⟩

/-- A control read: whatever the tasks and the pipes do in the meantime, the host takes the packets of
the data stage in order, each once. As long as one is missing, the endpoint is ready to send it when
the handler has nothing left to do; then the host has the bytes it asked for. -/
theorem control_read (pma : Pma) {pre post : List UsbAct} {req : SetupRequest} {bytes : List U8}
    (hpre : ∀ i ∈ pre, Ordinary i) (hpost : ∀ i ∈ post, KeepsCtrl i ∧ FitsPacket i)
    (hreq : ReadRequest (usbMachine.exec (usbDeviceInit pma, []) pre).1 req bytes) :
    let dev := (usbMachine.exec (usbDeviceInit pma, []) pre).1
    let c := usbMachine.exec (dev, []) (.setup req :: post)
    let wLength := req.length.toNat
    ∃ q, hostReads c.2 ++ q = dataStage req bytes ∧
      (q ≠ [] → pendingEp c.1 = none → (eprHalf .tx (c.1.epr 0)).stat = .valid) ∧
      (q = [] → Lib.collect USBD_EP0_MAX_PACKET_SIZE wLength (hostReads c.2) =
        (bytes.take wLength, [])) := by
  intro dev c wLength
  rcases inOrder_run pma (fun i hi => (hpre i hi).fitsPacket) with ⟨hfresh, -⟩ | ⟨ha, -, -⟩
  · exact absurd hfresh hreq.toTakenRequest.not_fresh
  · have hasked := hreq.ctrlAsked ha
    -- The run refines the sender of the data stage, which is loaded once.
    obtain ⟨hstage, js, hjs⟩ := (request_refines bytes hreq.length).run (.inl hasked) hpost
    obtain ⟨q, hq, htaken⟩ := Lib.ToggleLink.received_append
      (requestSender req bytes (busSetup dev req)) js
    rw [hasked.sender] at hjs hq htaken
    rw [hjs] at hq htaken
    -- Nothing is offered on the way.
    have hnone : Lib.ToggleLink.accepted (c.2.filterMap ctrlObs) = [] := by
      rw [Lib.ToggleLink.accepted, List.filterMap_filterMap, List.filterMap_eq_nil_iff]
      intro o _
      cases o with
      | packet n pid bytes ack => by_cases hn : n = 0 <;> simp [ctrlObs, hn]
      | report i bytes ok => rfl
    have hreads : hostReads c.2 ++ q = dataStage req bytes := by
      rw [← List.append_nil (dataStage req bytes), ← hnone]
      exact htaken
    refine ⟨q, hreads, fun hmore hidle => ?_, fun hall => ?_⟩
    · refine hstage.valid hidle ?_
      rcases hq with hq | ⟨a, hq⟩
      · exact hq ▸ hmore
      · exact fun hnil => List.cons_ne_nil a q (hq.symm.trans hnil)
    · rw [hall, List.append_nil] at hreads
      rw [hreads]
      exact Lib.collect_transfer (by decide) (List.length_take_le _ _)

/-- `GET_DESCRIPTOR` of the configuration. -/
def getConfiguration : SetupRequest where
  requestType := 0x80
  request := USB_REQ_GET_DESCRIPTOR
  value := 0x0200
  index := 0
  length := 255

/-- The host polls before the handler comes, and an acknowledgement is lost; a key is pressed
meanwhile. -/
def readAndPress : List UsbAct :=
  [.inToken 0 true, .reportIn 0 [0, 0, 4, 0, 0, 0, 0, 0], .irq, .inToken 0 false, .inToken 7 true,
    .irq, .inToken 0 true]

/-- On the run `readAndPress` the host reads the descriptor it asked for. -/
theorem readAndPress_reads :
    let dev := (usbMachine.exec (usbDeviceInit fun _ => 0, []) configure).1
    let c := usbMachine.exec (dev, []) (.setup getConfiguration :: readAndPress)
    hostReads c.2 = [usbdConfigDesc dev] ∧
      ∃ q, hostReads c.2 ++ q = dataStage getConfiguration (usbdConfigDesc dev) ∧
        (q ≠ [] → pendingEp c.1 = none → (eprHalf .tx (c.1.epr 0)).stat = .valid) ∧
        (q = [] → Lib.collect USBD_EP0_MAX_PACKET_SIZE getConfiguration.length.toNat (hostReads c.2) =
          ((usbdConfigDesc dev).take getConfiguration.length.toNat, [])) := by
  refine ⟨by decide +kernel, control_read _ ?_ ?_ ?_⟩
  · decide
  · simpa [readAndPress, KeepsCtrl, FitsPacket] using reportSize_keyboard
  · exact ⟨⟨by decide +kernel, by decide +kernel, by decide +kernel⟩, by decide, by decide +kernel⟩

end PikvmHid
