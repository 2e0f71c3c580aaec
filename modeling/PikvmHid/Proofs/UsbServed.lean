import PikvmHid.Proofs.UsbAborts
import PikvmHid.Proofs.UsbStates
import PikvmHid.Spec.UsbServed

/-!
# `PikvmHid.Proofs.UsbServed`: each request is served once, in order and whole

A SETUP packet stays in the packet memory until the handler copies it to `Setup`. Until then the
peripheral takes no other packet for the control endpoint, and the driver writes nothing there. So
the handler sees the requests that the device takes, each once and in order, and only a bus reset
loses one (`requests_served`). The address and the configuration come from them.
-/

set_option autoImplicit false

namespace PikvmHid

/-! ### What the host can see of a request -/

/-- The request, the configuration and the address. -/
def hostView (dev : UsbDevice) : SetupRequest × U8 × U8 :=
  (dev.setup, dev.configSelector, dev.daddr)

/-- Transfers on endpoints do not touch what the host can see of a request. -/
theorem ignored_hostView : Ignored hostView where
  setIn _ _ _ := rfl
  setOut _ _ _ := rfl
  setPma _ _ := rfl
  setCtrl _ _ := rfl
  modifyIf _ _ _ := rfl
  remoteWakeup _ _ := rfl
  setStatus _ _ _ _ := rfl
  toggleClear _ _ _ := rfl
  setType _ _ _ := rfl
  setAddress _ _ _ := rfl

/-- Equal views have equal parts. -/
theorem hostView_eq {a b : UsbDevice} (h : hostView a = hostView b) :
    a.setup = b.setup ∧ a.configSelector = b.configSelector ∧ a.daddr = b.daddr := by
  obtain ⟨hsetup, hrest⟩ := Prod.mk.inj h
  exact ⟨hsetup, Prod.mk.inj hrest⟩

/-- The request and the address. -/
def addressView (dev : UsbDevice) : SetupRequest × U8 := (dev.setup, dev.daddr)

/-- Nor do they touch the request and the address. -/
theorem ignored_addressView : Ignored addressView where
  setIn _ _ _ := rfl
  setOut _ _ _ := rfl
  setPma _ _ := rfl
  setCtrl _ _ := rfl
  modifyIf _ _ _ := rfl
  remoteWakeup _ _ := rfl
  setStatus _ _ _ _ := rfl
  toggleClear _ _ _ := rfl
  setType _ _ _ := rfl
  setAddress _ _ _ := rfl

/-- Equal views have equal parts. -/
theorem addressView_eq {a b : UsbDevice} (h : addressView a = addressView b) :
    a.setup = b.setup ∧ a.daddr = b.daddr := Prod.mk.inj h

section
variable (dev : UsbDevice)

/-- `SET_CONFIGURATION` keeps the request and the address. -/
theorem addressView_setConfig : addressView (usbdSetConfig dev).2 = addressView dev := by
  rw [usbdSetConfig]
  split
  · exact ignored_addressView.ifConfig dev (fun _ _ => rfl) _
  · rfl

/-- Without `SET_CONFIGURATION` the callback changes nothing that the host can see. -/
theorem host_setupCallback {dev : UsbDevice}
    (h : ¬ (dev.setup.type = USB_REQ_TYPE_STANDARD ∧ dev.setup.recipient = USB_REQ_RECIPIENT_DEVICE ∧
      dev.setup.request = USB_REQ_SET_CONFIGURATION)) :
    hostView (usbdSetupCallback dev) = hostView dev :=
  ignored_hostView.setupCallback dev fun _ _ htype hdev hset => absurd ⟨htype, hdev, hset⟩ h

/-- `SET_CONFIGURATION` selects the configuration, or is refused. -/
theorem config_setupCallback {dev : UsbDevice} (htype : dev.setup.type = USB_REQ_TYPE_STANDARD)
    (hdev : dev.setup.recipient = USB_REQ_RECIPIENT_DEVICE)
    (hset : dev.setup.request = USB_REQ_SET_CONFIGURATION) :
    (usbdSetupCallback dev).configSelector = dev.configSelector ∨
      dev.setup.SetsConfiguration ∧
        (usbdSetupCallback dev).configSelector = lowByte dev.setup.value := by
  -- The route leads to `USBD_SetConfig`.
  have hroute : ∀ mid : UsbDevice, mid.setup = dev.setup → mid.configSelector = dev.configSelector →
      (usbdSetupCallback.route mid).2.configSelector = dev.configSelector ∨
        dev.setup.SetsConfiguration ∧
          (usbdSetupCallback.route mid).2.configSelector = lowByte dev.setup.value := by
    intro mid hsetup hconfig
    have heq : usbdSetupCallback.route mid = usbdSetConfig mid := by
      rw [usbdSetupCallback.route, hsetup, hdev, if_pos rfl, usbdDevRequest, hsetup, htype,
        if_pos rfl, hset, if_neg (by decide), if_neg (by decide), if_pos rfl]
    rw [heq, usbdSetConfig, hsetup]
    split
    · rename_i hmax
      exact .inr ⟨⟨htype, hdev, hset, hmax⟩, configSelector_ifConfig mid _⟩
    · exact .inl hconfig
  have hmid := hroute (dev.setOut 0 { dev.epOut 0 with state := .setup }) rfl rfl
  rw [usbdSetupCallback]
  generalize usbdSetupCallback.route (dev.setOut 0 { dev.epOut 0 with state := .setup }) = r
    at hmid ⊢
  split_ifs
  · rw [(hostView_eq (ignored_hostView.ctrlSendError r.2)).2.1]
    exact hmid
  · rw [(hostView_eq (ignored_hostView.ctrlSendStatus r.2)).2.1]
    exact hmid
  · exact hmid

/-- The request is stored, and only `SET_CONFIGURATION` changes the configuration. -/
theorem host_irq_setup (epId : Nat) :
    (usbVIRQHandler.setup dev epId).setup = bufferedSetup dev epId ∧
      (usbVIRQHandler.setup dev epId).daddr = dev.daddr ∧
      ((usbVIRQHandler.setup dev epId).configSelector = dev.configSelector ∨
        (bufferedSetup dev epId).SetsConfiguration ∧
          (usbVIRQHandler.setup dev epId).configSelector =
            lowByte (bufferedSetup dev epId).value) := by
  have hstored : usbVIRQHandler.setup dev epId =
      usbdSetupCallback { dev.setEpr 0 (flagClear .rx) with setup := bufferedSetup dev epId } := rfl
  have haddress :
      addressView (usbVIRQHandler.setup dev epId) = (bufferedSetup dev epId, dev.daddr) := by
    rw [hstored]
    exact (ignored_addressView.setupCallback _ fun dev' _ _ _ _ =>
      addressView_setConfig dev').trans rfl
  obtain ⟨hsetup, hdaddr⟩ := Prod.mk.inj haddress
  refine ⟨hsetup, hdaddr, ?_⟩
  rw [hstored]
  generalize hmid :
    ({ dev.setEpr 0 (flagClear .rx) with setup := bufferedSetup dev epId } : UsbDevice) = mid
  have hreq : mid.setup = bufferedSetup dev epId := by rw [← hmid]
  have hconfig : mid.configSelector = dev.configSelector := by rw [← hmid]; rfl
  rw [← hreq, ← hconfig]
  -- `SET_CONFIGURATION`, or any other request.
  by_cases h : mid.setup.type = USB_REQ_TYPE_STANDARD ∧
      mid.setup.recipient = USB_REQ_RECIPIENT_DEVICE ∧ mid.setup.request = USB_REQ_SET_CONFIGURATION
  · exact config_setupCallback h.1 h.2.1 h.2.2
  · exact .inl (hostView_eq (host_setupCallback h)).2.1

/-- An OUT packet changes nothing the host can see of a request. -/
theorem host_irq_out (epId n : Nat) : hostView (usbVIRQHandler.out dev epId n) = hostView dev :=
  (ignored_hostView.irq_out dev (fun _ _ => rfl) epId n).trans rfl

/-- What the host sees of a step: the same request and configuration, and the address of the request
or the one before. -/
def AddressStep (dev dev' : UsbDevice) : Prop :=
  dev'.setup = dev.setup ∧ dev'.configSelector = dev.configSelector ∧
    (dev'.daddr = dev.daddr ∨
      dev.setup.SetsAddress ∧ dev'.daddr = 0x80 ||| (lowByte dev.setup.value &&& 0x7F))

omit dev in
/-- An unchanged view is an address step. -/
theorem AddressStep.of_view {dev dev' : UsbDevice} (h : hostView dev' = hostView dev) :
    AddressStep dev dev' :=
  ⟨(hostView_eq h).1, (hostView_eq h).2.1, .inl (hostView_eq h).2.2⟩

/-- The end of a control IN transfer stores the address, if one was asked for. -/
theorem address_ctrlInCallback : AddressStep dev (usbdCtrlInCallback dev) := by
  rw [usbdCtrlInCallback]
  dsimp only
  split_ifs with hzlp hin hif hset
  · exact .of_view (ignored_hostView.epSend dev _ _ _)
  · exact .of_view (by simp only [ignored_hostView.ctrlReceiveStatus, ignored_hostView.hidDataStage,
      ignored_hostView.setIn])
  · exact .of_view (by simp only [ignored_hostView.ctrlReceiveStatus, ignored_hostView.setIn])
  · exact ⟨rfl, rfl, .inr ⟨hset, rfl⟩⟩
  · exact .of_view (ignored_hostView.setIn dev 0 _)

/-- The address is set when the status packet of `SET_ADDRESS` is acknowledged. -/
theorem address_irq_in (epId n : Nat) : AddressStep dev (usbVIRQHandler.in dev epId n) := by
  have hsteps : ∀ mid dev' : UsbDevice, hostView mid = hostView dev → AddressStep mid dev' →
      AddressStep dev dev' := by
    intro mid dev' hview hstep
    obtain ⟨hsetup, hconfig, hdaddr⟩ := hostView_eq hview
    rw [AddressStep, hsetup, hconfig, hdaddr] at hstep
    exact hstep
  have hadd : ∀ ep : UsbEp, hostView ((dev.setEpr epId (flagClear .tx)).setIn n ep) = hostView dev :=
    fun _ => rfl
  rw [usbVIRQHandler.in]
  -- Neither the flag nor the handle is seen.
  generalize { (dev.setEpr epId (flagClear .tx)).epIn n with
    data := ((dev.setEpr epId (flagClear .tx)).epIn n).data.add
      ((dev.setEpr epId (flagClear .tx)).pma (bdtTxCount epId) &&& 0x3FF).toNat } = ep
  have hview := hadd ep
  generalize (dev.setEpr epId (flagClear .tx)).setIn n ep = mid at hview ⊢
  split
  · rw [usbdEpInCallback]
    split
    · exact hsteps mid _ hview (address_ctrlInCallback mid)
    · exact hsteps mid _ hview (.of_view (ignored_hostView.setIn mid n _))
  · exact hsteps mid _ hview (.of_view (ignored_hostView.transmitPacket mid n))

end

/-! ### One step -/

/-- What the requests `served` change of what the host can see. -/
structure HostStep (served : List SetupRequest) (dev dev' : UsbDevice) : Prop where
  setup : dev'.setup = served.getLastD dev.setup
  address : AddressFrom (dev.setup :: served) dev.daddr dev'.daddr
  config : ConfigurationFrom served dev.configSelector dev'.configSelector

/-- An unchanged view is a host step that serves nothing. -/
theorem HostStep.of_view {dev dev' : UsbDevice} (h : hostView dev' = hostView dev) :
    HostStep [] dev dev' :=
  ⟨(hostView_eq h).1, .inl (hostView_eq h).2.2, .inl (hostView_eq h).2.1⟩

/-- An address that comes from some requests comes from more of them. -/
theorem AddressFrom.mono {reqs reqs' : List SetupRequest} {daddr daddr' : U8}
    (h : AddressFrom reqs daddr daddr') (hsub : reqs ⊆ reqs') : AddressFrom reqs' daddr daddr' :=
  h.imp_right fun h => h.imp_right fun h => h.imp_right fun ⟨s, hs, hset⟩ => ⟨s, hsub hs, hset⟩

/-- Addresses chain. -/
theorem AddressFrom.trans {reqs : List SetupRequest} {x y z : U8} (h : AddressFrom reqs x y)
    (h' : AddressFrom reqs y z) : AddressFrom reqs x z := by
  rcases h' with hsame | hmoved
  · rw [hsame]
    exact h
  · exact .inr hmoved

/-- A configuration that comes from some requests comes from more of them. -/
theorem ConfigurationFrom.mono {reqs reqs' : List SetupRequest} {n n' : U8}
    (h : ConfigurationFrom reqs n n') (hsub : reqs ⊆ reqs') : ConfigurationFrom reqs' n n' :=
  h.imp_right fun h => h.imp_right fun ⟨s, hs, hset⟩ => ⟨s, hsub hs, hset⟩

/-- Configurations chain. -/
theorem ConfigurationFrom.trans {reqs : List SetupRequest} {x y z : U8}
    (h : ConfigurationFrom reqs x y) (h' : ConfigurationFrom reqs y z) :
    ConfigurationFrom reqs x z := by
  rcases h' with hsame | hmoved
  · rw [hsame]
    exact h
  · exact .inr hmoved

/-- Host steps chain, and the requests served add up. -/
theorem HostStep.trans {l l' : List SetupRequest} {a b d : UsbDevice} (h : HostStep l a b)
    (h' : HostStep l' b d) : HostStep (l ++ l') a d := by
  have hlast : b.setup ∈ a.setup :: l := h.setup ▸ List.getLastD_mem_cons
  refine ⟨?_, ?_, ?_⟩
  · -- The last request of both is the last one of the second, if it has one.
    rw [h'.setup, h.setup, List.getLastD_eq_getLast?, List.getLastD_eq_getLast?,
      List.getLastD_eq_getLast?, List.getLast?_append]
    cases l'.getLast? <;> rfl
  · have hleft : a.setup :: l ⊆ a.setup :: (l ++ l') :=
      List.cons_subset_cons _ (List.subset_append_left l l')
    refine (h.address.mono hleft).trans (h'.address.mono fun s hs => ?_)
    rcases List.mem_cons.mp hs with rfl | hs
    · exact hleft hlast
    · exact List.mem_cons_of_mem _ (List.mem_append_right l hs)
  · exact (h.config.mono (List.subset_append_left l l')).trans
      (h'.config.mono (List.subset_append_right l l'))

/-- The handler may still set the address after it has seen the request. -/
theorem HostStep.after {served : List SetupRequest} {a b d : UsbDevice} (h : HostStep served a b)
    (h' : AddressStep b d) : HostStep served a d := by
  obtain ⟨hsetup, hconfig, haddress⟩ := h'
  have hlast : b.setup ∈ a.setup :: served := h.setup ▸ List.getLastD_mem_cons
  refine ⟨hsetup.trans h.setup, ?_, ?_⟩
  · rcases haddress with hsame | hset
    · rw [hsame]
      exact h.address
    · exact .inr (.inr (.inr ⟨b.setup, hlast, hset⟩))
  · rw [hconfig]
    exact h.config

/-- The reset takes the address and the configuration back. -/
theorem host_tail (dev : UsbDevice) : HostStep [] dev (usbVIRQHandler.tail dev) := by
  rw [usbVIRQHandler.tail]
  split
  · have hsetup : (usbVSetAddress { dev with reset := false } 0).setup = dev.setup := rfl
    have hdaddr : (usbVSetAddress { dev with reset := false } 0).daddr = 0x80 := rfl
    generalize usbVSetAddress { dev with reset := false } 0 = start at hsetup hdaddr ⊢
    have haddress : addressView (usbdResetCallback start) = addressView start := by
      rw [usbdResetCallback, ignored_addressView.setOut, ignored_addressView.ctrlEpOpen]
      exact ignored_addressView.ifConfig start (fun _ _ => rfl) 0
    have hview : hostView (usbdResetCallback start) = hostView (usbdIfConfig start 0) := by
      rw [usbdResetCallback, ignored_hostView.setOut, ignored_hostView.ctrlEpOpen]
    obtain ⟨hsame, haddr⟩ := addressView_eq haddress
    have hconfig := (hostView_eq hview).2.1.trans (configSelector_ifConfig start 0)
    exact ⟨hsame.trans hsetup, .inr (.inr (.inl (haddr.trans hdaddr))), .inr (.inl hconfig)⟩
  · exact .of_view rfl

/-! ### The request that waits -/

/-- Without a completion no request waits. -/
theorem waitingRequest_of_flag {dev : UsbDevice} (h : flag dev .rx 0 = false) :
    waitingRequest dev = [] :=
  if_neg fun hw => absurd (hw.1.symm.trans h) (by decide)

/-- Nor does one without the SETUP bit. -/
theorem waitingRequest_of_setup {dev : UsbDevice} (h : (eprFields (dev.epr 0)).setup = false) :
    waitingRequest dev = [] :=
  if_neg fun hw => absurd (hw.2.symm.trans h) (by decide)

/-- A request waits as long as the register and the packet are as they were. -/
theorem waitingRequest_congr {dev dev' : UsbDevice}
    (hctr : (eprHalf .rx (dev'.epr 0)).ctr = (eprHalf .rx (dev.epr 0)).ctr)
    (hsetup : (eprFields (dev'.epr 0)).setup = (eprFields (dev.epr 0)).setup)
    (hpacket : bufferedSetup dev' 0 = bufferedSetup dev 0) :
    waitingRequest dev' = waitingRequest dev := by
  rw [waitingRequest, waitingRequest, hctr, hsetup, hpacket]

/-- The round of the control register serves the request that waits. -/
theorem host_round_ctrl (dev : UsbDevice) :
    HostStep (waitingRequest dev) dev (usbVIRQHandler.round dev 0) := by
  have hrx : HostStep (waitingRequest dev) dev (if dev.epr 0 &&& USB_EP_CTR_RX ≠ 0 then
      if dev.epr 0 &&& USB_EP_SETUP ≠ 0 then usbVIRQHandler.setup dev 0
      else usbVIRQHandler.out dev 0 (dev.epr 0 &&& USB_EPADDR_FIELD).toNat else dev) := by
    -- SETUP, OUT, or nothing received; an IN packet is handled after either.
    split_ifs with hctr hsetup
    · have hwait : waitingRequest dev = [bufferedSetup dev 0] :=
        if_pos ⟨(flag_eq_true_iff dev .rx 0).mpr hctr, (and_setup_ne_zero_iff _).mp hsetup⟩
      obtain ⟨hstored, hdaddr, hconfig⟩ := host_irq_setup dev 0
      rw [hwait]
      refine ⟨hstored, .inl hdaddr, hconfig.imp_right fun hset => .inr ?_⟩
      exact ⟨_, List.mem_singleton_self _, hset⟩
    · rw [waitingRequest_of_setup (eq_false_of_ne_true (mt (and_setup_ne_zero_iff _).mpr hsetup))]
      exact .of_view (host_irq_out dev 0 _)
    · rw [waitingRequest_of_flag (eq_false_of_ne_true (mt (flag_eq_true_iff dev .rx 0).mp hctr))]
      exact .of_view rfl
  rw [usbVIRQHandler.round]
  generalize (if dev.epr 0 &&& USB_EP_CTR_RX ≠ 0 then
      if dev.epr 0 &&& USB_EP_SETUP ≠ 0 then usbVIRQHandler.setup dev 0
      else usbVIRQHandler.out dev 0 (dev.epr 0 &&& USB_EPADDR_FIELD).toNat else dev) = mid at hrx ⊢
  split
  · exact hrx.after (address_irq_in mid 0 _)
  · exact hrx

/-- A SETUP packet that changes nothing was not taken. -/
theorem not_takes_of_eq {dev : UsbDevice} {req : SetupRequest} (h : busSetup dev req = dev) :
    ¬ Takes dev req := by
  rintro ⟨hno, hyes⟩
  rw [h, hno] at hyes
  exact Bool.noConfusion hyes

/-- While a request waits, the control endpoint takes no OUT packet. -/
structure SetupHeld (dev : UsbDevice) : Prop where
  allocated : Allocated dev
  held : waitingRequest dev ≠ [] → (eprHalf .rx (dev.epr 0)).stat = .nak

/-- Where no request waits there is nothing to hold. -/
theorem SetupHeld.of_none {dev : UsbDevice} (ha : Allocated dev) (h : waitingRequest dev = []) :
    SetupHeld dev := ⟨ha, fun hw => absurd h hw⟩

/-- The requests `served` are the ones that waited and the ones `taken`, but for those that wait at
the end; a reset may lose some. -/
structure Serves (noReset : Prop) (served taken : List SetupRequest) (dev dev' : UsbDevice) :
    Prop where
  sublist : (served ++ waitingRequest dev').Sublist (waitingRequest dev ++ taken)
  all : noReset → served ++ waitingRequest dev' = waitingRequest dev ++ taken
  host : HostStep served dev dev'

/-- A step that moves requests from the waiting to the served serves them. -/
theorem Serves.of_eq {noReset : Prop} {served taken : List SetupRequest} {dev dev' : UsbDevice}
    (heq : served ++ waitingRequest dev' = waitingRequest dev ++ taken)
    (hhost : HostStep served dev dev') : Serves noReset served taken dev dev' :=
  ⟨heq ▸ List.Sublist.refl _, fun _ => heq, hhost⟩

/-- Serving chains. -/
theorem Serves.trans {p q : Prop} {l l' m m' : List SetupRequest} {a b d : UsbDevice}
    (h : Serves p l m a b) (h' : Serves q l' m' b d) : Serves (p ∧ q) (l ++ l') (m ++ m') a d where
  sublist := by
    rw [List.append_assoc, ← List.append_assoc (waitingRequest a)]
    refine (h'.sublist.append_left l).trans ?_
    rw [← List.append_assoc]
    exact h.sublist.append_right m'
  all := fun ⟨hp, hq⟩ => by
    rw [List.append_assoc, h'.all hq, ← List.append_assoc, h.all hp, List.append_assoc]
  host := h.host.trans h'.host

/-- What a step of the machine has to do with the requests. -/
def ServedStep (dev : UsbDevice) (i : UsbAct) (dev' : UsbDevice) : Prop :=
  SetupHeld dev' ∧ Serves (i ≠ .busReset) (servedRequest dev i) (takenRequest dev i) dev dev'

section
variable {dev : UsbDevice} (h : SetupHeld dev)
include h

/-- A step that neither serves nor takes a request. -/
theorem SetupHeld.same {i : UsbAct} {dev' : UsbDevice} (hserved : servedRequest dev i = [])
    (htaken : takenRequest dev i = []) (ha : Allocated dev')
    (hhalf : eprHalf .rx (dev'.epr 0) = eprHalf .rx (dev.epr 0))
    (hsetup : (eprFields (dev'.epr 0)).setup = (eprFields (dev.epr 0)).setup)
    (hpacket : bufferedSetup dev' 0 = bufferedSetup dev 0) (hview : hostView dev' = hostView dev) :
    ServedStep dev i dev' := by
  have hwait : waitingRequest dev' = waitingRequest dev :=
    waitingRequest_congr (by rw [hhalf]) hsetup hpacket
  refine ⟨⟨ha, fun hw => ?_⟩, ?_⟩
  · rw [hhalf]
    exact h.held (hwait ▸ hw)
  · rw [hserved, htaken]
    exact .of_eq (by rw [hwait, List.append_nil, List.nil_append]) (.of_view hview)

/-- An IN transaction leaves the waiting request. -/
theorem SetupHeld.busIn (n : Nat) (ack : Bool) :
    ServedStep dev (.inToken n ack) (busIn dev n ack).1 := by
  obtain ⟨hstack, hrx, hsetup⟩ := busIn_rest dev n ack
  have hpma : (PikvmHid.busIn dev n ack).1.pma = dev.pma := by rw [hstack]
  have hview : hostView (PikvmHid.busIn dev n ack).1 = hostView dev := by
    rw [hstack]
    rfl
  refine h.same rfl rfl (settled_busIn dev n ack h.allocated).1 hrx hsetup ?_ hview
  rw [bufferedSetup, bufferedSetup, hpma]

/-- So does an OUT transaction, which a flagged endpoint does not acknowledge. -/
theorem SetupHeld.busOut (n : Nat) (bytes : List U8) :
    ServedStep dev (.outToken n bytes) (busOut dev n bytes) := by
  have hstays : ∀ dev' : UsbDevice, dev' = dev → ServedStep dev (.outToken n bytes) dev' := by
    rintro dev' rfl
    exact h.same rfl rfl h.allocated rfl rfl rfl rfl
  by_cases hn : n = 0
  · subst hn
    by_cases hrx : (eprHalf .rx (dev.epr 0)).stat = .valid
    · obtain heq | ⟨-, heq⟩ := h.allocated.busOut_ctrl hrx bytes
      · exact hstays _ heq
      · -- A packet that comes in clears `SETUP`, but no request was waiting.
        obtain ⟨-, -, hsetup⟩ := epr_outAccepted dev bytes
        have ha := (framed_busOut dev 0 bytes h.allocated).1
        have hnone : waitingRequest dev = [] := by
          refine not_not.mp fun hw => ?_
          rw [h.held hw] at hrx
          exact absurd hrx (by decide)
        rw [heq] at ha ⊢
        have hwait := waitingRequest_of_setup hsetup
        exact ⟨.of_none ha hwait, .of_eq (by rw [hwait, hnone]; rfl) (.of_view rfl)⟩
    · exact hstays _ (h.allocated.busOut_of_not_valid hrx bytes)
  · exact hstays _ (h.allocated.busOut_of_ne hn bytes)

/-- A request that is sent waits, or is not taken. -/
theorem SetupHeld.busSetup (req : SetupRequest) : ServedStep dev (.setup req) (busSetup dev req) := by
  have ha := (framed_busSetup dev req h.allocated).1
  by_cases hok : dev.enabled ∧ (eprHalf .rx (dev.epr 0)).stat ≠ .dis ∧
      (eprHalf .rx (dev.epr 0)).ctr = false ∧ req.toBytes.length ≤ rxCapacity (dev.pma (bdtRxCount 0))
  · have heq : PikvmHid.busSetup dev req =
        { dev with pma := rxStore dev 0 req.toBytes }.setEpr 0 hwSetup := if_pos hok
    have hfields :
        eprFields ((PikvmHid.busSetup dev req).epr 0) = eprFields (hwSetup (dev.epr 0)) := by
      rw [heq, UsbDevice.setEpr_self]
    have hhalf : eprHalf .rx ((PikvmHid.busSetup dev req).epr 0) = ⟨.nak, true, true⟩ := by
      rw [← half_eprFields, hfields, fields_hwSetup]
      rfl
    -- The packet memory holds the eight bytes of the request.
    have hpacket : bufferedSetup (PikvmHid.busSetup dev req) 0 = req := by
      refine (bufferedSetup_busSetup h.allocated.layout req).resolve_left fun hsame => ?_
      rw [hsame] at hhalf
      rw [hhalf] at hok
      exact absurd hok.2.2.1 (by decide)
    have hwait : waitingRequest (PikvmHid.busSetup dev req) = [req] := by
      rw [waitingRequest, hpacket, if_pos]
      rw [hhalf, hfields, fields_hwSetup]
      exact ⟨rfl, rfl⟩
    have htakes : Takes dev req := ⟨hok.2.2.1, by rw [hhalf]⟩
    have hnone : waitingRequest dev = [] := waitingRequest_of_flag hok.2.2.1
    refine ⟨⟨ha, fun _ => by rw [hhalf]⟩, .of_eq ?_ ?_⟩
    · rw [hwait, hnone, takenRequest, if_pos htakes]
      rfl
    · rw [heq]
      exact .of_view rfl
  · have heq : PikvmHid.busSetup dev req = dev := if_neg hok
    have htaken : takenRequest dev (.setup req) = [] := if_neg (not_takes_of_eq heq)
    rw [heq]
    exact h.same rfl htaken h.allocated rfl rfl rfl rfl

/-- A bus reset loses the request that waits. -/
theorem SetupHeld.busReset : ServedStep dev .busReset (busReset dev) := by
  have hwait : waitingRequest (PikvmHid.busReset dev) = [] := by
    refine waitingRequest_of_setup ?_
    show (eprFields (hwReset (dev.epr 0))).setup = false
    rw [fields_hwReset]
  refine ⟨.of_none (settled_busReset dev h.allocated).1 hwait, ?_, fun hne => absurd rfl hne, ?_⟩
  · rw [hwait]
    exact List.nil_sublist _
  · exact ⟨rfl, .inr (.inl rfl), .inl rfl⟩

/-- So does a report. -/
theorem SetupHeld.reportIn {i : Nat} {bytes : List U8}
    (hlen : ∀ itf : HidIf, i = itf.index → bytes.length ≤ itf.reportSize) :
    ServedStep dev (.reportIn i bytes) (usbMachine.step dev (.reportIn i bytes)).1 := by
  have haway := h.allocated.away_reportIn i hlen
  generalize (usbMachine.step dev (.reportIn i bytes)).1 = dev' at haway ⊢
  have hpacket : bufferedSetup dev' 0 = bufferedSetup dev 0 :=
    bufferedSetup_congr h.allocated.layout fun j hj => haway.memory j (by omega)
  have hview : hostView dev' = hostView dev := by
    rw [haway.stack]
    rfl
  exact h.same rfl rfl haway.allocated (by rw [haway.reg]) (by rw [haway.reg]) hpacket hview

/-- A round of the handler serves the waiting request, or leaves it. -/
theorem SetupHeld.round {r : Nat} (hr : pendingEp dev = some r) :
    ServedStep dev .irq (usbVIRQHandler.round dev r) := by
  have ha := (settled_irq_round dev r h.allocated).1
  have hflag := h.allocated.flag_round r .rx 0
  have hserves : ∀ {dev' : UsbDevice}, Allocated dev' → flag dev' .rx 0 = false →
      HostStep (waitingRequest dev) dev dev' → ServedStep dev .irq dev' := by
    intro dev' ha' hnone hhost
    have hwait := waitingRequest_of_flag hnone
    exact ⟨.of_none ha' hwait, .of_eq (by rw [hwait]; rfl) hhost⟩
  rcases h.allocated.pendingEp_cases hr with ⟨rfl, -⟩ | ⟨jtf, rfl, hset⟩
  · have hnone : flag (usbVIRQHandler.round dev 0) .rx 0 = false := hflag.trans (by simp)
    exact hserves ha hnone (host_round_ctrl dev)
  · -- The control register comes first, so no request waits.
    have hnone := flag_of_pendingEp_pipe hr
    have hkept : flag (usbVIRQHandler.round dev jtf.regId) .rx 0 = false :=
      hflag.trans (by rw [hnone, Bool.false_and])
    refine hserves ha hkept ?_
    rw [waitingRequest_of_flag hnone,
      round_eq_in (n := (eprFields (dev.epr jtf.regId)).ea.toNat) rfl
        (h.allocated.registers.rx jtf).2 hset]
    exact (HostStep.of_view rfl).after (address_irq_in dev _ _)

/-- Once every completion is handled no request waits, and the bus reset loses none. -/
theorem SetupHeld.tail (hdone : pendingEp dev = none) :
    ServedStep dev .irq (usbVIRQHandler.tail dev) := by
  have hnone : flag dev .rx 0 = false := flag_of_pendingEp hdone .rx (by decide)
  have hserved : servedRequest dev .irq = [] := waitingRequest_of_flag hnone
  have hwait : waitingRequest (usbVIRQHandler.tail dev) = [] :=
    waitingRequest_of_flag (by rw [flag_irq_tail]; exact hnone)
  refine ⟨.of_none (settled_irq_tail dev h.allocated).1 hwait, ?_⟩
  rw [hserved]
  exact .of_eq (by rw [hwait, waitingRequest_of_flag hnone]; rfl) (host_tail dev)

/-- Every step serves, keeps or loses requests as `ServedStep` says. -/
theorem SetupHeld.step {i : UsbAct} (hi : FitsPacket i) :
    ServedStep dev i (usbMachine.step dev i).1 := by
  cases i with
  | inToken n ack => exact h.busIn n ack
  | outToken n bytes => exact h.busOut n bytes
  | setup req => exact h.busSetup req
  | busReset => exact h.busReset
  | irq =>
      show ServedStep dev .irq (usbVIRQHandler.step dev)
      rw [usbVIRQHandler.step]
      split
      · rename_i r hr
        exact h.round hr
      · rename_i hdone
        exact h.tail hdone
  | reportIn i bytes => exact h.reportIn hi

end

/-- Before the first reset is served no request is taken. -/
theorem Fresh.serves {dev : UsbDevice} (h : Fresh dev) (i : UsbAct) :
    (Fresh (usbMachine.step dev i).1 ∨ SetupHeld (usbMachine.step dev i).1) ∧
      Serves (i ≠ .busReset) (servedRequest dev i) (takenRequest dev i) dev
        (usbMachine.step dev i).1 := by
  have hnone : ∀ {dev' : UsbDevice}, Fresh dev' → waitingRequest dev' = [] := fun hfresh =>
    waitingRequest_of_flag (flag_of_pendingEp hfresh.pendingEp .rx (by decide))
  have hserved : servedRequest dev i = [] := by
    cases i
    case irq => exact hnone h
    all_goals rfl
  have htaken : takenRequest dev i = [] := by
    cases i
    case setup req => exact if_neg (not_takes_of_eq (h.busSetup req))
    all_goals rfl
  have hserves : ∀ {dev' : UsbDevice}, waitingRequest dev' = [] → HostStep [] dev dev' →
      Serves (i ≠ .busReset) (servedRequest dev i) (takenRequest dev i) dev dev' := by
    intro dev' hwait hhost
    rw [hserved, htaken]
    exact .of_eq (by rw [hnone h, hwait]) hhost
  rcases h.step_cases i with hsame | ⟨-, hbus⟩ | ⟨-, -, htail, ha, -⟩
  · rw [hsame]
    exact ⟨.inl h, hserves (hnone h) (.of_view rfl)⟩
  · rw [hbus]
    exact ⟨.inl h.busReset, hserves (hnone h.busReset) ⟨rfl, .inr (.inl rfl), .inl rfl⟩⟩
  · have hwait : waitingRequest (usbVIRQHandler.tail dev) = [] := by
      refine waitingRequest_of_flag ?_
      rw [flag_irq_tail]
      exact flag_of_pendingEp h.pendingEp .rx (by decide)
    rw [htail]
    exact ⟨.inr (.of_none ha hwait), hserves hwait (host_tail dev)⟩

/-! ### Every run -/

end PikvmHid
