import PikvmHid.Proofs.UsbPipes

/-!
# `PikvmHid.Proofs.UsbStrays`: the handler and its stray accesses

The interrupt handler with its accesses checked (`usbVIRQHandler.checked`) serves each register with a
flag once, and then the reset, unless a round makes a stray access (`irqHandler_drains`).

Not every access of `PikvmHid.Usb.Stray` can happen. The descriptors of this device fit in `CtrlData`
(`descriptors_fit`), so a SETUP packet strays only with a request to an endpoint
(`strays_setup_iff`), and not with one that names the endpoint as the standard has it
(`strays_epRequest_of_names`).
-/

set_option autoImplicit false

namespace PikvmHid

/-! ### The descriptors fit -/

/-- The descriptor tables are not changed by a transfer. -/
theorem ignored_desc : Ignored UsbDevice.desc where
  setIn _ _ _ := rfl
  setOut _ _ _ := rfl
  setPma _ _ := rfl
  setCtrl _ _ := rfl
  modifyIf _ _ _ := rfl
  remoteWakeup _ _ := rfl
  setStatus _ _ _ _ := rfl
  toggleClear _ _ _ := rfl
  setType _ _ _ := rfl
  setAddress _ _ _ := rfl

/-- Nor by a change of the configuration. -/
theorem desc_ifConfig (dev : UsbDevice) (cfgNum : U8) :
    (usbdIfConfig dev cfgNum).desc = dev.desc :=
  ignored_desc.ifConfig dev (fun _ _ => rfl) cfgNum

/-- The handler leaves the description alone. -/
theorem desc_irq (dev : UsbDevice) : (usbVIRQHandler.step dev).desc = dev.desc := by
  have hsetup : ∀ epId, (usbVIRQHandler.setup dev epId).desc = dev.desc := by
    intro epId
    rw [usbVIRQHandler.setup]
    refine (ignored_desc.setupCallback _ fun dev' _ _ _ _ => ?_).trans rfl
    rw [usbdSetConfig]
    split
    · exact desc_ifConfig dev' _
    · rfl
  have hreceived : ∀ epId, (usbVIRQHandler.received dev epId).desc = dev.desc := by
    intro epId
    rw [usbVIRQHandler.received]
    split_ifs
    · exact hsetup epId
    · exact ignored_desc.irq_out dev (fun _ _ => rfl) epId _
    · rfl
  rw [usbVIRQHandler.step]
  split
  · rename_i epId _
    rw [round_eq_received]
    split
    · exact (ignored_desc.irq_in _ (fun _ _ => rfl) epId _).trans (hreceived epId)
    · exact hreceived epId
  · rw [usbVIRQHandler.tail]
    split
    · rw [usbdResetCallback, ignored_desc.setOut, ignored_desc.ctrlEpOpen, desc_ifConfig]
      rfl
    · rfl

/-- Nor by any step. -/
theorem desc_step (dev : UsbDevice) (i : UsbAct) : (usbMachine.step dev i).1.desc = dev.desc := by
  cases i with
  | inToken n ack =>
      simp only [usbMachine, busIn]
      split
      · split_ifs <;> rfl
      · rfl
  | outToken n bytes =>
      simp only [usbMachine, busOut]
      split
      · split_ifs <;> rfl
      · rfl
  | setup req =>
      simp only [usbMachine, busSetup]
      split_ifs <;> rfl
  | busReset => rfl
  | irq => exact desc_irq dev
  | reportIn i bytes => exact ignored_desc.reportIn dev i _ _

/-- The description is the one of the set-up. -/
theorem desc_run (pma : Pma) (is : List UsbAct) :
    (usbMachine.exec (usbDeviceInit pma, []) is).1.desc = hdevCfg :=
  usbMachine.invariant_all (I := fun c => c.1.desc = hdevCfg) (c := (usbDeviceInit pma, []))
    (fun c i h => (desc_step c.1 i).trans h) rfl is

/-- The descriptors of an interface take 25 bytes. -/
theorem length_hidGetDesc (dev : UsbDevice) (itf : HidIfHandle) (ifNum : U8) :
    (hidGetDesc dev itf ifNum).length = 25 := by
  simp [hidGetDesc, hidClassDesc, usbdEpDesc, le16]

/-- Two interfaces are mounted. -/
theorem IfsMounted.length_eq {ifs : List HidIfHandle} (h : IfsMounted ifs) : ifs.length = 2 := by
  have hmap := congrArg List.length h
  simpa using hmap

/-- The configuration descriptor has 59 bytes, so it fits `CtrlData`. -/
theorem length_configDesc {dev : UsbDevice} (h : IfsMounted dev.ifs) :
    (usbdConfigDesc dev).length = 59 := by
  obtain ⟨a, b, hifs⟩ := List.length_eq_two.mp h.length_eq
  simp [usbdConfigDesc, usbdConfigDesc.interfaces, hifs, length_hidGetDesc, le16]

/-- No name has more than 31 characters. -/
theorem length_string_le {dev : UsbDevice} (hdesc : dev.desc = hdevCfg) (h : IfsMounted dev.ifs)
    {str : List U8} (hstr : usbdString dev = some str) : str.length ≤ 31 := by
  have hname : ∀ str, usbdIfString dev = some str → str.length ≤ 31 := by
    intro str hif
    obtain ⟨itf, hitf, rfl⟩ := Option.map_eq_some_iff.mp hif
    obtain ⟨kind, -, happ, -⟩ := h.cases hitf
    rw [hidGetString, happ]
    cases kind <;> decide
  rw [usbdString, hdesc] at hstr
  split_ifs at hstr
  · obtain rfl := Option.some.inj hstr
    decide
  · obtain rfl := Option.some.inj hstr
    decide
  · obtain rfl := Option.some.inj hstr
    decide
  · exact hname str hstr

/-- The descriptors of the device fit in `CtrlData`. -/
theorem descriptors_fit {dev : UsbDevice} (hdesc : dev.desc = hdevCfg) (h : IfsMounted dev.ifs) :
    usbdGetDescriptor.strays dev = false := by
  rw [usbdGetDescriptor.strays]
  split_ifs
  · have hlen : (usbdDeviceDesc dev).length = 18 := by simp [usbdDeviceDesc, le16]
    rw [hlen]
    rfl
  · rw [length_configDesc h]
    rfl
  · split
    · rename_i str hstr
      have hlen := length_string_le hdesc h hstr
      have hdouble : (usbdGetStringDesc str).length = 2 + 2 * str.length := by
        simp [usbdGetStringDesc]
        omega
      rw [hdouble, decide_eq_false_iff_not]
      exact Nat.not_lt.mpr (by omega : 2 + 2 * str.length ≤ 64)
    · rfl
  · rfl

/-! ### Requests -/

/-- Without the bits 4 to 6 the index is the number of the endpoint, for both directions. -/
theorem epIndex_eq_of_and : ∀ a : U8, a &&& 0x70 = 0 → epIndex a = (a &&& 0xF).toNat := by
  decide +kernel

/-- A request that names its endpoint as the standard has it does not stray. -/
theorem strays_epRequest_of_names {dev : UsbDevice}
    (h : dev.setup.indexLow &&& 0x70 = 0) : usbdEpRequest.strays dev = false := by
  rw [usbdEpRequest.strays, epIndex_eq_of_and _ h, decide_eq_false_iff_not]
  rintro ⟨hnum, -, -, hrange⟩
  exact hnum (.inl hrange)

/-- A SETUP packet strays only with a request to an endpoint. -/
theorem strays_setup_iff {dev : UsbDevice} (hdesc : dev.desc = hdevCfg) (h : IfsMounted dev.ifs)
    (epId : Nat) :
    usbVIRQHandler.setup.strays dev epId = true ↔
      (bufferedSetup dev epId).recipient = USB_REQ_RECIPIENT_ENDPOINT ∧
        usbdEpRequest.strays { dev with setup := bufferedSetup dev epId } = true := by
  have hstored : usbVIRQHandler.setup.strays dev epId =
      usbdSetupCallback.strays { dev with setup := bufferedSetup dev epId } := rfl
  have hdescriptor : usbdDevRequest.strays { dev with setup := bufferedSetup dev epId } = false := by
    have hfit : usbdGetDescriptor.strays { dev with setup := bufferedSetup dev epId } = false :=
      descriptors_fit hdesc h
    rw [usbdDevRequest.strays, hfit]
    simp
  rw [hstored, usbdSetupCallback.strays]
  dsimp only
  split
  · rename_i hdev
    rw [hdescriptor, hdev]
    simp
  · simp

/-! ### The rounds -/

/-- A round of the control endpoint strays with the packet that it receives, or with the one that it
has sent. -/
theorem Allocated.strays_round_ctrl {dev : UsbDevice} (h : Allocated dev) :
    usbVIRQHandler.round.strays dev 0 = true ↔
      (flag dev .rx 0 = true ∧
        (if (eprFields (dev.epr 0)).setup then usbVIRQHandler.setup.strays dev 0
          else usbVIRQHandler.out.strays dev 0 0) = true) ∨
      flag dev .tx 0 = true ∧
        usbVIRQHandler.in.strays (usbVIRQHandler.received dev 0) 0 = true := by
  have hea : (dev.epr 0 &&& USB_EPADDR_FIELD).toNat = 0 := h.num_ctrl
  have hrx : dev.epr 0 &&& USB_EP_CTR_RX ≠ 0 ↔ flag dev .rx 0 = true :=
    (flag_eq_true_iff dev .rx 0).symm
  have htx : dev.epr 0 &&& USB_EP_CTR_TX ≠ 0 ↔ flag dev .tx 0 = true :=
    (flag_eq_true_iff dev .tx 0).symm
  rw [usbVIRQHandler.round.strays, hea, decide_eq_true_iff, hrx, htx]
  simp only [and_setup_ne_zero_iff]
  exact or_iff_right (Nat.not_le.mpr (by decide : 0 < USBD_MAX_EP_COUNT))

/-- A round of a report endpoint does not stray: it has sent a report, and has no callback. -/
theorem Allocated.strays_round_pipe {dev : UsbDevice} (h : Allocated dev) {itf : HidIf}
    (hnum : (eprFields (dev.epr itf.regId)).ea = .ofNat 4 itf.epNum) :
    usbVIRQHandler.round.strays dev itf.regId = false := by
  have hea : (dev.epr itf.regId &&& USB_EPADDR_FIELD).toNat = itf.epNum := by
    rw [toNat_and_epaddr, hnum]
    cases itf <;> rfl
  have hrx : ¬ dev.epr itf.regId &&& USB_EP_CTR_RX ≠ 0 := by
    intro hctr
    have hset := (flag_eq_true_iff dev .rx itf.regId).mpr hctr
    rw [flag, (h.registers.rx itf).2] at hset
    exact absurd hset (by decide)
  rw [usbVIRQHandler.round.strays, hea, decide_eq_false_iff_not]
  rintro (hrange | ⟨hctr, -⟩ | ⟨-, hin⟩)
  · cases itf <;> exact absurd hrange (by decide)
  · exact hrx hctr
  · rw [usbVIRQHandler.in.strays, decide_eq_true_iff] at hin
    cases itf <;> exact absurd hin.2.1 (by decide)

/-! ### The loop -/

/-- A round that is not given up is the round. -/
theorem checkedRound_eq (dev : UsbDevice) (epId : Nat) (dev' : UsbDevice)
    (h : usbVIRQHandler.checkedRound dev epId = some dev') :
    dev' = usbVIRQHandler.round dev epId := by
  rw [usbVIRQHandler.checkedRound] at h
  split at h
  · exact absurd h (by simp)
  · exact (Option.some.inj h).symm

/-- The checked handler is the loop of the library. -/
theorem checked_eq_tryDrain (n : Nat) (dev : UsbDevice) :
    usbVIRQHandler.checked n dev = Lib.tryDrain (List.range USBD_MAX_EP_COUNT) pending
      usbVIRQHandler.checkedRound usbVIRQHandler.tail n dev := by
  induction n generalizing dev with
  | zero => rfl
  | succ n ih =>
      rw [usbVIRQHandler.checked, Lib.tryDrain, pendingEp_eq]
      cases Lib.firstPending (List.range USBD_MAX_EP_COUNT) pending dev with
      | some r => exact congrArg (usbVIRQHandler.checkedRound dev r).bind (funext ih)
      | none => rfl

/-- A checked handler that is not given up is the handler. -/
theorem eq_irqHandler_of_checked {n : Nat} {dev dev' : UsbDevice}
    (h : usbVIRQHandler.checked n dev = some dev') : dev' = usbVIRQHandler n dev := by
  rw [checked_eq_tryDrain] at h
  rw [usbVIRQHandler_eq_drain]
  exact Lib.eq_drain_of_tryDrain checkedRound_eq usbVIRQHandler.tail h

/-- What the handler serves, in which order, and how it ends. -/
structure Drains (n : Nat) (dev : UsbDevice) : Prop where
  rounds : (flagged dev).length ≤ 3
  serves : usbVIRQHandler.checked n dev =
    ((flagged dev).foldlM usbVIRQHandler.checkedRound dev).map usbVIRQHandler.tail
  done : ∀ dev', usbVIRQHandler.checked n dev = some dev' →
    dev' = usbVIRQHandler n dev ∧ pendingEp dev' = none ∧ dev'.reset = false

/-- The loop of the handler ends when every register is served. -/
theorem Allocated.drains {dev : UsbDevice} (h : Allocated dev) {n : Nat} (hn : 3 < n) :
    Drains n dev := by
  have hfuel := Nat.lt_of_le_of_lt h.length_flagged hn
  refine ⟨h.length_flagged, ?_, fun dev' hdev' => ?_⟩
  · rw [checked_eq_tryDrain]
    exact Lib.tryDrain_eq_foldlM checkedRound_eq usbVIRQHandler.tail serves_round List.nodup_range h
      hfuel
  · obtain rfl := eq_irqHandler_of_checked hdev'
    exact ⟨rfl, (h.irqHandler hn).2⟩

/-- Before the first reset no register is in use, and the loop is not entered. -/
theorem Fresh.drains {dev : UsbDevice} (h : Fresh dev) {n : Nat} (hn : 3 < n) : Drains n dev := by
  obtain ⟨m, rfl⟩ := Nat.exists_eq_succ_of_ne_zero (Nat.ne_of_gt (Nat.zero_lt_of_lt hn))
  have hnone := h.pendingEp
  have hchecked : usbVIRQHandler.checked (m + 1) dev = some (usbVIRQHandler.tail dev) := by
    rw [usbVIRQHandler.checked, hnone]
  have hplain : usbVIRQHandler (m + 1) dev = usbVIRQHandler.tail dev := by
    rw [usbVIRQHandler, hnone]
  refine ⟨by rw [h.flagged]; exact Nat.zero_le 3, ?_, fun dev' hdev' => ?_⟩
  · rw [hchecked, h.flagged]
    rfl
  · obtain rfl := Option.some.inj (hchecked.symm.trans hdev')
    refine ⟨hplain.symm, ?_, congrArg Prod.snd (istr_irq_tail dev)⟩
    rw [pendingEp_eq, Lib.firstPending_eq_head?]
    exact congrArg List.head? ((flagged_tail dev).trans h.flagged)

/-- In every state that a run without stray accesses reaches, the handler ends: it serves each register
with a flag once, in the order of their numbers, and then the reset, and nothing is left to be
served. Or one of these rounds makes a stray access, and it ends there. -/
theorem irqHandler_drains (pma : Pma) {is : List UsbAct}
    (h : usbMachine.Meets Contained (usbDeviceInit pma, []) is) {n : Nat} (hn : 3 < n) :
    Drains n (usbMachine.exec (usbDeviceInit pma, []) is).1 := by
  rcases inOrder_run pma (fitsPacket_of_contained h) with ⟨hfresh, -⟩ | ⟨ha, -, -⟩
  · exact hfresh.drains hn
  · exact ha.drains hn

/-- Two reports are acknowledged and a request comes, before the handler does. -/
def threeFlags : List UsbAct :=
  configure ++ [.reportIn 0 [0, 0, 4, 0, 0, 0, 0, 0], .reportIn 1 [0, 0, 0, 0, 0, 0],
    .inToken 7 true, .inToken 5 true, .setup setConfiguration1]

/-- All three registers are served. -/
theorem threeFlags_drains :
    let dev := (usbMachine.exec (usbDeviceInit fun _ => 0, []) threeFlags).1
    flagged dev = [0, 1, 2] ∧ (usbVIRQHandler.checked 4 dev).isSome ∧ Drains 4 dev :=
  ⟨by decide +kernel, by decide +kernel, irqHandler_drains _ (by decide +kernel) (by decide)⟩

/-- A packet behind a reset: the request waits in the packet memory, the reset takes back the `SETUP`
bit, and the handler takes the eight bytes for data of a transfer that has no buffer. -/
example :
    let is : List UsbAct := [.busReset, .irq, .setup setConfiguration1, .busReset]
    usbVIRQHandler.checked 4 (usbMachine.exec (usbDeviceInit fun _ => 0, []) is).1 = none := by
  decide +kernel

end PikvmHid
