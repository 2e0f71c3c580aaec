import PikvmHid.Lib.Drain
import PikvmHid.Proofs.UsbIgnored
import PikvmHid.Proofs.UsbReports

/-!
# `PikvmHid.Proofs.UsbFlags`: the completion flags and the loop of the interrupt handler

`CTR_RX` and `CTR_TX` are set by the peripheral and cleared by the handler. No function of the
stack sets one, and none clears one but the round of its register. So the loop of
`USB_vIRQHandler` ends, after one round for each register that had a flag.
-/

set_option autoImplicit false

namespace PikvmHid

/-- The completion flag of a direction of a register. -/
def flag (dev : UsbDevice) (d : EpHalf) (r : Nat) : Bool := (eprHalf d (dev.epr r)).ctr

/-- What `ISTR` shows: the completion flags and `RESET`. -/
def istr (dev : UsbDevice) : (EpHalf → Nat → Bool) × Bool := (flag dev, dev.reset)

/-! ### What leaves the flags alone -/

/-- A register write that leaves both `CTR` bits leaves the interrupt status. -/
theorem istr_setEpr (dev : UsbDevice) (r : Nat) {f : U16 → U16}
    (hf : ∀ d e, (eprHalf d (f e)).ctr = (eprHalf d e).ctr) : istr (dev.setEpr r f) = istr dev := by
  refine Prod.ext (funext fun d => funext fun q => ?_) rfl
  show flag (dev.setEpr r f) d q = flag dev d q
  by_cases hq : q = r
  · rw [hq, flag, dev.setEpr_self, hf, flag]
  · rw [flag, dev.setEpr_of_ne hq, flag]

/-- The flags and `RESET` are what the peripheral sets, and the stack leaves them alone. -/
theorem ignored_istr : Ignored istr where
  setIn _ _ _ := rfl
  setOut _ _ _ := rfl
  setPma _ _ := rfl
  setCtrl _ _ := rfl
  modifyIf _ _ _ := rfl
  remoteWakeup _ _ := rfl
  setStatus dev r d s := by
    refine istr_setEpr dev r fun d' e => ?_
    rw [eprHalf_setStatus]
    split <;> simp [*]
  toggleClear dev r d := by
    refine istr_setEpr dev r fun d' e => ?_
    rw [eprHalf_toggleClear]
    split <;> simp [*]
  setType dev r t := istr_setEpr dev r fun d e => by rw [eprHalf_setType]
  setAddress dev r a := istr_setEpr dev r fun d e => by rw [eprHalf_setAddress]

/-- The flag that is cleared. -/
theorem flag_flagClear (dev : UsbDevice) (r : Nat) (d d' : EpHalf) (q : Nat) :
    flag (dev.setEpr r (flagClear d)) d' q = (flag dev d' q && !decide (d' = d ∧ q = r)) := by
  by_cases hq : q = r
  · rw [hq, flag, dev.setEpr_self, eprHalf_flagClear, flag]
    by_cases hd : d' = d <;> simp [hd]
  · rw [flag, dev.setEpr_of_ne hq, flag]
    simp [hq]

section
variable (dev : UsbDevice)

/-- A change of the configuration leaves it. -/
theorem istr_ifConfig (cfgNum : U8) : istr (usbdIfConfig dev cfgNum) = istr dev :=
  ignored_istr.ifConfig dev (fun _ _ => rfl) cfgNum

/-- The tail of the handler takes the bus reset and no completion. -/
theorem istr_irq_tail : istr (usbVIRQHandler.tail dev) = (flag dev, false) := by
  rw [usbVIRQHandler.tail, usbdResetCallback]
  split_ifs with hreset
  · rw [ignored_istr.setOut, ignored_istr.ctrlEpOpen, istr_ifConfig]
    rfl
  · rw [istr, eq_false_of_ne_true hreset]

/-- It leaves every flag. -/
theorem flag_irq_tail : flag (usbVIRQHandler.tail dev) = flag dev :=
  congrArg Prod.fst (istr_irq_tail dev)

/-! ### A round -/

/-- The round of a SETUP packet takes one completion. -/
theorem istr_irq_setup (epId : Nat) :
    istr (usbVIRQHandler.setup dev epId) = istr (dev.setEpr 0 (flagClear .rx)) := by
  rw [usbVIRQHandler.setup]
  refine (ignored_istr.setupCallback _ fun dev' _ _ _ _ => ?_).trans rfl
  rw [usbdSetConfig]
  split
  · exact istr_ifConfig dev' _
  · rfl

/-- So does that of an OUT packet. -/
theorem istr_irq_out (epId n : Nat) :
    istr (usbVIRQHandler.out dev epId n) = istr (dev.setEpr epId (flagClear .rx)) :=
  ignored_istr.irq_out dev (fun _ _ => rfl) epId n

/-- So does that of an acknowledged IN packet. -/
theorem istr_irq_in (epId n : Nat) :
    istr (usbVIRQHandler.in dev epId n) = istr (dev.setEpr epId (flagClear .tx)) :=
  ignored_istr.irq_in dev (fun _ _ => rfl) epId n

end

/-- A register has a completion flag. -/
def pending (dev : UsbDevice) (r : Nat) : Bool := flag dev .rx r || flag dev .tx r

/-- The flag is the `CTR` bit the source tests. -/
theorem flag_eq_true_iff (dev : UsbDevice) (d : EpHalf) (r : Nat) :
    flag dev d r = true ↔ dev.epr r &&& d.ctr ≠ 0 := (and_ctr_ne_zero_iff d _).symm

/-- Only the control register has a receive flag. -/
theorem Allocated.flag_rx {dev : UsbDevice} (h : Allocated dev) {r : Nat}
    (hr : flag dev .rx r = true) : r = 0 := by
  have hne : dev.epr r ≠ 0 := by
    intro h0
    rw [flag, h0] at hr
    exact absurd hr (by decide)
  rcases h.pending_cases hne with rfl | ⟨itf, rfl⟩
  · rfl
  · rw [flag, (h.registers.rx itf).2] at hr
    exact absurd hr (by decide)

/-- What `ISTR` shows after the flag of a direction of a register is taken back. -/
def istrClear (dev : UsbDevice) (d : EpHalf) (r : Nat) : (EpHalf → Nat → Bool) × Bool :=
  (fun d' q => flag dev d' q && !decide (d' = d ∧ q = r), dev.reset)

/-- `USB_EP_FLAG_CLEAR` takes the completion of its half. -/
theorem istr_flagClear (dev : UsbDevice) (d : EpHalf) (r : Nat) :
    istr (dev.setEpr r (flagClear d)) = istrClear dev d r :=
  Prod.ext (funext fun d' => funext fun q => flag_flagClear dev r d d' q) rfl

/-- A flag that is not set need not be taken back. -/
theorem istrClear_of_false {dev : UsbDevice} {d : EpHalf} {r : Nat} (h : flag dev d r = false) :
    istrClear dev d r = istr dev := by
  refine Prod.ext (funext fun d' => funext fun q => ?_) rfl
  show (flag dev d' q && !decide (d' = d ∧ q = r)) = flag dev d' q
  by_cases hq : d' = d ∧ q = r
  · rw [hq.1, hq.2, h, Bool.false_and]
  · simp [hq]

/-- A round takes back the flags of its register. -/
theorem Allocated.istr_round {dev : UsbDevice} (h : Allocated dev) (epId : Nat) :
    istr (usbVIRQHandler.round dev epId) =
      (fun d r => flag dev d r && decide (r ≠ epId), dev.reset) := by
  have hand : ∀ mid : UsbDevice, istr mid = istrClear dev .rx epId → istrClear mid .tx epId =
      (fun d r => flag dev d r && decide (r ≠ epId), dev.reset) := by
    intro mid hmid
    have hflag : flag mid = (istrClear dev .rx epId).1 := congrArg Prod.fst hmid
    have hreset : mid.reset = dev.reset := congrArg Prod.snd hmid
    refine Prod.ext (funext fun d => funext fun r => ?_) hreset
    simp only [istrClear, hflag]
    by_cases hr : r = epId
    · cases d <;> simp [hr]
    · simp [hr]
  have hrx : istr (if dev.epr epId &&& USB_EP_CTR_RX ≠ 0 then
      if dev.epr epId &&& USB_EP_SETUP ≠ 0 then usbVIRQHandler.setup dev epId
      else usbVIRQHandler.out dev epId (dev.epr epId &&& USB_EPADDR_FIELD).toNat else dev) =
      istrClear dev .rx epId := by
    split
    · rename_i hflag
      have h0 := h.flag_rx ((flag_eq_true_iff dev .rx epId).mpr hflag)
      subst h0
      split
      · rw [istr_irq_setup, istr_flagClear]
      · rw [istr_irq_out, istr_flagClear]
    · rename_i hflag
      have hfalse := eq_false_of_ne_true (mt (flag_eq_true_iff dev .rx epId).mp hflag)
      rw [istrClear_of_false hfalse]
  rw [usbVIRQHandler.round]
  generalize (if dev.epr epId &&& USB_EP_CTR_RX ≠ 0 then
      if dev.epr epId &&& USB_EP_SETUP ≠ 0 then usbVIRQHandler.setup dev epId
      else usbVIRQHandler.out dev epId (dev.epr epId &&& USB_EPADDR_FIELD).toNat else dev) = mid
    at hrx ⊢
  split
  · rw [istr_irq_in, istr_flagClear, hand mid hrx]
  · rename_i hflag
    have hfalse : flag dev .tx epId = false :=
      eq_false_of_ne_true (mt (flag_eq_true_iff dev .tx epId).mp hflag)
    have hmid : flag mid .tx epId = false := by
      rw [show flag mid = (istrClear dev .rx epId).1 from congrArg Prod.fst hrx]
      simp [istrClear, hfalse]
    rw [← hand mid hrx, istrClear_of_false hmid]

/-- A round takes every completion of its register and leaves the others. -/
theorem Allocated.flag_round {dev : UsbDevice} (h : Allocated dev) (epId : Nat) (d : EpHalf)
    (r : Nat) : flag (usbVIRQHandler.round dev epId) d r = (flag dev d r && decide (r ≠ epId)) :=
  congrFun (congrFun (congrArg Prod.fst (h.istr_round epId)) d) r

/-! ### The loop -/

/-- The registers with a completion flag, in the order of `ISTR.EP_ID`. -/
def flagged (dev : UsbDevice) : List Nat := Lib.allPending (List.range USBD_MAX_EP_COUNT) pending dev

/-- The next endpoint to handle is the first that is pending. -/
theorem pendingEp_eq (dev : UsbDevice) :
    pendingEp dev = Lib.firstPending (List.range USBD_MAX_EP_COUNT) pending dev := by
  have hor : ∀ r, decide (dev.epr r &&& (USB_EP_CTR_RX ||| USB_EP_CTR_TX) ≠ 0) = pending dev r := by
    intro r
    rw [Bool.eq_iff_iff, decide_eq_true_iff, pending, Bool.or_eq_true, flag_eq_true_iff,
      flag_eq_true_iff]
    show _ ↔ dev.epr r &&& USB_EP_CTR_RX ≠ 0 ∨ dev.epr r &&& USB_EP_CTR_TX ≠ 0
    have hsplit : dev.epr r &&& (USB_EP_CTR_RX ||| USB_EP_CTR_TX) =
        (dev.epr r &&& USB_EP_CTR_RX) ||| (dev.epr r &&& USB_EP_CTR_TX) := by
      apply BitVec.eq_of_getLsbD_eq
      intro i _
      simp only [BitVec.getLsbD_and, BitVec.getLsbD_or, Bool.and_or_distrib_left]
    have hzero : (dev.epr r &&& USB_EP_CTR_RX) ||| (dev.epr r &&& USB_EP_CTR_TX) = 0 ↔
        dev.epr r &&& USB_EP_CTR_RX = 0 ∧ dev.epr r &&& USB_EP_CTR_TX = 0 := BitVec.or_eq_zero_iff
    rw [hsplit, ne_eq, hzero, not_and_or]
  rw [pendingEp, Lib.firstPending]
  exact congrArg (fun f => List.find? f (List.range USBD_MAX_EP_COUNT)) (funext hor)

/-- No flag is set when the handler has nothing left to do. -/
theorem flag_of_pendingEp {dev : UsbDevice} (h : pendingEp dev = none) (d : EpHalf) {r : Nat}
    (hr : r < USBD_MAX_EP_COUNT) : flag dev d r = false := by
  have hno := List.find?_eq_none.mp ((pendingEp_eq dev).symm.trans h) r (List.mem_range.mpr hr)
  rw [Bool.not_eq_true, pending, Bool.or_eq_false_iff] at hno
  cases d
  · exact hno.1
  · exact hno.2

/-- What the handler finds next: nothing, the control endpoint, or an acknowledged report. -/
theorem Allocated.pendingEp_cases {dev : UsbDevice} (h : Allocated dev) {r : Nat}
    (hr : pendingEp dev = some r) :
    r = 0 ∧ pending dev 0 = true ∨ ∃ itf : HidIf, r = itf.regId ∧ flag dev .tx itf.regId = true := by
  have hflagged : pending dev r = true := by
    rw [pendingEp_eq, Lib.firstPending] at hr
    exact List.find?_some hr
  have hne : dev.epr r ≠ 0 := by
    intro h0
    rw [pending, flag, flag, h0] at hflagged
    exact absurd hflagged (by decide)
  rcases h.pending_cases hne with rfl | ⟨itf, rfl⟩
  · exact .inl ⟨rfl, hflagged⟩
  · rw [pending, flag, (h.registers.rx itf).2, Bool.false_or] at hflagged
    exact .inr ⟨itf, rfl, hflagged⟩

/-- The round of a register that has sent a packet and received none. -/
theorem round_eq_in {dev : UsbDevice} {r n : Nat} (hnum : (eprFields (dev.epr r)).ea.toNat = n)
    (hrx : flag dev .rx r = false) (htx : flag dev .tx r = true) :
    usbVIRQHandler.round dev r = usbVIRQHandler.in dev r n := by
  have hctr : ¬ dev.epr r &&& USB_EP_CTR_RX ≠ 0 := by
    intro hctr
    have hset := (flag_eq_true_iff dev .rx r).mpr hctr
    rw [hrx] at hset
    exact absurd hset (by decide)
  have hsent : dev.epr r &&& USB_EP_CTR_TX ≠ 0 := (flag_eq_true_iff dev .tx r).mp htx
  have hea : (dev.epr r &&& USB_EPADDR_FIELD).toNat = n := (toNat_and_epaddr _).trans hnum
  rw [usbVIRQHandler.round, if_neg hctr, if_pos hsent, hea]

/-- The handler is the loop of the library. -/
theorem usbVIRQHandler_eq_drain (n : Nat) (dev : UsbDevice) :
    usbVIRQHandler n dev = Lib.drain (List.range USBD_MAX_EP_COUNT) pending usbVIRQHandler.round
      usbVIRQHandler.tail n dev := by
  induction n generalizing dev with
  | zero => rfl
  | succ n ih =>
      rw [usbVIRQHandler, Lib.drain, pendingEp_eq]
      cases Lib.firstPending (List.range USBD_MAX_EP_COUNT) pending dev with
      | some r => exact ih _
      | none => rfl

/-- A round serves what it is called for and makes nothing else pending. -/
theorem serves_round : Lib.Serves Allocated pending usbVIRQHandler.round where
  keeps dev r h _ := (settled_irq_round dev r h).1
  clears dev r h _ j := by
    simp only [pending, h.flag_round, Bool.and_or_distrib_right]

/-- At most three registers are in use. -/
theorem Allocated.length_flagged {dev : UsbDevice} (h : Allocated dev) :
    (flagged dev).length ≤ 3 := by
  have hrest : ∀ r, 3 ≤ r → pending dev r = false := by
    intro r hr
    rw [pending, flag, flag, h.registers.rest r hr]
    rfl
  have hsplit : List.range USBD_MAX_EP_COUNT = List.range 3 ++ [3, 4, 5, 6, 7] := rfl
  have hnil : [3, 4, 5, 6, 7].filter (pending dev) = [] := by
    simp [hrest]
  rw [flagged, Lib.allPending, hsplit, List.filter_append, hnil, List.append_nil]
  exact List.length_filter_le _ _

/-- The tail leaves what is flagged. -/
theorem flagged_tail (dev : UsbDevice) : flagged (usbVIRQHandler.tail dev) = flagged dev := by
  rw [flagged, flagged, Lib.allPending, Lib.allPending]
  exact List.filter_congr fun r _ => by rw [pending, pending, flag_irq_tail]

/-- The handler serves each register with a flag once, in the order of their numbers, and then
the reset. Nothing is left to be served. -/
theorem Allocated.irqHandler {dev : UsbDevice} (h : Allocated dev) {n : Nat} (hn : 3 < n) :
    usbVIRQHandler n dev = usbVIRQHandler.tail ((flagged dev).foldl usbVIRQHandler.round dev) ∧
      pendingEp (usbVIRQHandler n dev) = none ∧ (usbVIRQHandler n dev).reset = false := by
  have hnodup : (List.range USBD_MAX_EP_COUNT).Nodup := List.nodup_range
  have hdrain := Lib.drain_eq_foldl usbVIRQHandler.tail serves_round hnodup h
    (Nat.lt_of_le_of_lt h.length_flagged hn)
  obtain ⟨-, hnone⟩ := Lib.invariant_foldl serves_round hnodup h rfl
  rw [usbVIRQHandler_eq_drain, hdrain]
  refine ⟨rfl, ?_, ?_⟩
  · -- The reset sets no flag.
    have htail := (flagged_tail ((flagged dev).foldl usbVIRQHandler.round dev)).trans hnone
    rw [pendingEp_eq, Lib.firstPending_eq_head?]
    exact congrArg List.head? htail
  · exact congrArg Prod.snd (istr_irq_tail _)

/-- Before the first bus reset no register has a flag. -/
theorem Fresh.flagged {dev : UsbDevice} (h : Fresh dev) : flagged dev = [] := by
  refine List.filter_eq_nil_iff.mpr fun r _ => ?_
  rw [pending, flag, flag, h.epr r]
  decide

end PikvmHid
