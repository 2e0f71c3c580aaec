import PikvmHid.Proofs.UsbFrame
import Mathlib.Tactic.SplitIfs

/-!
# `PikvmHid.Proofs.UsbAllocation`: the registers and buffers of this device

What `USB_vAllocateEPs` does with the endpoints of the keyboard and the mouse. It gives them
registers 2 and 1, the control endpoint register 0, and the buffers of `Layout`. So the first
bus reset establishes `Allocated`, and every later one changes nothing.
-/

set_option autoImplicit false

namespace PikvmHid

/-- The endpoint tables without the registers: the packet sizes and types that the mounted
interfaces ask for. -/
structure Mounted (dev : UsbDevice) : Prop where
  report : ∀ itf : HidIf, (dev.epIn itf.epNum).maxPacketSize = itf.reportSize ∧
    (dev.epIn itf.epNum).type = .interrupt
  inRest : ∀ n, (∀ itf : HidIf, n ≠ itf.epNum) → (dev.epIn n).maxPacketSize = ctrlMps n ∧
    (dev.epIn n).type = .control
  out : ∀ n, (dev.epOut n).maxPacketSize = ctrlMps n ∧ (dev.epOut n).type = .control

/-- The tables after `USB_vDevInit` have the report endpoints mounted. -/
theorem Tables.mounted {dev : UsbDevice} (h : Tables dev) : Mounted dev where
  report itf := ⟨(h.report itf).maxPacketSize, (h.report itf).type⟩
  inRest n hn := ⟨(h.inRest n hn).maxPacketSize, (h.inRest n hn).type⟩
  out n := ⟨(h.out n).maxPacketSize, (h.out n).type⟩

/-- An endpoint with another register. -/
def UsbEp.withReg (ep : UsbEp) (regId : Nat) : UsbEp := { ep with regId := regId }

/-- The device after its registers are assigned. -/
def withRegs (dev : UsbDevice) : UsbDevice :=
  (((dev.setOut 0 ((dev.epOut 0).withReg 0)).setIn 0 ((dev.epIn 0).withReg 0)).setIn 5
    ((dev.epIn 5).withReg 1)).setIn 7 ((dev.epIn 7).withReg 2)

/-- The packet memory after its buffers are assigned. -/
def withBuffers (p : Pma) : Pma := (((p.set 0 48).set 2 48).set 4 112).set 8 118

/-- A number without endpoints gets no register. -/
theorem reg_of_unused {dev : UsbDevice} {n : Nat} (hin : (dev.epIn n).maxPacketSize = 0)
    (hout : (dev.epOut n).maxPacketSize = 0) (k : Nat) :
    usbVAllocateEPs.reg (dev, k) n = (dev, k) := by
  simp [usbVAllocateEPs.reg, hin, hout]

/-- A number with an IN endpoint only. -/
theorem reg_of_in {dev : UsbDevice} {n : Nat} (hin : 0 < (dev.epIn n).maxPacketSize)
    (hout : (dev.epOut n).maxPacketSize = 0) (k : Nat) :
    usbVAllocateEPs.reg (dev, k) n = (dev.setIn n ((dev.epIn n).withReg k), k + 1) := by
  simp [usbVAllocateEPs.reg, hin, hout, UsbEp.withReg]

/-- The first loop of `USB_vAllocateEPs` gives out three registers. -/
theorem Mounted.regs {dev : UsbDevice} (h : Mounted dev) :
    (List.range USBD_MAX_EP_COUNT).foldl usbVAllocateEPs.reg (dev, 0) = (withRegs dev, 3) := by
  have hrest : ∀ n, n ≠ 0 → n ≠ 5 → n ≠ 7 → (dev.epIn n).maxPacketSize = 0 := by
    intro n h0 h5 h7
    rw [(h.inRest n fun itf => by cases itf <;> assumption).1, ctrlMps, if_neg h0]
  have hout : ∀ n, n ≠ 0 → (dev.epOut n).maxPacketSize = 0 := by
    intro n h0
    rw [(h.out n).1, ctrlMps, if_neg h0]
  have h0 : usbVAllocateEPs.reg (dev, 0) 0 =
      ((dev.setOut 0 ((dev.epOut 0).withReg 0)).setIn 0 ((dev.epIn 0).withReg 0), 1) := by
    have hin0 := h.inRest 0 HidIf.zero_ne_epNum
    have hout0 := h.out 0
    simp [usbVAllocateEPs.reg, hin0, hout0, ctrlMps, doubleBuffered, UsbEp.withReg, UsbDevice.setOut]
  have h5 : 0 < (dev.epIn 5).maxPacketSize := by
    have h := (h.report .hidMsIf).1
    exact h ▸ (by decide)
  have h7 : 0 < (dev.epIn 7).maxPacketSize := by
    have h := (h.report .hidKbIf).1
    exact h ▸ (by decide)
  -- One round an endpoint: 0 takes register 0, 5 and 7 the next two.
  rw [show List.range USBD_MAX_EP_COUNT = [0, 1, 2, 3, 4, 5, 6, 7] from rfl]
  simp only [List.foldl_cons, List.foldl_nil, h0]
  rw [reg_of_unused (n := 1) (by simp [UsbDevice.setIn, UsbDevice.setOut, hrest])
      (by simp [UsbDevice.setIn, UsbDevice.setOut, hout]),
    reg_of_unused (n := 2) (by simp [UsbDevice.setIn, UsbDevice.setOut, hrest])
      (by simp [UsbDevice.setIn, UsbDevice.setOut, hout]),
    reg_of_unused (n := 3) (by simp [UsbDevice.setIn, UsbDevice.setOut, hrest])
      (by simp [UsbDevice.setIn, UsbDevice.setOut, hout]),
    reg_of_unused (n := 4) (by simp [UsbDevice.setIn, UsbDevice.setOut, hrest])
      (by simp [UsbDevice.setIn, UsbDevice.setOut, hout]),
    reg_of_in (n := 5) (by simpa [UsbDevice.setIn, UsbDevice.setOut] using h5)
      (by simp [UsbDevice.setIn, UsbDevice.setOut, hout]),
    reg_of_unused (n := 6) (by simp [UsbDevice.setIn, UsbDevice.setOut, hrest])
      (by simp [UsbDevice.setIn, UsbDevice.setOut, hout]),
    reg_of_in (n := 7) (by simpa [UsbDevice.setIn, UsbDevice.setOut] using h7)
      (by simp [UsbDevice.setIn, UsbDevice.setOut, hout])]
  simp [withRegs, UsbDevice.setIn, UsbDevice.setOut]

/-- The second gives each of them its packet memory. -/
theorem Mounted.buffers {dev : UsbDevice} (h : Mounted dev) :
    (usbVAllocateEPs.pma (withRegs dev) 3).1 = withBuffers dev.pma := by
  have hm := h.report .hidMsIf
  have hk := h.report .hidKbIf
  have hin0 := h.inRest 0 HidIf.zero_ne_epNum
  have hrest : ∀ n, n ≠ 0 → n ≠ 5 → n ≠ 7 → (dev.epIn n).maxPacketSize = 0 := by
    intro n h0 h5 h7
    rw [(h.inRest n fun itf => by cases itf <;> assumption).1, ctrlMps, if_neg h0]
  have hout : ∀ n, n ≠ 0 → (dev.epOut n).maxPacketSize = 0 := by
    intro n h0
    rw [(h.out n).1, ctrlMps, if_neg h0]
  simp only [HidIf.epNum, HidIf.reportSize] at hm hk
  simp [usbVAllocateEPs.pma, withBuffers, usbVAllocateEPs.buffers, usbVAllocateEPs.buffer, withRegs,
    UsbDevice.setIn, UsbDevice.setOut, UsbEp.withReg, List.range_succ, hrest, hout, hm, hk, hin0,
    doubleBuffered, evenMps, ctrlMps, bdtTxAddr, bdtRxAddr, HID_MS_REPORT_BYTE, HID_KB_REPORT_BYTE,
    HID_KB_REPORT_RAW_BYTE, USBD_EP0_MAX_PACKET_SIZE]

/-- `USB_vAllocateEPs` on this device. -/
theorem Mounted.allocateEPs {dev : UsbDevice} (h : Mounted dev) :
    usbVAllocateEPs dev = { withRegs dev with pma := withBuffers dev.pma } := by
  rw [usbVAllocateEPs, h.regs]
  dsimp only
  rw [if_pos (by decide), h.buffers]

/-- An endpoint that has its register already stays as it is. -/
theorem withReg_of_eq {ep : UsbEp} {regId : Nat} (h : ep.regId = regId) : ep.withReg regId = ep := by
  subst h
  rfl

/-- A second allocation changes nothing. -/
theorem Allocated.allocateEPs {dev : UsbDevice} (h : Allocated dev) : usbVAllocateEPs dev = dev := by
  have hin0 := (h.tables.inRest 0 HidIf.zero_ne_epNum).regId
  have hm : (dev.epIn 5).regId = 1 := (h.tables.report .hidMsIf).regId
  have hk : (dev.epIn 7).regId = 2 := (h.tables.report .hidKbIf).regId
  have hregs : withRegs dev = dev := by
    simp [withRegs, UsbDevice.setIn, UsbDevice.setOut, withReg_of_eq (h.tables.out 0).regId,
      withReg_of_eq hin0, withReg_of_eq hm, withReg_of_eq hk]
  have hpma : withBuffers dev.pma = dev.pma := by
    funext i
    have h0 : dev.pma 0 = 48 := h.layout.txAddr
    have h2 : dev.pma 2 = 48 := h.layout.rxAddr
    have h4 : dev.pma 4 = 112 := h.layout.report .hidMsIf
    have h8 : dev.pma 8 = 118 := h.layout.report .hidKbIf
    simp only [withBuffers, Pma.set]
    split_ifs with h8' h4' h2' h0' <;> simp [*]
  rw [h.tables.mounted.allocateEPs, hregs, hpma]

/-- Opening the control endpoint leaves the report endpoints. -/
theorem framed_prvCtrlEpOpen (dev : UsbDevice) : UsbFramed dev (usbPrvCtrlEpOpen dev) := by
  intro h
  have hmps : (dev.epOut 0).maxPacketSize = 64 := (h.tables.out 0).maxPacketSize
  suffices hf : UsbFramed dev (usbPrvCtrlEpOpen dev) from hf h
  rw [usbPrvCtrlEpOpen]
  refine UsbFramed.after (framed_setStatus0 _ _ _) ?_
  refine UsbFramed.after (framed_toggleClear0 _ _) ?_
  refine UsbFramed.after
    (framed_setPma fun hp => ⟨fun i _ hi _ => Pma.set_of_ne _ hi _, hp.set_rxCount hmps.le⟩) ?_
  refine UsbFramed.after (framed_setStatus0 _ _ _) ?_
  refine UsbFramed.after (framed_toggleClear0 _ _) ?_
  refine UsbFramed.after
    (framed_setPma fun hp => ⟨fun i hi _ _ => Pma.set_of_ne _ hi _, hp.set_txCount (n := 0)
      (Nat.zero_le 64)⟩) ?_
  refine UsbFramed.after (framed_setEpr0 fun e he => ?_) ?_
  · rw [ea_setAddress, he]
    decide
  exact framed_setEpr0 fun e he => (ea_setType e _).trans he

/-- So does `USB_vCtrlEpOpen`. -/
theorem framed_ctrlEpOpen (dev : UsbDevice) : UsbFramed dev (usbVCtrlEpOpen dev) := by
  intro h
  rw [usbVCtrlEpOpen, h.allocateEPs]
  exact framed_prvCtrlEpOpen dev h

/-! ### The first bus reset -/

/-- The device before its first bus reset: nothing is configured, no register is in use. -/
structure Fresh (dev : UsbDevice) : Prop where
  ifs : IfsMounted dev.ifs
  mounted : Mounted dev
  inEp : ∀ n, (dev.epIn n).regId = 0 ∧ (dev.epIn n).progress = 0 ∧ (dev.epIn n).state = .closed
  outEp : ∀ n, (dev.epOut n).regId = 0
  epr : ∀ r, dev.epr r = 0
  configSelector : dev.configSelector = 0

/-- The handle of a report endpoint after `usb_device_init`. -/
def mountedEp (itf : HidIf) : UsbEp :=
  { usbEpZero with type := .interrupt, ifNum := itf.index, maxPacketSize := itf.reportSize }

/-- The IN endpoints after `USB_vDevInit`. -/
theorem epIn_usbDeviceInit (pma : Pma) :
    (usbDeviceInit pma).epIn =
      Function.update (Function.update (Function.update (Function.update (fun _ => usbEpZero)
        HidIf.hidKbIf.epNum (mountedEp .hidKbIf)) HidIf.hidMsIf.epNum (mountedEp .hidMsIf))
        0 { usbEpZero with maxPacketSize := 64 }) 0 { usbEpZero with maxPacketSize := 64 } := rfl

/-- The OUT endpoints after it. -/
theorem epOut_usbDeviceInit (pma : Pma) :
    (usbDeviceInit pma).epOut =
      Function.update (Function.update (fun _ => usbEpZero)
        0 { usbEpZero with maxPacketSize := 64 }) 0 { usbEpZero with maxPacketSize := 64 } := rfl

/-- A device just initialised is fresh. -/
theorem fresh_usbDeviceInit (pma : Pma) : Fresh (usbDeviceInit pma) where
  ifs := rfl
  mounted := by
    refine ⟨fun itf => ?_, fun n hn => ?_, fun n => ?_⟩
    · rw [epIn_usbDeviceInit]
      cases itf <;> exact ⟨rfl, rfl⟩
    · have h7 : n ≠ HidIf.hidKbIf.epNum := hn .hidKbIf
      have h5 : n ≠ HidIf.hidMsIf.epNum := hn .hidMsIf
      rw [epIn_usbDeviceInit, Function.update_idem]
      by_cases h0 : n = 0
      · subst h0
        exact ⟨rfl, rfl⟩
      · rw [Function.update_of_ne h0, Function.update_of_ne h5, Function.update_of_ne h7, ctrlMps,
          if_neg h0]
        exact ⟨rfl, rfl⟩
    · rw [epOut_usbDeviceInit, Function.update_idem]
      by_cases h0 : n = 0
      · subst h0
        exact ⟨rfl, rfl⟩
      · rw [Function.update_of_ne h0, ctrlMps, if_neg h0]
        exact ⟨rfl, rfl⟩
  inEp n := by
    rw [epIn_usbDeviceInit]
    simp only [Function.update_apply]
    split_ifs <;> exact ⟨rfl, rfl, rfl⟩
  outEp n := by
    rw [epOut_usbDeviceInit]
    simp only [Function.update_apply]
    split_ifs <;> rfl
  epr _ := rfl
  configSelector := rfl

/-- The first allocation. The counts are not part of it, so any will do. -/
theorem Fresh.allocated {dev : UsbDevice} (h : Fresh dev) :
    Allocated ((usbVAllocateEPs dev).setPma fun p =>
      (p.set (bdtTxCount 0) 0).set (bdtRxCount 0) 0) := by
  rw [h.mounted.allocateEPs]
  have hreg : ∀ n, (dev.epIn n).regId = 0 := fun n => (h.inEp n).1
  -- The tables, then the layout of the packet memory, then the registers, which are all zero.
  refine ⟨⟨h.ifs, ?_, ?_, ?_, ?_⟩, ⟨⟨?_, ?_, ?_⟩, rfl, rfl, ?_⟩, ⟨?_, ?_, ?_, ?_⟩⟩
  · intro itf
    obtain ⟨hm, ht⟩ := h.mounted.report itf
    cases itf <;> exact ⟨hm, ht, rfl⟩
  · intro itf
    have hp := (h.inEp itf.epNum).2.1
    cases itf <;> exact hp
  · intro n hn
    obtain ⟨hm, ht⟩ := h.mounted.inRest n hn
    have h7 : n ≠ 7 := hn .hidKbIf
    have h5 : n ≠ 5 := hn .hidMsIf
    show ((withRegs dev).epIn n).Is (ctrlMps n) .control 0
    -- Of the endpoints with no interface only the control endpoint is used.
    rw [withRegs, UsbDevice.setIn_of_ne _ h7, UsbDevice.setIn_of_ne _ h5]
    by_cases h0 : n = 0
    · subst h0
      rw [UsbDevice.setIn_self]
      exact ⟨hm, ht, rfl⟩
    · rw [UsbDevice.setIn_of_ne _ h0]
      exact ⟨hm, ht, hreg n⟩
  · intro n
    obtain ⟨hm, ht⟩ := h.mounted.out n
    show ((dev.setOut 0 ((dev.epOut 0).withReg 0)).epOut n).Is (ctrlMps n) .control 0
    by_cases h0 : n = 0
    · subst h0
      rw [UsbDevice.setOut_self]
      exact ⟨hm, ht, rfl⟩
    · rw [UsbDevice.setOut_of_ne _ h0]
      exact ⟨hm, ht, h.outEp n⟩
  · show rxCapacity (((withBuffers dev.pma).set 1 0).set 3 0 3) ≤ 64
    rw [Pma.set_self]
    decide
  · show (((withBuffers dev.pma).set 1 0).set 3 0 3 &&& 0x3FF).toNat ≤ 64
    rw [Pma.set_self]
    decide
  · show (((withBuffers dev.pma).set 1 0).set 3 0 1 &&& 0x3FF).toNat ≤ 64
    rw [Pma.set_of_ne _ (by decide), Pma.set_self]
    decide
  · intro itf
    cases itf <;> rfl
  · show (eprFields (dev.epr 0)).ea = 0
    rw [h.epr]
    decide
  · intro itf
    show (eprFields (dev.epr itf.regId)).ea = 0 ∨ _
    rw [h.epr]
    exact .inl (by decide)
  · intro itf
    show (eprHalf .rx (dev.epr itf.regId)).stat = .dis ∧
      (eprHalf .rx (dev.epr itf.regId)).ctr = false
    rw [h.epr]
    decide
  · intro r _
    exact h.epr r

/-- The counts are stored once more. -/
theorem prvCtrlEpOpen_setPma (dev : UsbDevice) :
    usbPrvCtrlEpOpen (dev.setPma fun p => (p.set (bdtTxCount 0) 0).set (bdtRxCount 0) 0) =
      usbPrvCtrlEpOpen dev := by
  simp only [usbPrvCtrlEpOpen, UsbDevice.setPma, UsbDevice.setEpr, UsbDevice.mk.injEq, true_and,
    and_true]
  funext i
  simp only [Pma.set]
  split_ifs <;> rfl

/-- The first bus reset allocates a fresh device. -/
theorem Fresh.ctrlEpOpen {dev : UsbDevice} (h : Fresh dev) : Allocated (usbVCtrlEpOpen dev) := by
  rw [usbVCtrlEpOpen, ← prvCtrlEpOpen_setPma]
  exact (framed_prvCtrlEpOpen _ h.allocated).1

end PikvmHid
