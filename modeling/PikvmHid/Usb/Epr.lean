import PikvmHid.Include.Stdint
import Mathlib.Tactic.IntervalCases

/-!
# `PikvmHid.Usb.Epr`: the endpoint registers

The word `USB->EPR[n].w` and the macros of `usb/Xpd/xpd_usb.c` that change one field of
it. A write does not store the word: the data toggle and the status bits are flipped by
the ones written to them, a completion flag (`CTR_RX`, `CTR_TX`) is cleared by a zero and
kept by a one, and `SETUP` is read only. `eprWrite` is this effect. It belongs to the
peripheral; the macros only choose the word.

* `eprFields`: the register as a record of its fields. `fields_eprWrite`: a write on the record.
* `fields_setStatus`, `fields_toggle`, `fields_toggleClear`, `fields_flagClear`,
  `fields_setType`, `fields_setAddress`: each macro is the update of one field.
-/

set_option autoImplicit false

namespace PikvmHid

/-! ### The bits -/

abbrev USB_EPADDR_FIELD : U16 := 0x000F
abbrev USB_EPTX_STAT : U16 := 0x0030
abbrev USB_EP_DTOG_TX : U16 := 0x0040
abbrev USB_EP_CTR_TX : U16 := 0x0080
abbrev USB_EP_KIND : U16 := 0x0100
abbrev USB_EP_T_FIELD : U16 := 0x0600
abbrev USB_EP_SETUP : U16 := 0x0800
abbrev USB_EPRX_STAT : U16 := 0x3000
abbrev USB_EP_DTOG_RX : U16 := 0x4000
abbrev USB_EP_CTR_RX : U16 := 0x8000

abbrev USB_EPREG_MASK : U16 :=
  USB_EP_CTR_RX ||| USB_EP_SETUP ||| USB_EP_T_FIELD ||| USB_EP_KIND ||| USB_EP_CTR_TX |||
    USB_EPADDR_FIELD

abbrev USB_EP_T_MASK : U16 := ~~~USB_EP_T_FIELD &&& USB_EPREG_MASK

/-- `USB_EP_TYPE_CONTROL` to `USB_EP_TYPE_INTERRUPT`. -/
inductive EpType where
  | control
  | isochronous
  | bulk
  | interrupt
  deriving DecidableEq, Repr

/-- `usb_ausEpTypeRemap`: the type field of the register. -/
def EpType.remap : EpType → U16
  | .control     => 0x0200
  | .isochronous => 0x0400
  | .bulk        => 0x0000
  | .interrupt   => 0x0600

/-- The two directions of a register, `RX` (OUT) and `TX` (IN). -/
inductive EpHalf where
  | rx
  | tx
  deriving DecidableEq, Repr

/-- The four values of a `STAT` field. -/
inductive EpStatus where
  | dis
  | stall
  | nak
  | valid
  deriving DecidableEq, Repr

/-- `USB_EPRX_DTOGMASK` and `USB_EPTX_DTOGMASK`. -/
def EpHalf.dtogMask : EpHalf → U16
  | .rx => USB_EPRX_STAT ||| USB_EPREG_MASK
  | .tx => USB_EPTX_STAT ||| USB_EPREG_MASK

/-- `USB_EP_RX_DIS` to `USB_EP_TX_VALID`. -/
def EpHalf.status : EpHalf → EpStatus → U16
  | .rx, .dis   => 0x0000
  | .rx, .stall => 0x1000
  | .rx, .nak   => 0x2000
  | .rx, .valid => 0x3000
  | .tx, .dis   => 0x0000
  | .tx, .stall => 0x0010
  | .tx, .nak   => 0x0020
  | .tx, .valid => 0x0030

/-- `USB_EP_DTOG_RX` and `USB_EP_DTOG_TX`. -/
def EpHalf.dtog : EpHalf → U16
  | .rx => USB_EP_DTOG_RX
  | .tx => USB_EP_DTOG_TX

/-- `USB_EP_CTR_RX` and `USB_EP_CTR_TX`. -/
def EpHalf.ctr : EpHalf → U16
  | .rx => USB_EP_CTR_RX
  | .tx => USB_EP_CTR_TX

/-! ### Writing a register -/

/-- The register `e` after the word `w` is written to it. -/
def eprWrite (e w : U16) : U16 :=
  (w &&& (USB_EPADDR_FIELD ||| USB_EP_KIND ||| USB_EP_T_FIELD)) |||
    (e &&& USB_EP_SETUP) |||
    (e &&& w &&& (USB_EP_CTR_RX ||| USB_EP_CTR_TX)) |||
    ((e ^^^ w) &&& (USB_EPRX_STAT ||| USB_EPTX_STAT ||| USB_EP_DTOG_RX ||| USB_EP_DTOG_TX))

/-- The word of `USB_EP_SET_STATUS(EP_ID, DIRECTION, STATUS)` when `r` was read. -/
def setStatusWord (d : EpHalf) (s : EpStatus) (r : U16) : U16 :=
  ((r &&& d.dtogMask) ^^^ d.status s) ||| USB_EP_CTR_RX ||| USB_EP_CTR_TX

/-- The word of `USB_TOGGLE(EP_ID, BIT_NAME)`. -/
def toggleWord (d : EpHalf) (r : U16) : U16 :=
  (r &&& USB_EPREG_MASK) ||| USB_EP_CTR_RX ||| USB_EP_CTR_TX ||| d.dtog

/-- The word of `USB_EP_FLAG_CLEAR(EP_ID, FLAG_NAME)`. -/
def flagClearWord (d : EpHalf) (r : U16) : U16 := r &&& (USB_EPREG_MASK &&& ~~~d.ctr)

/-- The word that sets the type, `(EPR & USB_EP_T_MASK) | usb_ausEpTypeRemap[type]`. -/
def setTypeWord (t : EpType) (r : U16) : U16 := (r &&& USB_EP_T_MASK) ||| t.remap

/-- The word that sets the address, `(EPR & USB_EPREG_MASK) | CTR_RX | CTR_TX | ucEpNum`
with `ucEpNum = ucEpAddress & 0xF`. The address field is in the mask, so the old address
stays in the word. -/
def setAddressWord (epAddr : U8) (r : U16) : U16 :=
  (r &&& USB_EPREG_MASK) ||| USB_EP_CTR_RX ||| USB_EP_CTR_TX ||| (epAddr &&& 0xF).setWidth 16

/-- `USB_EP_SET_STATUS`, when nothing happens between its read and its write. -/
def setStatus (d : EpHalf) (s : EpStatus) (e : U16) : U16 := eprWrite e (setStatusWord d s e)

/-- `USB_TOGGLE`. -/
def toggle (d : EpHalf) (e : U16) : U16 := eprWrite e (toggleWord d e)

/-- `USB_TOGGLE_CLEAR`. -/
def toggleClear (d : EpHalf) (e : U16) : U16 := if e &&& d.dtog ≠ 0 then toggle d e else e

/-- `USB_EP_FLAG_CLEAR`. -/
def flagClear (d : EpHalf) (e : U16) : U16 := eprWrite e (flagClearWord d e)

/-- The store of the endpoint type. -/
def setType (t : EpType) (e : U16) : U16 := eprWrite e (setTypeWord t e)

/-- The store of the endpoint address. -/
def setAddress (epAddr : U8) (e : U16) : U16 := eprWrite e (setAddressWord epAddr e)

/-! ### The fields -/

/-- The status of two bits, the high one first. -/
def EpStatus.ofBits : Bool → Bool → EpStatus
  | false, false => .dis
  | false, true  => .stall
  | true,  false => .nak
  | true,  true  => .valid

/-- The high bit of a status. -/
def EpStatus.hi : EpStatus → Bool
  | .dis => false
  | .stall => false
  | .nak => true
  | .valid => true

/-- The low bit of a status. -/
def EpStatus.lo : EpStatus → Bool
  | .dis => false
  | .stall => true
  | .nak => false
  | .valid => true

/-- The position of the lower `STAT` bit. -/
def EpHalf.pos : EpHalf → Nat
  | .rx => 12
  | .tx => 4

/-- The fields of one direction. -/
structure EprHalf where
  stat : EpStatus
  dtog : Bool
  ctr : Bool
  deriving DecidableEq, Repr

/-- The fields of a register. -/
structure EprFields where
  ea : BitVec 4
  kind : Bool
  type : BitVec 2
  setup : Bool
  rx : EprHalf
  tx : EprHalf
  deriving DecidableEq, Repr

/-- The fields of one direction of the word. -/
def eprHalf (d : EpHalf) (e : U16) : EprHalf where
  stat := .ofBits (e.getLsbD (d.pos + 1)) (e.getLsbD d.pos)
  dtog := e.getLsbD (d.pos + 2)
  ctr := e.getLsbD (d.pos + 3)

/-- The fields of the word. -/
def eprFields (e : U16) : EprFields where
  ea := e.extractLsb' 0 4
  kind := e.getLsbD 8
  type := e.extractLsb' 9 2
  setup := e.getLsbD 11
  rx := eprHalf .rx e
  tx := eprHalf .tx e

/-- One direction of the record. -/
def EprFields.half (f : EprFields) : EpHalf → EprHalf
  | .rx => f.rx
  | .tx => f.tx

/-- The record with one direction changed. -/
def EprFields.setHalf (f : EprFields) (d : EpHalf) (h : EprHalf) : EprFields :=
  match d with
  | .rx => { f with rx := h }
  | .tx => { f with tx := h }

/-- The other direction. -/
def EpHalf.other : EpHalf → EpHalf
  | .rx => .tx
  | .tx => .rx

/-- Status bits flipped by status bits. -/
def EpStatus.xor (a b : EpStatus) : EpStatus := .ofBits (a.hi ^^ b.hi) (a.lo ^^ b.lo)

/-- The type field of the register. -/
def EpType.field : EpType → BitVec 2
  | .control     => 1
  | .isochronous => 2
  | .bulk        => 0
  | .interrupt   => 3

/-- The half that was set is read back. -/
@[simp] theorem half_setHalf (f : EprFields) (d : EpHalf) (h : EprHalf) :
    (f.setHalf d h).half d = h := by cases d <;> rfl

/-- The other half is untouched. -/
@[simp] theorem half_setHalf_other (f : EprFields) (d : EpHalf) (h : EprHalf) :
    (f.setHalf d h).half d.other = f.half d.other := by cases d <;> rfl

/-- The halves of a decoded register are the ones `eprHalf` reads. -/
@[simp] theorem half_eprFields (e : U16) (d : EpHalf) : (eprFields e).half d = eprHalf d e := by
  cases d <;> rfl

/-- `DIS` is `00`. -/
@[simp] theorem hi_dis : EpStatus.dis.hi = false := rfl
@[simp] theorem lo_dis : EpStatus.dis.lo = false := rfl
@[simp] theorem hi_stall : EpStatus.stall.hi = false := rfl
@[simp] theorem lo_stall : EpStatus.stall.lo = true := rfl
@[simp] theorem hi_nak : EpStatus.nak.hi = true := rfl
@[simp] theorem lo_nak : EpStatus.nak.lo = false := rfl
@[simp] theorem hi_valid : EpStatus.valid.hi = true := rfl
@[simp] theorem lo_valid : EpStatus.valid.lo = true := rfl

/-- The high bit of a status put together from two bits. -/
@[simp] theorem hi_ofBits (a b : Bool) : (EpStatus.ofBits a b).hi = a := by
  cases a <;> cases b <;> rfl

/-- The low bit of it. -/
@[simp] theorem lo_ofBits (a b : Bool) : (EpStatus.ofBits a b).lo = b := by
  cases a <;> cases b <;> rfl

/-- Two clear bits are `DIS`. -/
@[simp] theorem ofBits_false : EpStatus.ofBits false false = .dis := rfl

/-- Toggling no bit changes nothing. -/
@[simp] theorem xor_dis (a : EpStatus) : a.xor .dis = a := by cases a <;> rfl

/-- Toggling is bitwise. -/
theorem xor_ofBits (a b : Bool) (s : EpStatus) :
    (EpStatus.ofBits a b).xor s = .ofBits (a ^^ s.hi) (b ^^ s.lo) := by
  simp [EpStatus.xor]

/-- Flipping by the difference to `s` gives `s`. -/
theorem xor_xor_self (a s : EpStatus) : a.xor (a.xor s) = s := by
  cases a <;> cases s <;> rfl

/-- The fields by their bits. -/
theorem eprFields_eq {e : U16} {f : EprFields}
    (hea : ∀ i, i < 4 → e.getLsbD i = f.ea.getLsbD i)
    (hkind : e.getLsbD 8 = f.kind)
    (htype : ∀ i, i < 2 → e.getLsbD (9 + i) = f.type.getLsbD i)
    (hsetup : e.getLsbD 11 = f.setup)
    (hrx : eprHalf .rx e = f.rx) (htx : eprHalf .tx e = f.tx) : eprFields e = f := by
  obtain ⟨ea, kind, type, setup, rx, tx⟩ := f
  simp only [eprFields, EprFields.mk.injEq]
  refine ⟨BitVec.eq_of_getLsbD_eq fun i hi => ?_, hkind, BitVec.eq_of_getLsbD_eq fun i hi => ?_,
    hsetup, hrx, htx⟩
  · simpa [hi] using hea i hi
  · simpa [hi] using htype i hi

/-- The test of a completion flag. -/
theorem and_ctr_ne_zero_iff (d : EpHalf) (e : U16) : e &&& d.ctr ≠ 0 ↔ (eprHalf d e).ctr = true := by
  have hbit : d.ctr = BitVec.twoPow 16 (d.pos + 3) := by cases d <;> decide
  have hne : BitVec.twoPow 16 (d.pos + 3) ≠ 0 := by cases d <;> decide
  rw [hbit, BitVec.and_twoPow]
  simp only [eprHalf]
  cases e.getLsbD (d.pos + 3) with
  | false => simp
  | true => simpa using hne

/-- The number read from the address field. -/
theorem toNat_and_epaddr (e : U16) : (e &&& USB_EPADDR_FIELD).toNat = (eprFields e).ea.toNat := by
  simp [eprFields, BitVec.extractLsb'_toNat, Nat.and_two_pow_sub_one_eq_mod _ 4]

/-! ### A write, field by field -/

/-- A write of `w` to one direction: the status and the toggle are flipped, the flag is kept
where a one is written. -/
def EprHalf.write (h w : EprHalf) : EprHalf :=
  { stat := h.stat.xor w.stat, dtog := h.dtog ^^ w.dtog, ctr := h.ctr && w.ctr }

/-- A write of the fields `w` to the register `f`. -/
def EprFields.write (f w : EprFields) : EprFields :=
  { ea := w.ea, kind := w.kind, type := w.type, setup := f.setup
    rx := f.rx.write w.rx, tx := f.tx.write w.tx }

/-- A write to a register, as the hardware takes it, field by field. -/
theorem fields_eprWrite (e w : U16) :
    eprFields (eprWrite e w) = (eprFields e).write (eprFields w) := by
  refine eprFields_eq (fun i hi => ?_) ?_ (fun i hi => ?_) ?_ ?_ ?_
  case refine_1 => interval_cases i <;> simp [eprFields, EprFields.write, eprWrite]
  case refine_3 => interval_cases i <;> simp [eprFields, EprFields.write, eprWrite]
  all_goals
    simp [eprFields, eprHalf, EprFields.write, EprHalf.write, EpStatus.xor, eprWrite, EpHalf.pos]

/-! ### The words of the macros -/

/-- A word that flips nothing and clears no flag, with the other fields of `f`. -/
def EprFields.still (f : EprFields) : EprFields :=
  { f with rx := ⟨.dis, false, true⟩, tx := ⟨.dis, false, true⟩ }

/-- The word `USB_EP_STATUS_SET` writes: the difference of the statuses, and 1 to both `CTR` bits.
-/
theorem fields_setStatusWord (d : EpHalf) (s : EpStatus) (r : U16) :
    eprFields (setStatusWord d s r) =
      (eprFields r).still.setHalf d ⟨(eprHalf d r).stat.xor s, false, true⟩ := by
  refine eprFields_eq (fun i hi => ?_) ?_ (fun i hi => ?_) ?_ ?_ ?_
  case refine_1 => interval_cases i <;> cases d <;> cases s <;>
    simp [setStatusWord, EpHalf.dtogMask, EpHalf.status, EprFields.setHalf, EprFields.still,
      eprFields]
  case refine_3 => interval_cases i <;> cases d <;> cases s <;>
    simp [setStatusWord, EpHalf.dtogMask, EpHalf.status, EprFields.setHalf, EprFields.still,
      eprFields]
  all_goals
    cases d <;> cases s <;>
      simp [setStatusWord, EpHalf.dtogMask, EpHalf.status, eprHalf, EpHalf.pos, EprFields.setHalf,
        EprFields.still, xor_ofBits, eprFields]

/-- The word `USB_TOGGLE` writes. -/
theorem fields_toggleWord (d : EpHalf) (r : U16) :
    eprFields (toggleWord d r) = (eprFields r).still.setHalf d ⟨.dis, true, true⟩ := by
  refine eprFields_eq (fun i hi => ?_) ?_ (fun i hi => ?_) ?_ ?_ ?_
  case refine_1 => interval_cases i <;> cases d <;>
    simp [toggleWord, EpHalf.dtog, EprFields.setHalf, EprFields.still, eprFields]
  case refine_3 => interval_cases i <;> cases d <;>
    simp [toggleWord, EpHalf.dtog, EprFields.setHalf, EprFields.still, eprFields]
  all_goals
    cases d <;>
      simp [toggleWord, EpHalf.dtog, eprHalf, EpHalf.pos, EprFields.setHalf, EprFields.still,
        eprFields]

/-- The word `USB_EP_FLAG_CLEAR` writes: it repeats what was read of the other half. -/
theorem fields_flagClearWord (d : EpHalf) (r : U16) :
    eprFields (flagClearWord d r) =
      { eprFields r with
        rx := ⟨.dis, false, d = .tx && (eprHalf .rx r).ctr⟩
        tx := ⟨.dis, false, d = .rx && (eprHalf .tx r).ctr⟩ } := by
  refine eprFields_eq (fun i hi => ?_) ?_ (fun i hi => ?_) ?_ ?_ ?_
  case refine_1 => interval_cases i <;> cases d <;>
    simp [flagClearWord, EpHalf.ctr, eprFields]
  case refine_3 => interval_cases i <;> cases d <;>
    simp [flagClearWord, EpHalf.ctr, eprFields]
  all_goals
    cases d <;> simp [flagClearWord, EpHalf.ctr, eprHalf, EpHalf.pos, eprFields]

/-- The word `USB_EP_TYPE_SET` writes. -/
theorem fields_setTypeWord (t : EpType) (r : U16) :
    eprFields (setTypeWord t r) =
      { eprFields r with
        type := t.field
        rx := ⟨.dis, false, (eprHalf .rx r).ctr⟩
        tx := ⟨.dis, false, (eprHalf .tx r).ctr⟩ } := by
  refine eprFields_eq (fun i hi => ?_) ?_ (fun i hi => ?_) ?_ ?_ ?_
  case refine_1 => interval_cases i <;> cases t <;>
    simp [setTypeWord, EpType.remap, eprFields]
  case refine_3 => interval_cases i <;> cases t <;>
    simp [setTypeWord, EpType.remap, EpType.field]
  all_goals
    cases t <;> simp [setTypeWord, EpType.remap, eprHalf, EpHalf.pos, eprFields]

/-- The word `USB_EP_ADDRESS_SET` writes. It adds to the address that was there. -/
theorem fields_setAddressWord (epAddr : U8) (r : U16) :
    eprFields (setAddressWord epAddr r) =
      { (eprFields r).still with ea := (eprFields r).ea ||| epAddr.setWidth 4 } := by
  refine eprFields_eq (fun i hi => ?_) ?_ (fun i hi => ?_) ?_ ?_ ?_
  case refine_1 => interval_cases i <;> simp [setAddressWord, eprFields]
  case refine_3 => interval_cases i <;> simp [setAddressWord, eprFields, EprFields.still]
  all_goals
    simp [setAddressWord, eprHalf, EpHalf.pos, eprFields, EprFields.still]

/-! ### The macros, field by field -/

/-- Nothing flipped, no flag cleared. -/
@[simp] theorem write_still (h : EprHalf) : h.write ⟨.dis, false, true⟩ = h := by
  simp [EprHalf.write]

/-- `USB_EP_STATUS_SET` sets the status of its half. -/
theorem fields_setStatus (d : EpHalf) (s : EpStatus) (e : U16) :
    eprFields (setStatus d s e) = (eprFields e).setHalf d { eprHalf d e with stat := s } := by
  rw [setStatus, fields_eprWrite, fields_setStatusWord]
  cases d <;>
    simp [EprFields.write, EprFields.setHalf, EprFields.still, EprHalf.write, xor_xor_self, eprFields]

/-- `USB_TOGGLE` inverts the data toggle of its half. -/
theorem fields_toggle (d : EpHalf) (e : U16) :
    eprFields (toggle d e) =
      (eprFields e).setHalf d { eprHalf d e with dtog := !(eprHalf d e).dtog } := by
  rw [toggle, fields_eprWrite, fields_toggleWord]
  cases d <;>
    simp [EprFields.write, EprFields.setHalf, EprFields.still, EprHalf.write, eprFields]

/-- The test of `USB_TOGGLE_CLEAR` reads the toggle. -/
theorem and_dtog_eq_zero_iff (d : EpHalf) (e : U16) :
    e &&& d.dtog = 0 ↔ (eprHalf d e).dtog = false := by
  have hbit : d.dtog = BitVec.twoPow 16 (d.pos + 2) := by cases d <;> decide
  have hne : BitVec.twoPow 16 (d.pos + 2) ≠ 0 := by cases d <;> decide
  rw [hbit, BitVec.and_twoPow]
  simp only [eprHalf]
  cases e.getLsbD (d.pos + 2) with
  | false => simp
  | true => simpa using hne

/-- `USB_TOGGLE_CLEAR` ends with the data toggle at 0. -/
theorem fields_toggleClear (d : EpHalf) (e : U16) :
    eprFields (toggleClear d e) = (eprFields e).setHalf d { eprHalf d e with dtog := false } := by
  by_cases h : e &&& d.dtog = 0
  · have hd := (and_dtog_eq_zero_iff d e).mp h
    rw [toggleClear, if_neg (not_not.mpr h)]
    cases d <;> simp [EprFields.setHalf, eprFields, ← hd]
  · have hd : (eprHalf d e).dtog = true := by
      simpa using mt (and_dtog_eq_zero_iff d e).mpr h
    rw [toggleClear, if_pos h, fields_toggle, hd, Bool.not_true]

/-- `USB_EP_FLAG_CLEAR` takes the completion of its half, if no transaction comes in between. -/
theorem fields_flagClear (d : EpHalf) (e : U16) :
    eprFields (flagClear d e) = (eprFields e).setHalf d { eprHalf d e with ctr := false } := by
  rw [flagClear, fields_eprWrite, fields_flagClearWord]
  cases d <;> simp [EprFields.write, EprFields.setHalf, EprHalf.write, eprFields]

/-- `USB_EP_TYPE_SET` sets the type. -/
theorem fields_setType (t : EpType) (e : U16) :
    eprFields (setType t e) = { eprFields e with type := t.field } := by
  rw [setType, fields_eprWrite, fields_setTypeWord]
  simp [EprFields.write, EprHalf.write, eprFields]

/-- `USB_EP_ADDRESS_SET` ors the address in. -/
theorem fields_setAddress (epAddr : U8) (e : U16) :
    eprFields (setAddress epAddr e) =
      { eprFields e with ea := (eprFields e).ea ||| epAddr.setWidth 4 } := by
  rw [setAddress, fields_eprWrite, fields_setAddressWord]
  simp [EprFields.write, EprFields.still, eprFields]

section
variable (d : EpHalf) (s : EpStatus) (e : U16)

/-- The address is in neither half. -/
@[simp] theorem ea_setHalf (f : EprFields) (h : EprHalf) : (f.setHalf d h).ea = f.ea := by
  cases d <;> rfl

/-- `USB_EP_STATUS_SET` keeps the address. -/
@[simp] theorem ea_setStatus : (eprFields (setStatus d s e)).ea = (eprFields e).ea := by
  rw [fields_setStatus, ea_setHalf]

/-- `USB_TOGGLE_CLEAR` keeps the address. -/
@[simp] theorem ea_toggleClear : (eprFields (toggleClear d e)).ea = (eprFields e).ea := by
  rw [fields_toggleClear, ea_setHalf]

/-- `USB_EP_FLAG_CLEAR` keeps the address. -/
@[simp] theorem ea_flagClear : (eprFields (flagClear d e)).ea = (eprFields e).ea := by
  rw [fields_flagClear, ea_setHalf]

/-- `USB_EP_TYPE_SET` keeps the address. -/
@[simp] theorem ea_setType (t : EpType) : (eprFields (setType t e)).ea = (eprFields e).ea := by
  rw [fields_setType]

/-- `USB_EP_ADDRESS_SET` adds to the address. -/
@[simp] theorem ea_setAddress (epAddr : U8) :
    (eprFields (setAddress epAddr e)).ea = (eprFields e).ea ||| epAddr.setWidth 4 := by
  rw [fields_setAddress]

/-- Reading either half after one was set. -/
theorem half_setHalf_eq (f : EprFields) (d' : EpHalf) (h : EprHalf) :
    (f.setHalf d h).half d' = if d' = d then h else f.half d' := by
  cases d <;> cases d' <;> rfl

/-- `USB_EP_STATUS_SET`, read half by half. -/
@[simp] theorem eprHalf_setStatus (d' : EpHalf) :
    eprHalf d' (setStatus d s e) =
      if d' = d then { eprHalf d e with stat := s } else eprHalf d' e := by
  rw [← half_eprFields, fields_setStatus, half_setHalf_eq, half_eprFields]

/-- `USB_TOGGLE_CLEAR`, read half by half. -/
@[simp] theorem eprHalf_toggleClear (d' : EpHalf) :
    eprHalf d' (toggleClear d e) =
      if d' = d then { eprHalf d e with dtog := false } else eprHalf d' e := by
  rw [← half_eprFields, fields_toggleClear, half_setHalf_eq, half_eprFields]

/-- `USB_EP_FLAG_CLEAR`, read half by half. -/
@[simp] theorem eprHalf_flagClear (d' : EpHalf) :
    eprHalf d' (flagClear d e) =
      if d' = d then { eprHalf d e with ctr := false } else eprHalf d' e := by
  rw [← half_eprFields, fields_flagClear, half_setHalf_eq, half_eprFields]

/-- `USB_EP_TYPE_SET` leaves both halves. -/
@[simp] theorem eprHalf_setType (t : EpType) (d' : EpHalf) :
    eprHalf d' (setType t e) = eprHalf d' e := by
  rw [← half_eprFields, fields_setType]
  cases d' <;> rfl

/-- `USB_EP_ADDRESS_SET` leaves both halves. -/
@[simp] theorem eprHalf_setAddress (epAddr : U8) (d' : EpHalf) :
    eprHalf d' (setAddress epAddr e) = eprHalf d' e := by
  rw [← half_eprFields, fields_setAddress]
  cases d' <;> rfl

end

end PikvmHid
