import Mathlib.Data.Nat.Digits.Defs

/-!
# `PikvmHid.Lib.HidDescriptor`: HID report descriptors

A report descriptor is a list of short items. A prefix byte says what the item is and how
many data bytes follow. Global items set the range, the size and the number of the fields to
come, and an `INPUT` item declares these fields. An input report is the fields one behind the
other, from the lowest bit of its first byte on. Report ids and the item stack are left out:
a descriptor that has them has no fields here.

* `items`, `fields`: the descriptor, read item by item.
* `Describes`: a report has the size of the fields, its constant fields are zero, and the
  others are in their range.
* `accepts_cons`, `accepts_replicate_byte`, `accepts_replicate_bit`: reading a report field by
  field.
-/

set_option autoImplicit false

namespace Lib.HidDescriptor

/-! ### Items -/

/-- A short item: its prefix without the two size bits, and its data. -/
structure Item where
  key : Nat
  data : List (BitVec 8)
  deriving DecidableEq, Repr

/-- The items of a descriptor, if the last one is complete. -/
def items : List (BitVec 8) → Option (List Item)
  | []        => some []
  | p :: rest =>
      let item := Item.mk (p.toNat / 4 * 4)
      match p.toNat % 4, rest with
      | 0, rest                     => (items rest).map (item [] :: ·)
      | 1, a :: rest                => (items rest).map (item [a] :: ·)
      | 2, a :: b :: rest           => (items rest).map (item [a, b] :: ·)
      | 3, a :: b :: c :: d :: rest => (items rest).map (item [a, b, c, d] :: ·)
      | _, _                        => none

/-- The number that the bytes stand for, lowest byte first. -/
def unsigned (bytes : List (BitVec 8)) : Nat := Nat.ofDigits 256 (bytes.map BitVec.toNat)

/-- The same in two's complement. -/
def signed (bytes : List (BitVec 8)) : Int :=
  (BitVec.ofNat (8 * bytes.length) (unsigned bytes)).toInt

/-! ### Fields -/

/-- The global items in force. -/
structure Globals where
  logicalMin : Int
  logicalMax : Int
  reportSize : Nat
  reportCount : Nat

/-- A field of the input report. -/
structure Field where
  size : Nat
  min : Int
  max : Int
  const : Bool
  deriving DecidableEq, Repr

/-- The fields that an `INPUT` item declares. -/
def Globals.input (g : Globals) (data : List (BitVec 8)) : List Field :=
  List.replicate g.reportCount
    ⟨g.reportSize, g.logicalMin, g.logicalMax, (unsigned data).testBit 0⟩

/-- The fields of the items, from the lowest bit of the report on. -/
def fieldsFrom : Globals → List Item → Option (List Field)
  | _, []         => some []
  | g, i :: rest  =>
      match i.key with
      | 0x14               => fieldsFrom { g with logicalMin := signed i.data } rest
      | 0x24               => fieldsFrom { g with logicalMax := signed i.data } rest
      | 0x74               => fieldsFrom { g with reportSize := unsigned i.data } rest
      | 0x94               => fieldsFrom { g with reportCount := unsigned i.data } rest
      | 0x80               => (fieldsFrom g rest).map (g.input i.data ++ ·)
      -- REPORT_ID, PUSH, POP
      | 0x84 | 0xA4 | 0xB4 => none
      | _                  => fieldsFrom g rest

/-- The fields of a descriptor. -/
def fields (descriptor : List (BitVec 8)) : Option (List Field) :=
  (items descriptor).bind (fieldsFrom ⟨0, 0, 0, 0⟩)

/-! ### Reports -/

namespace Field

/-- The value of a field with these bits. A negative minimum makes it signed. -/
def value (f : Field) (bits : Nat) : Int :=
  if f.min < 0 then (BitVec.ofNat f.size bits).toInt else bits

/-- The bits may stand in the field. -/
def Accepts (f : Field) (bits : Nat) : Prop :=
  if f.const then bits = 0 else f.min ≤ f.value bits ∧ f.value bits ≤ f.max

instance (f : Field) (bits : Nat) : Decidable (f.Accepts bits) :=
  inferInstanceAs (Decidable (ite _ _ _))

end Field

/-- The bits of a report may stand in the fields. -/
def Accepts : List Field → Nat → Prop
  | [],      _ => True
  | f :: fs, n => f.Accepts (n % 2 ^ f.size) ∧ Accepts fs (n / 2 ^ f.size)

instance decidableAccepts : ∀ (fs : List Field) (n : Nat), Decidable (Accepts fs n)
  | [],      _ => isTrue trivial
  | f :: fs, n =>
      have := decidableAccepts fs (n / 2 ^ f.size)
      inferInstanceAs (Decidable (f.Accepts _ ∧ _))

/-- The report has the size of the fields, and its bits may stand in them. -/
structure Describes (fs : List Field) (report : List (BitVec 8)) : Prop where
  size_eq : 8 * report.length = (fs.map Field.size).sum
  accepts : Accepts fs (unsigned report)

/-- The bytes of an item come with the low one first. -/
theorem unsigned_cons (b : BitVec 8) (bytes : List (BitVec 8)) :
    unsigned (b :: bytes) = b.toNat + 2 ^ 8 * unsigned bytes := by
  rw [unsigned, List.map_cons, Nat.ofDigits_cons]
  rfl

/-- The lowest field, and the fields behind it. -/
theorem accepts_cons (f : Field) (fs : List Field) {low : Nat} (h : low < 2 ^ f.size)
    (high : Nat) :
    Accepts (f :: fs) (low + 2 ^ f.size * high) ↔ f.Accepts low ∧ Accepts fs high := by
  have hmod : (low + 2 ^ f.size * high) % 2 ^ f.size = low := by
    rw [Nat.add_mul_mod_self_left, Nat.mod_eq_of_lt h]
  have hdiv : (low + 2 ^ f.size * high) / 2 ^ f.size = high := by
    rw [Nat.add_mul_div_left _ _ (Nat.two_pow_pos _), Nat.div_eq_of_lt h, Nat.zero_add]
  rw [Accepts, hmod, hdiv]

/-- A field of one byte, and the bytes behind it. -/
theorem accepts_byte (f : Field) (h : f.size = 8) (fs : List Field) (b : BitVec 8)
    (bytes : List (BitVec 8)) :
    Accepts (f :: fs) (unsigned (b :: bytes))
      ↔ f.Accepts b.toNat ∧ Accepts fs (unsigned bytes) := by
  rw [unsigned_cons, ← accepts_cons f fs (by rw [h]; exact b.isLt), h]

/-- Fields of one byte each. -/
theorem accepts_replicate_byte (f : Field) (h : f.size = 8) (bytes : List (BitVec 8)) :
    Accepts (List.replicate bytes.length f) (unsigned bytes)
      ↔ ∀ b ∈ bytes, f.Accepts b.toNat := by
  induction bytes with
  | nil => exact iff_of_true trivial nofun
  | cons b bytes ih =>
      rw [List.length_cons, List.replicate_succ, accepts_byte f h, ih, List.forall_mem_cons]

/-- A field of two bytes. -/
theorem accepts_word (f : Field) (h : f.size = 16) (fs : List Field) (lo hi : BitVec 8)
    (bytes : List (BitVec 8)) :
    Accepts (f :: fs) (unsigned (lo :: hi :: bytes))
      ↔ f.Accepts (hi ++ lo : BitVec 16).toNat ∧ Accepts fs (unsigned bytes) := by
  have hword : unsigned (lo :: hi :: bytes)
      = (hi ++ lo : BitVec 16).toNat + 2 ^ 16 * unsigned bytes := by
    rw [unsigned_cons, unsigned_cons, BitVec.toNat_append,
      ← Nat.shiftLeft_add_eq_or_of_lt lo.isLt, Nat.shiftLeft_eq]
    ring
  rw [hword, ← accepts_cons f fs (by rw [h]; exact (hi ++ lo : BitVec 16).isLt), h]

/-- Single bits take any value. -/
theorem accepts_replicate_bit (k : Nat) (fs : List Field) (n : Nat) :
    Accepts (List.replicate k ⟨1, 0, 1, false⟩ ++ fs) n ↔ Accepts fs (n / 2 ^ k) := by
  induction k generalizing n with
  | zero => simp
  | succ k ih =>
      have hbit : Field.Accepts ⟨1, 0, 1, false⟩ (n % 2 ^ 1) := by
        show (0 : Int) ≤ (n % 2 ^ 1 : Nat) ∧ ((n % 2 ^ 1 : Nat) : Int) ≤ 1
        omega
      rw [List.replicate_succ, List.cons_append, Accepts, and_iff_right hbit, ih,
        Nat.div_div_eq_div_mul, ← Nat.pow_add, Nat.add_comm 1 k]

/-- A signed field of one byte. -/
theorem Field.accepts_signed_byte {min max : Int} (h : min < 0) (b : BitVec 8) :
    Field.Accepts ⟨8, min, max, false⟩ b.toNat ↔ min ≤ b.toInt ∧ b.toInt ≤ max := by
  simp [Field.Accepts, Field.value, h]

end Lib.HidDescriptor
