import Mathlib.Data.BitVec

/-!
# `PikvmHid.Include.Stdint`: fixed-width integers and byte buffers

`include/stdint.h`. The unsigned types are bit vectors, so addition wraps and the
bitwise operators are the C ones. A `uint8_t *` argument is a `Buffer`, the bytes at
and past the pointer, and a local array is a `Buffer` whose start value is whatever the
stack holds.
-/

set_option autoImplicit false

namespace PikvmHid

/-- `uint8_t`. -/
abbrev U8 := BitVec 8

/-- `uint16_t`. -/
abbrev U16 := BitVec 16

/-- `uint32_t`. -/
abbrev U32 := BitVec 32

/-- The low byte, `v & 0xff` stored in a `uint8_t`. -/
def lowByte (v : U16) : U8 := (v &&& 0xff).setWidth 8

/-- The high byte, `v >> 8` stored in a `uint8_t`. -/
def highByte (v : U16) : U8 := (v >>> 8).setWidth 8

/-- The bytes behind a `uint8_t *`. -/
abbrev Buffer := Nat → U8

namespace Buffer

/-- The first `n` bytes. -/
def bytes (b : Buffer) (n : Nat) : List U8 := (List.range n).map b

/-- A cleared buffer. -/
def zero : Buffer := fun _ => 0

/-- The store `buf[i] = x`. -/
def set (b : Buffer) (i : Nat) (x : U8) : Buffer := fun j => if j = i then x else b j

/-- The buffer `k` bytes further on, C's `buf + k`. -/
def drop (b : Buffer) (k : Nat) : Buffer := fun i => b (k + i)

/-- The buffer that holds the list, and `rest` behind it. -/
def ofList (l : List U8) (rest : Buffer) : Buffer := fun i => l.getD i (rest i)

/-- As many bytes as asked for are read. -/
@[simp] theorem length_bytes (b : Buffer) (n : Nat) : (b.bytes n).length = n := by
  simp [bytes]

/-- No byte. -/
@[simp] theorem bytes_zero (b : Buffer) : b.bytes 0 = [] := rfl

/-- One byte more, at the end. -/
theorem bytes_succ (b : Buffer) (n : Nat) : b.bytes (n + 1) = b.bytes n ++ [b n] := by
  simp [bytes, List.range_succ]

/-- Nothing to skip. -/
@[simp] theorem drop_zero (b : Buffer) : b.drop 0 = b := funext fun i => congrArg b (Nat.zero_add i)

/-- The bytes from `i` on, the first one apart. -/
theorem bytes_drop_succ (b : Buffer) (i n : Nat) :
    (b.drop i).bytes (n + 1) = b i :: (b.drop (i + 1)).bytes n := by
  simp [bytes, drop, List.range_succ_eq_map, Nat.add_assoc, Nat.add_comm 1]

/-- Two buffers that agree on the first `n` bytes. -/
theorem bytes_congr {a b : Buffer} {n : Nat} (h : ∀ i, i < n → a i = b i) :
    a.bytes n = b.bytes n :=
  List.map_congr_left fun i hi => h i (List.mem_range.mp hi)

/-- A byte that was stored is read back. -/
@[simp] theorem set_self (b : Buffer) (i : Nat) (x : U8) : b.set i x i = x := if_pos rfl

/-- The other bytes stay. -/
@[simp] theorem set_of_ne (b : Buffer) {i j : Nat} (h : j ≠ i) (x : U8) :
    b.set i x j = b j := if_neg h

/-- Fewer bytes. -/
theorem take_bytes (b : Buffer) {m n : Nat} (h : m ≤ n) : (b.bytes n).take m = b.bytes m := by
  rw [bytes, ← List.map_take, List.take_range, Nat.min_eq_left h]
  rfl

/-- The bytes from `m` on. -/
theorem drop_bytes (b : Buffer) (m n : Nat) : (b.bytes n).drop m = (b.drop m).bytes (n - m) := by
  refine List.ext_getElem (by simp) fun i _ _ => ?_
  simp [bytes, drop]

/-- Skipping twice. -/
theorem drop_drop (b : Buffer) (m n : Nat) : (b.drop m).drop n = b.drop (m + n) :=
  funext fun i => congrArg b (Nat.add_assoc m n i).symm

/-- A store past the first `n` bytes does not show in them. -/
theorem bytes_set_of_le (b : Buffer) {n i : Nat} (h : n ≤ i) (x : U8) :
    (b.set i x).bytes n = b.bytes n :=
  bytes_congr fun _ hj => set_of_ne b (by omega) x

/-- A store just behind the first `n` bytes appends. -/
theorem bytes_set_succ (b : Buffer) (n : Nat) (x : U8) :
    (b.set n x).bytes (n + 1) = b.bytes n ++ [x] := by
  rw [bytes_succ, bytes_set_of_le b (Nat.le_refl n), set_self]

/-- The bytes of a list, by index. -/
theorem ofList_apply (l : List U8) (rest : Buffer) {i : Nat} (h : i < l.length) :
    ofList l rest i = l[i] := by
  simp [ofList, h]

/-- The bytes of a list are read back. -/
@[simp] theorem bytes_ofList (l : List U8) (rest : Buffer) :
    (ofList l rest).bytes l.length = l := by
  refine List.ext_getElem (by simp) fun i _ hi => ?_
  simp [bytes, ofList_apply l rest hi]

end Buffer

end PikvmHid
