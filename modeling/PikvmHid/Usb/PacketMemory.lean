import PikvmHid.Include.Stdint
import Mathlib.Tactic.IntervalCases

/-!
# `PikvmHid.Usb.PacketMemory`: the packet memory

The memory the processor shares with the USB peripheral, 256 halfwords, and the functions of
`usb/Xpd/xpd_usb.c` that copy packets: `USB_prvWritePMA`, `USB_prvReadPMA`,
`USB_prvConvertRxCount`. The processor sees one halfword in each 32-bit word; the peripheral
counts bytes, so the halfword `i` is its bytes `2 i` and `2 i + 1`. The buffer descriptor
table lies at the start, four halfwords an entry.

* `byte_writePMA`: a written packet is what the peripheral sees, and only its halfwords change.
* `readPMA_eq_packet`: a packet is read as the peripheral stored it.
* `rxCapacity_convertRxCount`: the receive buffer the peripheral is told of.
-/

set_option autoImplicit false

namespace PikvmHid

/-! ### Halfwords -/

/-- `((uint16_t)hi << 8) | (uint16_t)lo`. -/
def halfword (lo hi : U8) : U16 := hi.setWidth 16 <<< 8 ||| lo.setWidth 16

/-- The low byte of a halfword put together from two. -/
@[simp] theorem lowByte_halfword (lo hi : U8) : lowByte (halfword lo hi) = lo := by
  apply BitVec.eq_of_getLsbD_eq
  intro i hi'
  interval_cases i <;> simp [lowByte, halfword]

/-- The high byte of it. -/
@[simp] theorem highByte_halfword (lo hi : U8) : highByte (halfword lo hi) = hi := by
  apply BitVec.eq_of_getLsbD_eq
  intro i hi'
  interval_cases i <;> simp [highByte, halfword]

/-- A halfword is its two bytes. -/
@[simp] theorem halfword_bytes (v : U16) : halfword (lowByte v) (highByte v) = v := by
  apply BitVec.eq_of_getLsbD_eq
  intro i hi
  interval_cases i <;> simp [lowByte, highByte, halfword]

/-- The packet memory, by halfwords. -/
abbrev Pma := Nat → U16

namespace Pma

/-- The store of a halfword. -/
def set (p : Pma) (i : Nat) (v : U16) : Pma := fun j => if j = i then v else p j

/-- A halfword that was stored is read back. -/
@[simp] theorem set_self (p : Pma) (i : Nat) (v : U16) : p.set i v i = v := if_pos rfl

/-- The other halfwords stay. -/
@[simp] theorem set_of_ne (p : Pma) {i j : Nat} (h : j ≠ i) (v : U16) : p.set i v j = p j :=
  if_neg h

/-- The byte the peripheral finds at its address `a`. -/
def byte (p : Pma) (a : Nat) : U8 := if a % 2 = 0 then lowByte (p (a / 2)) else highByte (p (a / 2))

/-- The `n` bytes the peripheral finds from its address `a` on. -/
def packet (p : Pma) (a n : Nat) : List U8 := (List.range n).map fun i => p.byte (a + i)

/-- The byte at an even address is a low byte. -/
@[simp] theorem byte_even (p : Pma) (i : Nat) : p.byte (2 * i) = lowByte (p i) := by
  simp [byte]

/-- The byte at an odd address is a high byte. -/
@[simp] theorem byte_odd (p : Pma) (i : Nat) : p.byte (2 * i + 1) = highByte (p i) := by
  rw [byte, if_neg (by omega), show (2 * i + 1) / 2 = i by omega]

/-- A packet has the length it is read with. -/
@[simp] theorem length_packet (p : Pma) (a n : Nat) : (p.packet a n).length = n := by
  simp [packet]

/-- A packet is read byte by byte. -/
theorem packet_succ (p : Pma) (a n : Nat) :
    p.packet a (n + 1) = p.byte a :: p.packet (a + 1) n := by
  simp [packet, List.range_succ_eq_map, Nat.add_assoc, Nat.add_comm 1]

/-- A longer packet is read in two parts. -/
theorem packet_append (p : Pma) (a m n : Nat) :
    p.packet a (m + n) = p.packet a m ++ p.packet (a + m) n := by
  simp [packet, List.range_add, Nat.add_assoc]

/-- Memories with the same bytes there hold the same packet there. -/
theorem packet_congr {p q : Pma} {a n : Nat} (h : ∀ b, a ≤ b → b < a + n → p.byte b = q.byte b) :
    p.packet a n = q.packet a n :=
  List.map_congr_left fun i hi => h (a + i) (Nat.le_add_right a i)
    (Nat.add_lt_add_left (List.mem_range.mp hi) a)

/-- Two bytes stored. -/
theorem byte_set (p : Pma) (i a : Nat) (lo hi : U8) :
    (p.set i (halfword lo hi)).byte a =
      if a = 2 * i then lo else if a = 2 * i + 1 then hi else p.byte a := by
  by_cases h0 : a = 2 * i
  · rw [if_pos h0, h0, byte_even, set_self, lowByte_halfword]
  · rw [if_neg h0]
    by_cases h1 : a = 2 * i + 1
    · rw [if_pos h1, h1, byte_odd, set_self, highByte_halfword]
    · rw [if_neg h1, byte, byte, set_of_ne p (by omega)]

/-- A halfword stored elsewhere does not show. -/
theorem byte_set_of_ne (p : Pma) {i a : Nat} (h : a / 2 ≠ i) (v : U16) :
    (p.set i v).byte a = p.byte a := by
  rw [byte, byte, set_of_ne p h]

end Pma

/-! ### `USB_prvWritePMA` and `USB_prvReadPMA` -/

/-- The loop of `USB_prvWritePMA` with `n` halfwords to go. -/
def usbPrvWritePMA.loop : Nat → Buffer → Nat → Pma → Pma
  | 0,     _,   _,   p => p
  | n + 1, src, dst, p => loop n (src.drop 2) (dst + 1) (p.set dst (halfword (src 0) (src 1)))

/-- `USB_prvWritePMA`. An odd count takes one byte more of the source. -/
def usbPrvWritePMA (src : Buffer) (pmaAddress dataCount : Nat) (p : Pma) : Pma :=
  usbPrvWritePMA.loop ((dataCount + 1) / 2) src (pmaAddress / 2) p

/-- The loop of `USB_prvReadPMA` with `n` halfwords to go. -/
def usbPrvReadPMA.loop (p : Pma) : Nat → Nat → List U8
  | 0,     _   => []
  | n + 1, src => lowByte (p src) :: highByte (p src) :: loop p n (src + 1)

/-- `USB_prvReadPMA`: the bytes it stores at the destination. -/
def usbPrvReadPMA (p : Pma) (pmaAddress dataCount : Nat) : List U8 :=
  usbPrvReadPMA.loop p (dataCount / 2) (pmaAddress / 2) ++
    if dataCount % 2 ≠ 0 then [lowByte (p (pmaAddress / 2 + dataCount / 2))] else []

/-- The loop stores the bytes of the source from the byte `2 * dst` on. -/
theorem byte_writePMA_loop (n : Nat) (src : Buffer) (dst : Nat) (p : Pma) (a : Nat) :
    (usbPrvWritePMA.loop n src dst p).byte a =
      if 2 * dst ≤ a ∧ a < 2 * (dst + n) then src (a - 2 * dst) else p.byte a := by
  induction n generalizing src dst p with
  | zero =>
      have h : ¬ (2 * dst ≤ a ∧ a < 2 * (dst + 0)) := by omega
      rw [if_neg h, usbPrvWritePMA.loop]
  | succ n ih =>
      rw [usbPrvWritePMA.loop, ih, Pma.byte_set]
      -- The byte is in a later halfword, in this one, or in none.
      by_cases h1 : 2 * (dst + 1) ≤ a ∧ a < 2 * (dst + 1 + n)
      · rw [if_pos h1, if_pos (by omega)]
        exact congrArg src (by omega)
      · rw [if_neg h1]
        by_cases h2 : a = 2 * dst
        · rw [if_pos h2, if_pos (by omega), h2, Nat.sub_self]
        · rw [if_neg h2]
          by_cases h3 : a = 2 * dst + 1
          · rw [if_pos h3, if_pos (by omega), h3, Nat.add_sub_cancel_left]
          · rw [if_neg h3, if_neg (by omega)]

/-- The packet memory after a packet is written: its halfwords hold the source, one byte more
when the count is odd. -/
theorem byte_writePMA (src : Buffer) {pmaAddress : Nat} (h : pmaAddress % 2 = 0) (n : Nat)
    (p : Pma) (a : Nat) :
    (usbPrvWritePMA src pmaAddress n p).byte a =
      if pmaAddress ≤ a ∧ a < pmaAddress + (n + n % 2) then src (a - pmaAddress) else p.byte a := by
  rw [usbPrvWritePMA, byte_writePMA_loop, show 2 * (pmaAddress / 2) = pmaAddress by omega,
    show 2 * (pmaAddress / 2 + (n + 1) / 2) = pmaAddress + (n + n % 2) by omega]

/-- The loop leaves all other halfwords alone. -/
theorem writePMA_loop_of_not_mem (n : Nat) (src : Buffer) (dst : Nat) (p : Pma) {i : Nat}
    (h : i < dst ∨ dst + n ≤ i) : usbPrvWritePMA.loop n src dst p i = p i := by
  induction n generalizing src dst p with
  | zero => rfl
  | succ n ih => rw [usbPrvWritePMA.loop, ih _ _ _ (by omega), Pma.set_of_ne _ (by omega)]

/-- So does a written packet. -/
theorem writePMA_of_not_mem (src : Buffer) (pmaAddress n : Nat) (p : Pma) {i : Nat}
    (h : i < pmaAddress / 2 ∨ pmaAddress / 2 + (n + 1) / 2 ≤ i) :
    usbPrvWritePMA src pmaAddress n p i = p i :=
  writePMA_loop_of_not_mem _ src _ p h

/-- The peripheral sees the packet that was written. -/
theorem packet_writePMA (src : Buffer) {pmaAddress : Nat} (h : pmaAddress % 2 = 0) (n : Nat)
    (p : Pma) : (usbPrvWritePMA src pmaAddress n p).packet pmaAddress n = src.bytes n := by
  refine List.map_congr_left fun i hi => ?_
  have hlt := List.mem_range.mp hi
  rw [byte_writePMA src h, if_pos (by omega), Nat.add_sub_cancel_left]

/-- The loop of `USB_prvReadPMA` reads whole halfwords. -/
theorem readPMA_loop_eq (p : Pma) (n src : Nat) :
    usbPrvReadPMA.loop p n src = p.packet (2 * src) (2 * n) := by
  induction n generalizing src with
  | zero => rfl
  | succ n ih =>
      rw [usbPrvReadPMA.loop, ih, show 2 * (n + 1) = 2 * n + 1 + 1 by omega, Pma.packet_succ,
        Pma.packet_succ, Pma.byte_even, Pma.byte_odd]
      rfl

/-- A packet is read as it lies in the memory. -/
theorem readPMA_eq_packet (p : Pma) {pmaAddress : Nat} (h : pmaAddress % 2 = 0) (n : Nat) :
    usbPrvReadPMA p pmaAddress n = p.packet pmaAddress n := by
  have hsplit : n = 2 * (n / 2) + n % 2 := by omega
  rw [usbPrvReadPMA, readPMA_loop_eq, show 2 * (pmaAddress / 2) = pmaAddress by omega]
  conv_rhs => rw [hsplit, Pma.packet_append]
  congr 1
  rcases Nat.mod_two_eq_zero_or_one n with h0 | h1
  · rw [if_neg (by omega), h0]
    rfl
  · rw [if_pos (by omega), h1, Pma.packet_succ,
      show pmaAddress + 2 * (n / 2) = 2 * (pmaAddress / 2 + n / 2) by omega, Pma.byte_even]
    rfl

/-! ### `USB_prvConvertRxCount` -/

/-- `USB_prvConvertRxCount`: the size of a receive buffer as the peripheral wants it, in blocks
of 32 or of 2 bytes. -/
def usbPrvConvertRxCount (rxCount : Nat) : U16 :=
  if rxCount > 62 then
    .ofNat 16 (0x8000 ||| ((((rxCount + 31) >>> 5) - 1) <<< 10))
  else
    .ofNat 16 (((rxCount + 1) >>> 1) <<< 10)

/-- The bytes the peripheral receives at most into a buffer whose `RX_COUNT` is `w`. -/
def rxCapacity (w : U16) : Nat :=
  let numBlock := ((w >>> 10) &&& 0x1F).toNat
  if w.getLsbD 15 then 32 * (numBlock + 1) else 2 * numBlock

/-- Room counted in blocks of two bytes. -/
theorem rxCapacity_blocks2 {k : Nat} (h : k ≤ 31) : rxCapacity (.ofNat 16 (k <<< 10)) = 2 * k := by
  interval_cases k <;> decide

/-- Room counted in blocks of 32. -/
theorem rxCapacity_blocks32 {k : Nat} (h : k ≤ 31) :
    rxCapacity (.ofNat 16 (0x8000 ||| k <<< 10)) = 32 * (k + 1) := by
  interval_cases k <;> decide

/-- The buffer the peripheral is told of: the size rounded up to its blocks. -/
theorem rxCapacity_convertRxCount {n : Nat} (h : n ≤ 1024) :
    rxCapacity (usbPrvConvertRxCount n) =
      if n > 62 then 32 * ((n + 31) / 32) else 2 * ((n + 1) / 2) := by
  rw [usbPrvConvertRxCount]
  by_cases h62 : n > 62
  · rw [if_pos h62, if_pos h62, Nat.shiftRight_eq_div_pow, rxCapacity_blocks32 (by omega)]
    omega
  · rw [if_neg h62, if_neg h62, Nat.shiftRight_eq_div_pow, rxCapacity_blocks2 (by omega)]

/-- The count of received bytes does not change the size of the buffer. -/
theorem rxCapacity_count (w : U16) {n : Nat} (h : n < 1024) :
    rxCapacity ((w &&& 0xFC00) ||| .ofNat 16 n) = rxCapacity w := by
  have hbit : ∀ i, 10 ≤ i → (BitVec.ofNat 16 n).getLsbD i = false := by
    intro i hi
    rw [BitVec.getLsbD_ofNat, Nat.testBit_lt_two_pow
      (h.trans_le (Nat.pow_le_pow_right Nat.zero_lt_two hi)),
      Bool.and_false]
  have hshift : ((w &&& 0xFC00) ||| BitVec.ofNat 16 n) >>> 10 = w >>> 10 := by
    apply BitVec.eq_of_getLsbD_eq
    intro i hi
    rw [BitVec.getLsbD_ushiftRight, BitVec.getLsbD_ushiftRight, BitVec.getLsbD_or,
      hbit _ (by omega), Bool.or_false]
    interval_cases i <;> simp
  have hsize : ((w &&& 0xFC00) ||| BitVec.ofNat 16 n).getLsbD 15 = w.getLsbD 15 := by
    rw [BitVec.getLsbD_or, hbit 15 (by decide)]
    simp
  rw [rxCapacity, rxCapacity, hshift, hsize]

end PikvmHid
