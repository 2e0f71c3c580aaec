import PikvmHid.Kernel.Kernel

/-!
# `PikvmHid.Brd.Uart`: the receive interrupt of UART3

`Hal_uart_isr` of `brd/uart.c`. Its static locals are a `UartIsr`, the received byte
and the tick count are arguments. The interrupt has the priority of the tick interrupt,
so both calls of `HAL_GetTick` return the same count.

`collected` reads the bytes of the frame under way. `halUartIsr_spec` and the lemmas
before it describe the interrupt over that list, without the array.
-/

set_option autoImplicit false

namespace PikvmHid

abbrev UART_RX_BUF_LEN : Nat := 32

instance : NeZero UART_RX_BUF_LEN := ⟨by decide⟩

/-- The character `'@'`, which starts a raw keyboard frame. -/
abbrev CHAR_AT : U8 := 0x40

/-- The character `'#'`, which starts a raw mouse frame. -/
abbrev CHAR_HASH : U8 := 0x23

/-- The character `'3'`, which starts a binary frame. -/
abbrev CHAR_3 : U8 := 0x33

/-- Carriage return, which ends a raw frame. -/
abbrev CHAR_CR : U8 := 0x0D

/-- Line feed, which ends a raw frame as well. -/
abbrev CHAR_LF : U8 := 0x0A

/-- The two characters that end a raw frame. -/
def IsEol (ch : U8) : Prop := ch = CHAR_CR ∨ ch = CHAR_LF

instance : DecidablePred IsEol := fun ch => inferInstanceAs (Decidable (ch = CHAR_CR ∨ ch = CHAR_LF))

/-- The two characters that start a raw frame. -/
def IsRawStart (ch : U8) : Prop := ch = CHAR_AT ∨ ch = CHAR_HASH

instance : DecidablePred IsRawStart := fun ch =>
  inferInstanceAs (Decidable (ch = CHAR_AT ∨ ch = CHAR_HASH))

/-- The statics of `Hal_uart_isr`. The count is at most the size of the buffer: each
byte is stored below the size, and the count steps over it. -/
structure UartIsr where
  lastTick : U32
  cmdCnt : Nat
  cmdBuf : Vector U8 UART_RX_BUF_LEN
  cmdCnt_le : cmdCnt ≤ UART_RX_BUF_LEN

/-- The statics at reset. -/
def UartIsr.boot : UartIsr := ⟨0, 0, Vector.replicate UART_RX_BUF_LEN 0, by decide⟩

/-- The ticks since the last byte, as the interrupt computes them. After a wrap of the
tick count the second branch is one tick short. -/
def elapsedTicks (lastTick tick : U32) : U32 :=
  if tick ≥ lastTick then tick - lastTick else tick - lastTick + 0xffffffff

/-- What one interrupt leaves: the statics, the kernel, and the frame that
`Kernel_send_msg` took, if any. -/
structure IsrOut where
  isr : UartIsr
  kernel : Kernel
  accepted : Option (List U8)

/-- Whether the frame in `cmdBuf` is complete with the byte `ch` as its `cmdCnt`-th. -/
def sendFrame (first : U8) (cmdCnt : Nat) (ch : U8) : Bool :=
  if IsRawStart first then decide (IsEol ch)
  else if first = CHAR_3 then decide (cmdCnt = 8)
  else false

/-- The count after the first reset: zero after a gap of more than 50 ticks. -/
def countAfterGap (s : UartIsr) (tick : U32) : Nat :=
  if elapsedTicks s.lastTick tick > 50 then 0 else s.cmdCnt

/-- The index a byte is stored at, the count after the second reset: zero when the
buffer is full. -/
def storeIndex (s : UartIsr) (tick : U32) : Nat :=
  if countAfterGap s tick ≥ UART_RX_BUF_LEN then 0 else countAfterGap s tick

/-- A byte is stored within the receive buffer. -/
theorem storeIndex_lt (s : UartIsr) (tick : U32) : storeIndex s tick < UART_RX_BUF_LEN := by
  unfold storeIndex
  split
  · decide
  · next h => exact Nat.lt_of_not_le h

/-- What `Hal_uart_isr` does with a complete frame. A frame that fits goes behind the
queue and sets the event, and any other frame empties the queue. -/
def deliverFrame (k : Kernel) (frame : List U8) : Kernel × Option (List U8) :=
  let sent := kernelSendMsg k KernelMsgQ_DebugCmd frame
  (if sent.1 then kernelSendEvents sent.2 KernelEventFlag_CmdIn
    else kernelFlushMsg sent.2 KernelEventFlag_CmdIn.toNat,
    if sent.1 then some frame else none)

/-- `Hal_uart_isr`, for the byte `ch` received at `tick`. -/
def halUartIsr (s : UartIsr) (k : Kernel) (ch : U8) (tick : U32) : IsrOut :=
  let idx := storeIndex s tick
  let cmdBuf := s.cmdBuf.set idx ch (storeIndex_lt s tick)
  let cmdCnt := idx + 1
  if sendFrame (cmdBuf.get 0) cmdCnt ch then
    let r := deliverFrame k (cmdBuf.toList.take cmdCnt)
    ⟨⟨tick, 0, cmdBuf, Nat.zero_le _⟩, r.1, r.2⟩
  else ⟨⟨tick, cmdCnt, cmdBuf, storeIndex_lt s tick⟩, k, none⟩

/-! ### The interrupt over the collected bytes -/

/-- The bytes of the frame under way. -/
def UartIsr.collected (s : UartIsr) : List U8 := s.cmdBuf.toList.take s.cmdCnt

/-- The bytes that stay when the next one comes at `tick`: none after a gap of more than
50 ticks, and none of a full buffer. -/
def keptBytes (lastTick : U32) (collected : List U8) (tick : U32) : List U8 :=
  if elapsedTicks lastTick tick > 50 ∨ collected.length ≥ UART_RX_BUF_LEN then []
  else collected

/-- The bytes collected are counted by `cmdCnt`. -/
@[simp] theorem length_collected (s : UartIsr) : s.collected.length = s.cmdCnt := by
  have := s.cmdCnt_le
  simp [UartIsr.collected, Nat.min_eq_left this]

/-- A store at the count extends the stored prefix by one byte. -/
theorem take_toList_set {n : Nat} (v : Vector U8 n) (i : Nat) (hi : i < n) (ch : U8) :
    (v.set i ch hi).toList.take (i + 1) = v.toList.take i ++ [ch] := by
  have hlen : i < (v.toList.set i ch).length := by simpa using hi
  rw [Vector.toList_set, List.take_add_one, List.take_set_of_le (Nat.le_refl i)]
  congr 1
  rw [List.getElem?_set_self (by simpa using hi)]
  rfl

/-- The first byte of a stored prefix is the first slot. -/
theorem headD_take_toList (v : Vector U8 UART_RX_BUF_LEN) (n : Nat) :
    v.get 0 = (v.toList.take (n + 1)).headD 0 := by
  have hne : v.toList ≠ [] := List.ne_nil_of_length_pos (by simp)
  obtain ⟨x, xs, hx⟩ := List.exists_cons_of_ne_nil hne
  rw [hx, List.take_succ_cons, List.headD_cons]
  have hget : v.toList[0]? = some (v.get 0) := by
    rw [Vector.getElem?_toList]
    rfl
  rw [hx] at hget
  exact (Option.some.inj hget).symm

/-- The frame under way after a byte: `keptBytes` with the byte behind. -/
def withByte (lastTick : U32) (collected : List U8) (ch : U8) (tick : U32) : List U8 :=
  keptBytes lastTick collected tick ++ [ch]

/-- The store index is the number of bytes that stay, and they are the first ones of the
buffer. -/
theorem take_storeIndex (s : UartIsr) (tick : U32) :
    s.cmdBuf.toList.take (storeIndex s tick) = keptBytes s.lastTick s.collected tick := by
  unfold storeIndex countAfterGap keptBytes
  rw [length_collected]
  by_cases hgap : elapsedTicks s.lastTick tick > 50
  · rw [if_pos (Or.inl hgap), if_pos hgap]
    simp
  · by_cases hfull : s.cmdCnt ≥ UART_RX_BUF_LEN
    · rw [if_pos (Or.inr hfull), if_neg hgap, if_pos hfull, List.take_zero]
    · rw [if_neg (not_or_intro hgap hfull), if_neg hgap, if_neg hfull]
      rfl

/-- The stored prefix, its length and its first slot are those of the list. -/
theorem stored_eq (s : UartIsr) (ch : U8) (tick : U32) :
    let bytes := withByte s.lastTick s.collected ch tick
    let cmdBuf := s.cmdBuf.set (storeIndex s tick) ch (storeIndex_lt s tick)
    cmdBuf.toList.take (storeIndex s tick + 1) = bytes ∧
      bytes.length = storeIndex s tick + 1 ∧ cmdBuf.get 0 = bytes.headD 0 := by
  intro bytes cmdBuf
  have hbytes : cmdBuf.toList.take (storeIndex s tick + 1) = bytes := by
    rw [take_toList_set, take_storeIndex]
    rfl
  refine ⟨hbytes, ?_, ?_⟩
  · rw [← hbytes, List.length_take, Vector.length_toList]
    exact Nat.min_eq_left (storeIndex_lt s tick)
  · rw [← hbytes]
    exact headD_take_toList _ _

/-- A frame that fits is queued behind what is there. -/
theorem deliverFrame_fits (k : Kernel) (frame : List U8)
    (hfit : (k.contents KernelMsgQ_DebugCmd).length + frame.length ≤ MSG_Q_SIZE_BYTE - 1) :
    (deliverFrame k frame).2 = some frame ∧
      (deliverFrame k frame).1.contents KernelMsgQ_DebugCmd
        = k.contents KernelMsgQ_DebugCmd ++ frame ∧
      (deliverFrame k frame).1.sEventFlag = k.sEventFlag ||| KernelEventFlag_CmdIn := by
  have h := kernelSendMsg_spec k (by decide : KernelMsgQ_DebugCmd < KernelMsgQ_Num) frame
  rw [if_pos hfit] at h
  obtain ⟨hsame, hsent, hcont⟩ := h
  simp only [deliverFrame, hsent, if_true, kernelSendEvents_cmdIn, hsame.sEventFlag]
  exact ⟨trivial, hcont, trivial⟩

/-- A frame that does not fit empties the queue. -/
theorem deliverFrame_overflow (k : Kernel) (frame : List U8)
    (hover : ¬ (k.contents KernelMsgQ_DebugCmd).length + frame.length
      ≤ MSG_Q_SIZE_BYTE - 1) :
    (deliverFrame k frame).2 = none ∧
      (deliverFrame k frame).1.contents KernelMsgQ_DebugCmd = [] ∧
      (deliverFrame k frame).1.sEventFlag = k.sEventFlag := by
  have h := kernelSendMsg_spec k (by decide : KernelMsgQ_DebugCmd < KernelMsgQ_Num) frame
  rw [if_neg hover] at h
  obtain ⟨hsame, hsent⟩ := h
  have hflush := kernelFlushMsg_spec (kernelSendMsg k KernelMsgQ_DebugCmd frame).2
    (by decide : KernelMsgQ_DebugCmd < KernelMsgQ_Num)
  simp only [deliverFrame, hsent, Bool.false_eq_true, if_false]
  -- The event flag's value is the queue's name.
  have hname : KernelEventFlag_CmdIn.toNat = KernelMsgQ_DebugCmd := by decide
  rw [hname]
  exact ⟨trivial, hflush.1, hflush.2.2.sEventFlag.trans hsame.sEventFlag⟩

/-- The interrupt over the collected bytes. A byte that completes no frame is collected.
One that does hands the frame on, and the collection starts again. -/
theorem halUartIsr_spec (s : UartIsr) (k : Kernel) (ch : U8) (tick : U32) :
    let bytes := withByte s.lastTick s.collected ch tick
    let out := halUartIsr s k ch tick
    out.isr.lastTick = tick ∧
    if sendFrame (bytes.headD 0) bytes.length ch then
      out.isr.collected = [] ∧ out.kernel = (deliverFrame k bytes).1 ∧
        out.accepted = (deliverFrame k bytes).2
    else
      out.isr.collected = bytes ∧ out.kernel = k ∧ out.accepted = none := by
  intro bytes out
  obtain ⟨hbytes, hlen, hhead⟩ := stored_eq s ch tick
  have hidx := storeIndex_lt s tick
  have hout : out = if sendFrame (bytes.headD 0) bytes.length ch then
      ⟨⟨tick, 0, s.cmdBuf.set (storeIndex s tick) ch hidx, Nat.zero_le _⟩,
        (deliverFrame k bytes).1, (deliverFrame k bytes).2⟩
      else ⟨⟨tick, storeIndex s tick + 1, s.cmdBuf.set (storeIndex s tick) ch hidx, hidx⟩, k,
        none⟩ := by
    rw [← hhead, hlen, show bytes = _ from hbytes.symm]
    rfl
  rw [hout]
  split
  · exact ⟨rfl, rfl, rfl, rfl⟩
  · exact ⟨rfl, hbytes, rfl, rfl⟩

end PikvmHid
