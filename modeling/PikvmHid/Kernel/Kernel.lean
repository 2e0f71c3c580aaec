import PikvmHid.Kernel.Event
import PikvmHid.Kernel.Msg

/-!
# `PikvmHid.Kernel.Kernel`: the kernel calls

The event and message calls of `kernel/kernel.c` over `Kernel`, the statics of
`event.c` and `msg.c` together. A `for` loop over 32 bits is a recursion on the number
of bits left, and a loop over a message is a recursion on the message.

The theorems give each call its effect on the flags and on the queue contents:

* `kernelSendEvents_cmdIn`, `kernelWaitEvents_cmdIn`: the two event calls, as the firmware
  uses them;
* `kernelSendMsg_spec`: a message that fits is appended and the call returns true, and
  otherwise it returns false;
* `kernelRecvMsg_one`: a receive of one byte takes the oldest;
* `kernelFlushMsg_spec`: a flush stops, with the queue empty.
-/

set_option autoImplicit false

namespace PikvmHid

/-- The statics `sEventFlag` and `sMsgQ`. -/
structure Kernel where
  sEventFlag : U32
  sMsgQ : MsgQs

/-- The kernel at reset: no flag is set and every queue is empty. -/
def Kernel.boot : Kernel := ⟨KernelEventFlag_Empty, Vector.replicate KernelMsgQ_Num .zero⟩

namespace Kernel

/-- The bytes a queue holds, oldest first. -/
def contents (k : Kernel) (qname : Nat) : List U8 := msgQContents k.sMsgQ qname

/-- `Kernel_msgQ_enqueue` on the kernel's queues. -/
def enqueue (k : Kernel) (qname : Nat) (data : U8) : Option Kernel :=
  (kernelMsgQEnqueue k.sMsgQ qname data).map fun q => { k with sMsgQ := q }

/-- `Kernel_msgQ_dequeue` on the kernel's queues. -/
def dequeue (k : Kernel) (qname : Nat) : Option (U8 × Kernel) :=
  (kernelMsgQDequeue k.sMsgQ qname).map fun r => (r.1, { k with sMsgQ := r.2 })

end Kernel

/-! ### Events -/

/-- The loop of `Kernel_send_events`, `n` bits before its end. -/
def kernelSendEvents.loop (eventList : U32) : Nat → U32 → Kernel → Kernel
  | 0,     _,            k => k
  | n + 1, sendingEvent, k =>
      let i := 31 - n
      if (eventList >>> i) &&& 1 ≠ 0 then
        let sendingEvent := sendingEvent ||| ((1 : U32) <<< i)
        loop eventList n sendingEvent
          { k with sEventFlag := kernelEventFlagSet k.sEventFlag sendingEvent }
      else loop eventList n sendingEvent k

/-- `Kernel_send_events`. -/
def kernelSendEvents (k : Kernel) (eventList : U32) : Kernel :=
  kernelSendEvents.loop eventList 32 KernelEventFlag_Empty k

/-- The loop of `Kernel_wait_events`, `n` bits before its end. -/
def kernelWaitEvents.loop (waitingList : U32) : Nat → U32 → Kernel → U32 × Kernel
  | 0,     _,            k => (KernelEventFlag_Empty, k)
  | n + 1, waitingEvent, k =>
      let i := 31 - n
      if (waitingList >>> i) &&& 1 ≠ 0 then
        let waitingEvent := waitingEvent ||| ((1 : U32) <<< i)
        let r := kernelEventFlagCheck k.sEventFlag waitingEvent
        if r.1 then (waitingEvent, { k with sEventFlag := r.2 })
        else loop waitingList n waitingEvent { k with sEventFlag := r.2 }
      else loop waitingList n waitingEvent k

/-- `Kernel_wait_events`. It does not block: with no flag set it returns
`KernelEventFlag_Empty`. -/
def kernelWaitEvents (k : Kernel) (waitingList : U32) : U32 × Kernel :=
  kernelWaitEvents.loop waitingList 32 KernelEventFlag_Empty k

/-! ### Messages -/

/-- The rollback loop of `Kernel_send_msg`: `j` dequeues, whatever they return. -/
def kernelSendMsg.rollback (qname : Nat) : Nat → Kernel → Kernel
  | 0,     k => k
  | j + 1, k =>
      match k.dequeue qname with
      | none         => rollback qname j k
      | some (_, k') => rollback qname j k'

/-- The loop of `Kernel_send_msg` after `i` bytes went in. -/
def kernelSendMsg.loop (qname : Nat) : Nat → List U8 → Kernel → Bool × Kernel
  | _, [],      k => (true, k)
  | i, d :: ds, k =>
      match k.enqueue qname d with
      | none    => (false, kernelSendMsg.rollback qname i k)
      | some k' => loop qname (i + 1) ds k'

/-- `Kernel_send_msg`: the message is the list of its `count` bytes. -/
def kernelSendMsg (k : Kernel) (qname : Nat) (data : List U8) : Bool × Kernel :=
  kernelSendMsg.loop qname 0 data k

/-- `Kernel_recv_msg`: the bytes stored through `out_data`. Their number is the return
value. -/
def kernelRecvMsg (k : Kernel) (qname : Nat) : Nat → List U8 × Kernel
  | 0         => ([], k)
  | count + 1 =>
      match k.dequeue qname with
      | none         => ([], k)
      | some (b, k') =>
          let r := kernelRecvMsg k' qname count
          (b :: r.1, r.2)

/-- The loop of `Kernel_flush_msg`, for at most `fuel` dequeues. -/
def kernelFlushMsg.loop (qname : Nat) : Nat → Kernel → Kernel
  | 0,        k => k
  | fuel + 1, k =>
      match k.dequeue qname with
      | none         => k
      | some (_, k') => loop qname fuel k'

/-- `Kernel_flush_msg`. A queue holds fewer than `MSG_Q_SIZE_BYTE` bytes, so the loop
leaves through its `break` within that many rounds (`kernelFlushMsg_spec`). -/
def kernelFlushMsg (k : Kernel) (qname : Nat) : Kernel :=
  kernelFlushMsg.loop qname MSG_Q_SIZE_BYTE k

/-! ### What the event calls do -/

/-- Sending `CmdIn` sets its flag. -/
theorem kernelSendEvents_cmdIn (k : Kernel) :
    kernelSendEvents k KernelEventFlag_CmdIn
      = { k with sEventFlag := k.sEventFlag ||| KernelEventFlag_CmdIn } :=
  rfl

/-- Waiting for `CmdIn` reports the flag and clears it, and otherwise reports
`KernelEventFlag_Empty` and changes nothing. -/
theorem kernelWaitEvents_cmdIn (k : Kernel) :
    kernelWaitEvents k KernelEventFlag_CmdIn
      = if k.sEventFlag &&& KernelEventFlag_CmdIn ≠ 0 then
          (KernelEventFlag_CmdIn,
            { k with sEventFlag := k.sEventFlag &&& ~~~KernelEventFlag_CmdIn })
        else (KernelEventFlag_Empty, k) := by
  -- Only bit 0 is waited for, so the other 31 rounds pass by.
  have hrest : ∀ w, kernelWaitEvents.loop KernelEventFlag_CmdIn 31 w k
      = (KernelEventFlag_Empty, k) := fun _ => rfl
  have hbit : (KernelEventFlag_CmdIn >>> (31 - 31)) &&& 1 ≠ 0 := by decide
  have hmask : KernelEventFlag_Empty ||| (1 : U32) <<< (31 - 31) = KernelEventFlag_CmdIn := by
    decide
  rw [kernelWaitEvents, kernelWaitEvents.loop]
  simp only [if_pos hbit, hmask, kernelEventFlagCheck]
  by_cases h : k.sEventFlag &&& KernelEventFlag_CmdIn ≠ 0
  · simp only [if_pos h, if_true]
    rfl
  · simp only [if_neg h, Bool.false_eq_true, if_false]
    exact hrest _

/-! ### What the message calls do -/

namespace Kernel

/-- A queue holds one byte less than its array. -/
theorem length_contents_lt (k : Kernel) (qname : Nat) :
    (k.contents qname).length < MSG_Q_SIZE_BYTE := by
  unfold contents msgQContents
  split
  · simp
  · exact length_toList_lt _

/-- Two kernels that differ only in the queue `qname`. -/
structure SameBut (qname : Nat) (k k' : Kernel) : Prop where
  sEventFlag : k'.sEventFlag = k.sEventFlag
  contents : ∀ other, other ≠ qname → k'.contents other = k.contents other

/-- No change leaves the rest alone. -/
theorem SameBut.refl (qname : Nat) (k : Kernel) : SameBut qname k k :=
  ⟨rfl, fun _ _ => rfl⟩

/-- Changes to one queue chain. -/
theorem SameBut.trans {qname : Nat} {k k' k'' : Kernel} (h : SameBut qname k k')
    (h' : SameBut qname k' k'') : SameBut qname k k'' :=
  ⟨h'.sEventFlag.trans h.sEventFlag,
    fun other ho => (h'.contents other ho).trans (h.contents other ho)⟩

/-- A full queue refuses the byte. -/
theorem enqueue_full (k : Kernel) {qname : Nat} (hq : qname < KernelMsgQ_Num) (data : U8)
    (hfull : (k.contents qname).length = MSG_Q_SIZE_BYTE - 1) :
    k.enqueue qname data = none := by
  rw [enqueue, kernelMsgQEnqueue_full k.sMsgQ hq data hfull]
  rfl

/-- Otherwise it is the last one of the queue, and the rest is left alone. -/
theorem enqueue_room (k : Kernel) {qname : Nat} (hq : qname < KernelMsgQ_Num) (data : U8)
    (hroom : (k.contents qname).length < MSG_Q_SIZE_BYTE - 1) :
    ∃ k', k.enqueue qname data = some k' ∧
      k'.contents qname = k.contents qname ++ [data] ∧ SameBut qname k k' := by
  obtain ⟨q', hq', happ, hother⟩ :=
    kernelMsgQEnqueue_room k.sMsgQ hq data (Nat.ne_of_lt hroom)
  exact ⟨{ k with sMsgQ := q' }, by rw [enqueue, hq']; rfl, happ, ⟨rfl, hother⟩⟩

/-- There is nothing to take from an empty queue. -/
theorem dequeue_nil (k : Kernel) {qname : Nat} (hq : qname < KernelMsgQ_Num)
    (hnil : k.contents qname = []) : k.dequeue qname = none := by
  rw [dequeue, kernelMsgQDequeue_nil k.sMsgQ hq hnil]
  rfl

/-- Otherwise the first byte is taken, and the rest is left alone. -/
theorem dequeue_cons (k : Kernel) {qname : Nat} (hq : qname < KernelMsgQ_Num) {b : U8}
    {rest : List U8} (hcons : k.contents qname = b :: rest) :
    ∃ k', k.dequeue qname = some (b, k') ∧ k'.contents qname = rest ∧ SameBut qname k k' := by
  obtain ⟨q', hq', hrest, hother⟩ := kernelMsgQDequeue_cons k.sMsgQ hq hcons
  exact ⟨{ k with sMsgQ := q' }, by rw [dequeue, hq']; rfl, hrest, ⟨rfl, hother⟩⟩

end Kernel

open Kernel

/-- The send loop with room for the rest of the message: the rest is appended. -/
theorem kernelSendMsg_loop_room {qname : Nat} (hq : qname < KernelMsgQ_Num) (ds : List U8) :
    ∀ (i : Nat) (k : Kernel),
      (k.contents qname).length + ds.length ≤ MSG_Q_SIZE_BYTE - 1 →
      ∃ k', kernelSendMsg.loop qname i ds k = (true, k') ∧
        k'.contents qname = k.contents qname ++ ds ∧ SameBut qname k k' := by
  induction ds with
  | nil => exact fun i k _ => ⟨k, rfl, by simp, SameBut.refl qname k⟩
  | cons d ds ih =>
      intro i k hfit
      rw [List.length_cons] at hfit
      -- The first byte goes in, and there is still room for the others.
      obtain ⟨k₁, h₁, happ, hsame⟩ := k.enqueue_room hq d (by omega)
      have hfit₁ : (k₁.contents qname).length + ds.length ≤ MSG_Q_SIZE_BYTE - 1 := by
        rw [happ, List.length_append, List.length_singleton]
        omega
      obtain ⟨k', hk', happ', hsame'⟩ := ih (i + 1) k₁ hfit₁
      refine ⟨k', ?_, ?_, hsame.trans hsame'⟩
      · rw [kernelSendMsg.loop, h₁]
        exact hk'
      · rw [happ', happ, List.append_assoc]
        rfl

/-- The rollback touches only its own queue. -/
theorem kernelSendMsg_rollback_same {qname : Nat} (hq : qname < KernelMsgQ_Num) :
    ∀ (j : Nat) (k : Kernel), SameBut qname k (kernelSendMsg.rollback qname j k) := by
  intro j
  induction j with
  | zero => exact SameBut.refl qname
  | succ j ih =>
      intro k
      cases hc : k.contents qname with
      | nil =>
          -- A dequeue that fails is a round of the loop all the same.
          rw [kernelSendMsg.rollback, k.dequeue_nil hq hc]
          exact ih k
      | cons b rest =>
          obtain ⟨k', hk', -, hsame⟩ := k.dequeue_cons hq hc
          rw [kernelSendMsg.rollback, hk']
          exact hsame.trans (ih k')

/-- The send loop without room for the rest of the message: the call fails. -/
theorem kernelSendMsg_loop_full {qname : Nat} (hq : qname < KernelMsgQ_Num) (ds : List U8) :
    ∀ (i : Nat) (k : Kernel),
      MSG_Q_SIZE_BYTE - 1 < (k.contents qname).length + ds.length →
      (kernelSendMsg.loop qname i ds k).1 = false ∧
        SameBut qname k (kernelSendMsg.loop qname i ds k).2 := by
  induction ds with
  | nil =>
      -- A message without a byte always fits.
      intro i k hover
      have := k.length_contents_lt qname
      rw [List.length_nil] at hover
      omega
  | cons d ds ih =>
      intro i k hover
      by_cases hfull : (k.contents qname).length = MSG_Q_SIZE_BYTE - 1
      · rw [kernelSendMsg.loop, k.enqueue_full hq d hfull]
        exact ⟨rfl, kernelSendMsg_rollback_same hq i k⟩
      · -- This byte goes in, and one of the others will not.
        have hlt := k.length_contents_lt qname
        obtain ⟨k₁, h₁, happ, hsame⟩ := k.enqueue_room hq d (by omega)
        have hover₁ : MSG_Q_SIZE_BYTE - 1 < (k₁.contents qname).length + ds.length := by
          rw [List.length_cons] at hover
          rw [happ, List.length_append, List.length_singleton]
          omega
        rw [kernelSendMsg.loop, h₁]
        exact ⟨(ih (i + 1) k₁ hover₁).1, hsame.trans (ih (i + 1) k₁ hover₁).2⟩

/-- `Kernel_send_msg` returns true exactly when the whole message fits, and then appends
it. Nothing but its queue changes. -/
theorem kernelSendMsg_spec (k : Kernel) {qname : Nat} (hq : qname < KernelMsgQ_Num)
    (data : List U8) :
    SameBut qname k (kernelSendMsg k qname data).2 ∧
    if (k.contents qname).length + data.length ≤ MSG_Q_SIZE_BYTE - 1 then
      (kernelSendMsg k qname data).1 = true ∧
        (kernelSendMsg k qname data).2.contents qname = k.contents qname ++ data
    else (kernelSendMsg k qname data).1 = false := by
  unfold kernelSendMsg
  split
  · next hfit =>
      obtain ⟨k', hk', happ, hsame⟩ := kernelSendMsg_loop_room hq data 0 k hfit
      rw [hk']
      exact ⟨hsame, rfl, happ⟩
  · next hover =>
      have h := kernelSendMsg_loop_full hq data 0 k (Nat.lt_of_not_le hover)
      exact ⟨h.2, h.1⟩

/-- `Kernel_recv_msg` for one byte: nothing from an empty queue, and otherwise the
oldest byte. -/
theorem kernelRecvMsg_one (k : Kernel) {qname : Nat} (hq : qname < KernelMsgQ_Num) :
    match k.contents qname with
    | []        => kernelRecvMsg k qname 1 = ([], k)
    | b :: rest => ∃ k', kernelRecvMsg k qname 1 = ([b], k') ∧
        k'.contents qname = rest ∧ SameBut qname k k' := by
  cases hc : k.contents qname with
  | nil => simp only [kernelRecvMsg, k.dequeue_nil hq hc]
  | cons b rest =>
      obtain ⟨k', hk', hrest, hsame⟩ := k.dequeue_cons hq hc
      exact ⟨k', by simp only [kernelRecvMsg, hk'], hrest, hsame⟩

/-- The flush loop with as many rounds as there are bytes empties the queue. -/
theorem kernelFlushMsg_loop_spec {qname : Nat} (hq : qname < KernelMsgQ_Num) :
    ∀ (fuel : Nat) (k : Kernel), (k.contents qname).length ≤ fuel →
      (kernelFlushMsg.loop qname fuel k).contents qname = [] ∧
        SameBut qname k (kernelFlushMsg.loop qname fuel k) := by
  intro fuel
  -- Each round that goes on has taken a byte.
  induction fuel with
  | zero =>
      intro k hlen
      exact ⟨List.length_eq_zero_iff.mp (Nat.le_zero.mp hlen), SameBut.refl qname k⟩
  | succ fuel ih =>
      intro k hlen
      cases hc : k.contents qname with
      | nil =>
          rw [kernelFlushMsg.loop, k.dequeue_nil hq hc]
          exact ⟨hc, SameBut.refl qname k⟩
      | cons b rest =>
          obtain ⟨k', hk', hrest, hsame⟩ := k.dequeue_cons hq hc
          rw [kernelFlushMsg.loop, hk']
          have hlen' : (k'.contents qname).length ≤ fuel := by
            rw [hc, List.length_cons] at hlen
            rw [hrest]
            omega
          exact ⟨(ih k' hlen').1, hsame.trans (ih k' hlen').2⟩

/-- `Kernel_flush_msg` leaves the queue empty, so its loop has left through the
`break`. Nothing but its queue changes. -/
theorem kernelFlushMsg_spec (k : Kernel) {qname : Nat} (hq : qname < KernelMsgQ_Num) :
    (kernelFlushMsg k qname).contents qname = [] ∧
      (kernelFlushMsg k qname).dequeue qname = none ∧
      SameBut qname k (kernelFlushMsg k qname) := by
  have h := kernelFlushMsg_loop_spec hq MSG_Q_SIZE_BYTE k
    (Nat.le_of_lt (k.length_contents_lt qname))
  exact ⟨h.1, Kernel.dequeue_nil _ hq h.1, h.2⟩

end PikvmHid
