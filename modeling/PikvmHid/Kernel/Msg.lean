import PikvmHid.Include.Stdint
import PikvmHid.Lib.CircularBuffer

/-!
# `PikvmHid.Kernel.Msg`: the message queues

`kernel/msg.h` and `kernel/msg.c`. The static array `sMsgQ` is an argument, and a
function that changes it returns it. A function that returns `false` has changed
nothing, so it returns `none` here.

A queue name is a number, because the callers pass other enumerators where a
`KernelMsgQ_t` is declared and the functions check the range themselves.
-/

set_option autoImplicit false

namespace PikvmHid

open Lib

abbrev MSG_Q_SIZE_BYTE : Nat := 512

/-! ### `KernelMsgQ_t` -/

abbrev KernelMsgQ_DebugCmd : Nat := 1

abbrev KernelMsgQ_Num : Nat := 3

/-- `KernelCirQ_t`. Both indices are reduced modulo the size after each increment, so
they stay inside the array. -/
structure KernelCirQ where
  front : Nat
  rear : Nat
  queue : Vector U8 MSG_Q_SIZE_BYTE
  front_lt : front < MSG_Q_SIZE_BYTE
  rear_lt : rear < MSG_Q_SIZE_BYTE

/-- The queues, `sMsgQ`. -/
abbrev MsgQs := Vector KernelCirQ KernelMsgQ_Num

/-- A queue as the startup code leaves it: all of `sMsgQ` is zero. -/
def KernelCirQ.zero : KernelCirQ :=
  ⟨0, 0, Vector.replicate MSG_Q_SIZE_BYTE 0, by decide, by decide⟩

/-- `Kernel_msgQ_is_empty`. -/
def kernelMsgQIsEmpty (sMsgQ : MsgQs) (qname : Nat) : Bool :=
  if h : KernelMsgQ_Num ≤ qname then false
  else
    let q := sMsgQ.get ⟨qname, Nat.lt_of_not_le h⟩
    q.front = q.rear

/-- `Kernel_msgQ_is_full`. -/
def kernelMsgQIsFull (sMsgQ : MsgQs) (qname : Nat) : Bool :=
  if h : KernelMsgQ_Num ≤ qname then false
  else
    let q := sMsgQ.get ⟨qname, Nat.lt_of_not_le h⟩
    (q.rear + 1) % MSG_Q_SIZE_BYTE = q.front

/-- The queue with `rear` one slot on and `data` there. -/
def KernelCirQ.enqueue (q : KernelCirQ) (data : U8) : KernelCirQ :=
  let rear := (q.rear + 1) % MSG_Q_SIZE_BYTE
  have hrear : rear < MSG_Q_SIZE_BYTE := Nat.mod_lt _ (by decide)
  { q with
      rear := rear
      queue := q.queue.set rear data hrear
      rear_lt := hrear }

/-- The queue with `front` one slot on, the byte found there, and a zero in its
place. -/
def KernelCirQ.dequeue (q : KernelCirQ) : U8 × KernelCirQ :=
  let front := (q.front + 1) % MSG_Q_SIZE_BYTE
  have hfront : front < MSG_Q_SIZE_BYTE := Nat.mod_lt _ (by decide)
  (q.queue.get ⟨front, hfront⟩,
    { q with
        front := front
        queue := q.queue.set front 0 hfront
        front_lt := hfront })

/-- `Kernel_msgQ_enqueue`. -/
def kernelMsgQEnqueue (sMsgQ : MsgQs) (qname : Nat) (data : U8) : Option MsgQs :=
  if h : KernelMsgQ_Num ≤ qname then none
  else if kernelMsgQIsFull sMsgQ qname then none
  else
    have hq : qname < KernelMsgQ_Num := Nat.lt_of_not_le h
    some (sMsgQ.set qname ((sMsgQ.get ⟨qname, hq⟩).enqueue data) hq)

/-- `Kernel_msgQ_dequeue`: the byte and the queues without it. -/
def kernelMsgQDequeue (sMsgQ : MsgQs) (qname : Nat) : Option (U8 × MsgQs) :=
  if h : KernelMsgQ_Num ≤ qname then none
  else if kernelMsgQIsEmpty sMsgQ qname then none
  else
    have hq : qname < KernelMsgQ_Num := Nat.lt_of_not_le h
    let r := (sMsgQ.get ⟨qname, hq⟩).dequeue
    some (r.1, sMsgQ.set qname r.2 hq)

/-! ### What a queue holds -/

/-- The bytes of one queue, oldest first. -/
def KernelCirQ.toList (q : KernelCirQ) : List U8 :=
  CircularBuffer.contents q.queue q.front q.rear

/-- The bytes of the queue `qname`. A name out of range holds none. -/
def msgQContents (sMsgQ : MsgQs) (qname : Nat) : List U8 :=
  if h : KernelMsgQ_Num ≤ qname then []
  else (sMsgQ.get ⟨qname, Nat.lt_of_not_le h⟩).toList

/-- A cleared queue is empty. -/
@[simp] theorem toList_zero : KernelCirQ.zero.toList = [] := rfl

/-- At most `MSG_Q_SIZE_BYTE - 1` bytes fit. -/
theorem length_toList_lt (q : KernelCirQ) : q.toList.length < MSG_Q_SIZE_BYTE := by
  rw [KernelCirQ.toList, CircularBuffer.length_contents]
  exact CircularBuffer.count_lt q.front_lt q.rear_lt

/-- A byte goes in at the end. -/
theorem toList_enqueue (q : KernelCirQ) (hfull : (q.rear + 1) % MSG_Q_SIZE_BYTE ≠ q.front)
    (data : U8) : (q.enqueue data).toList = q.toList ++ [data] :=
  CircularBuffer.contents_push q.queue q.front_lt q.rear_lt hfull data
    (Nat.mod_lt _ (by decide))

/-- And comes out at the front. -/
theorem toList_dequeue (q : KernelCirQ) (hne : q.front ≠ q.rear) :
    q.toList = q.dequeue.1 :: q.dequeue.2.toList := by
  have hi : (q.front + 1) % MSG_Q_SIZE_BYTE < MSG_Q_SIZE_BYTE := Nat.mod_lt _ (by decide)
  -- The zero goes into a slot that holds nothing any more.
  have hclear : q.dequeue.2.toList
      = CircularBuffer.contents q.queue ((q.front + 1) % MSG_Q_SIZE_BYTE) q.rear :=
    CircularBuffer.contents_clear q.queue hi q.rear_lt 0
  rw [hclear]
  exact CircularBuffer.contents_pop q.queue q.front_lt q.rear_lt hne hi

/-! ### The operations on the contents -/

/-- Storing one queue leaves the others. -/
theorem msgQContents_set (sMsgQ : MsgQs) {qname : Nat} (hq : qname < KernelMsgQ_Num)
    (q : KernelCirQ) (other : Nat) :
    msgQContents (sMsgQ.set qname q hq) other
      = if other = qname then q.toList else msgQContents sMsgQ other := by
  unfold msgQContents
  by_cases ho : other = qname
  · subst ho
    rw [dif_neg (Nat.not_le_of_lt hq), if_pos rfl]
    exact congrArg KernelCirQ.toList (Vector.getElem_set_self hq)
  · rw [if_neg ho]
    split
    · rfl
    · next hlt =>
        exact congrArg KernelCirQ.toList
          (Vector.getElem_set_ne hq (Nat.lt_of_not_le hlt) (Ne.symm ho))

section
variable (sMsgQ : MsgQs) {qname : Nat} (hq : qname < KernelMsgQ_Num)
include hq

/-- The contents of a queue in range are those of its array entry. -/
theorem msgQContents_eq : msgQContents sMsgQ qname = (sMsgQ.get ⟨qname, hq⟩).toList :=
  dif_neg (Nat.not_le_of_lt hq)

/-- The full test reads the length. -/
theorem kernelMsgQIsFull_iff :
    kernelMsgQIsFull sMsgQ qname = true
      ↔ (msgQContents sMsgQ qname).length = MSG_Q_SIZE_BYTE - 1 := by
  rw [msgQContents_eq sMsgQ hq, kernelMsgQIsFull, dif_neg (Nat.not_le_of_lt hq),
    decide_eq_true_iff]
  exact CircularBuffer.full_iff _ (KernelCirQ.front_lt _) (KernelCirQ.rear_lt _)

/-- The empty test reads the contents. -/
theorem kernelMsgQIsEmpty_iff :
    kernelMsgQIsEmpty sMsgQ qname = true ↔ msgQContents sMsgQ qname = [] := by
  rw [msgQContents_eq sMsgQ hq, kernelMsgQIsEmpty, dif_neg (Nat.not_le_of_lt hq),
    decide_eq_true_iff]
  exact (CircularBuffer.contents_eq_nil_iff _ (KernelCirQ.front_lt _)
    (KernelCirQ.rear_lt _)).symm

/-- An enqueue on a full queue fails. -/
theorem kernelMsgQEnqueue_full (data : U8)
    (hfull : (msgQContents sMsgQ qname).length = MSG_Q_SIZE_BYTE - 1) :
    kernelMsgQEnqueue sMsgQ qname data = none := by
  rw [kernelMsgQEnqueue, dif_neg (Nat.not_le_of_lt hq),
    if_pos ((kernelMsgQIsFull_iff sMsgQ hq).mpr hfull)]

/-- Any other enqueue appends the byte, and no other queue changes. -/
theorem kernelMsgQEnqueue_room (data : U8)
    (hroom : (msgQContents sMsgQ qname).length ≠ MSG_Q_SIZE_BYTE - 1) :
    ∃ sMsgQ', kernelMsgQEnqueue sMsgQ qname data = some sMsgQ' ∧
      msgQContents sMsgQ' qname = msgQContents sMsgQ qname ++ [data] ∧
      ∀ other, other ≠ qname → msgQContents sMsgQ' other = msgQContents sMsgQ other := by
  have hnot : ¬ kernelMsgQIsFull sMsgQ qname = true := fun h =>
    hroom ((kernelMsgQIsFull_iff sMsgQ hq).mp h)
  -- The test on the indices, for `toList_enqueue`.
  have hrear : ((sMsgQ.get ⟨qname, hq⟩).rear + 1) % MSG_Q_SIZE_BYTE
      ≠ (sMsgQ.get ⟨qname, hq⟩).front := by
    rw [kernelMsgQIsFull, dif_neg (Nat.not_le_of_lt hq)] at hnot
    simpa using hnot
  refine ⟨sMsgQ.set qname ((sMsgQ.get ⟨qname, hq⟩).enqueue data) hq, ?_, ?_,
    fun other ho => ?_⟩
  · rw [kernelMsgQEnqueue, dif_neg (Nat.not_le_of_lt hq), if_neg hnot]
  · rw [msgQContents_set, if_pos rfl, toList_enqueue _ hrear, msgQContents_eq sMsgQ hq]
  · rw [msgQContents_set, if_neg ho]

/-- A dequeue on an empty queue fails. -/
theorem kernelMsgQDequeue_nil (hnil : msgQContents sMsgQ qname = []) :
    kernelMsgQDequeue sMsgQ qname = none := by
  rw [kernelMsgQDequeue, dif_neg (Nat.not_le_of_lt hq),
    if_pos ((kernelMsgQIsEmpty_iff sMsgQ hq).mpr hnil)]

/-- Any other dequeue yields the oldest byte, and no other queue changes. -/
theorem kernelMsgQDequeue_cons {b : U8} {rest : List U8}
    (hcons : msgQContents sMsgQ qname = b :: rest) :
    ∃ sMsgQ', kernelMsgQDequeue sMsgQ qname = some (b, sMsgQ') ∧
      msgQContents sMsgQ' qname = rest ∧
      ∀ other, other ≠ qname → msgQContents sMsgQ' other = msgQContents sMsgQ other := by
  have hnot : ¬ kernelMsgQIsEmpty sMsgQ qname = true := fun h => by
    rw [(kernelMsgQIsEmpty_iff sMsgQ hq).mp h] at hcons
    cases hcons
  have hne : (sMsgQ.get ⟨qname, hq⟩).front ≠ (sMsgQ.get ⟨qname, hq⟩).rear := by
    rw [kernelMsgQIsEmpty, dif_neg (Nat.not_le_of_lt hq)] at hnot
    simpa using hnot
  -- The bytes of a list are its head and its tail in one way only.
  rw [msgQContents_eq sMsgQ hq, toList_dequeue _ hne] at hcons
  obtain ⟨hb, hrest⟩ := List.cons.inj hcons
  refine ⟨sMsgQ.set qname (sMsgQ.get ⟨qname, hq⟩).dequeue.2 hq, ?_, ?_, fun other ho => ?_⟩
  · rw [kernelMsgQDequeue, dif_neg (Nat.not_le_of_lt hq), if_neg hnot, ← hb]
  · rw [msgQContents_set, if_pos rfl, hrest]
  · rw [msgQContents_set, if_neg ho]

end

end PikvmHid
