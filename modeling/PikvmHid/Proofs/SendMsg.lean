import Mathlib.Data.List.PeriodicityLemma
import PikvmHid.Brd.Uart
import PikvmHid.Proofs.Queues
import PikvmHid.Spec.SendMsg

/-!
# `PikvmHid.Proofs.SendMsg`: the rollback takes the oldest bytes

A message that does not fit goes in up to the room there is, and the rollback then takes as
many bytes from the other end of the queue: `kernelSendMsg_overflow`. What was queued is
there again only if it looks the same after that: `all_or_nothing_iff`.
-/

set_option autoImplicit false

namespace PikvmHid

open Kernel

/-- The rollback drops the oldest bytes of the queue. -/
theorem kernelSendMsg_rollback_contents {qname : Nat} (hq : qname < KernelMsgQ_Num) (j : Nat) :
    ∀ k : Kernel,
      (kernelSendMsg.rollback qname j k).contents qname = (k.contents qname).drop j := by
  induction j with
  | zero => exact fun _ => rfl
  | succ j ih =>
      intro k
      cases hc : k.contents qname with
      | nil => rw [kernelSendMsg.rollback, k.dequeue_nil hq hc, ih, hc, List.drop_nil, List.drop_nil]
      | cons b rest =>
          obtain ⟨k', hk', hrest, -⟩ := k.dequeue_cons hq hc
          rw [kernelSendMsg.rollback, hk', List.drop_succ_cons, ← hrest]
          exact ih k'

/-- The send loop without room for the rest of the message, behind `i` bytes that went in:
the room is filled, and all that went in is taken from the front. -/
theorem kernelSendMsg_loop_overflow {qname : Nat} (hq : qname < KernelMsgQ_Num)
    (ds : List U8) :
    ∀ (i : Nat) (k : Kernel),
      MSG_Q_SIZE_BYTE - 1 < (k.contents qname).length + ds.length →
      (kernelSendMsg.loop qname i ds k).2.contents qname
        = (k.contents qname ++ ds.take (k.room qname)).drop (i + k.room qname) := by
  induction ds with
  | nil =>
      intro i k hover
      have := k.length_contents_lt qname
      rw [List.length_nil] at hover
      omega
  | cons d ds ih =>
      intro i k hover
      by_cases hfull : (k.contents qname).length = MSG_Q_SIZE_BYTE - 1
      · have hroom : k.room qname = 0 := by rw [room, hfull, Nat.sub_self]
        rw [kernelSendMsg.loop, k.enqueue_full hq d hfull, hroom, List.take_zero,
          List.append_nil]
        exact kernelSendMsg_rollback_contents hq i k
      · -- This byte goes in, and the room is one less for the others.
        have hlt := k.length_contents_lt qname
        obtain ⟨k₁, h₁, happ, -⟩ := k.enqueue_room hq d (by omega)
        have hlen₁ : (k₁.contents qname).length = (k.contents qname).length + 1 := by
          rw [happ, List.length_append, List.length_singleton]
        have hroom : k.room qname = k₁.room qname + 1 := by
          unfold room
          omega
        rw [List.length_cons] at hover
        rw [kernelSendMsg.loop, h₁]
        show (kernelSendMsg.loop qname (i + 1) ds k₁).2.contents qname = _
        rw [ih (i + 1) k₁ (by omega), happ, hroom, List.take_succ_cons, List.append_assoc,
          Nat.add_assoc, Nat.add_comm 1]
        rfl

/-- The queue after a message that does not fit: what was queued and the bytes that went in,
without as many of the oldest. -/
theorem kernelSendMsg_overflow {k : Kernel} {qname : Nat} (hq : qname < KernelMsgQ_Num)
    {data : List U8} (hover : MSG_Q_SIZE_BYTE - 1 < (k.contents qname).length + data.length) :
    (kernelSendMsg k qname data).2.contents qname
      = (k.contents qname ++ data.take (k.room qname)).drop (k.room qname) := by
  rw [kernelSendMsg, kernelSendMsg_loop_overflow hq data 0 k hover, Nat.zero_add]

/-- A list with `d` behind it looks the same without its first elements, as many as `d` has,
if the two have that number as a period. -/
theorem drop_append_eq_iff_hasPeriod (l d : List U8) :
    (l ++ d).drop d.length = l ↔ (l ++ d).HasPeriod d.length := by
  have hlen : (l ++ d).length - d.length = l.length := by
    rw [List.length_append, Nat.add_sub_cancel]
  rw [List.hasPeriod_iff_getElem?, hlen, List.ext_getElem?_iff]
  constructor
  · intro h i hi
    have hi' := h i
    rw [List.getElem?_drop, Nat.add_comm] at hi'
    rw [hi', List.getElem?_append_left hi]
  · intro h i
    rw [List.getElem?_drop, Nat.add_comm]
    by_cases hi : i < l.length
    · rw [← h i hi, List.getElem?_append_left hi]
    · -- Behind the end there is nothing on either side.
      rw [List.getElem?_eq_none (Nat.le_of_not_lt hi), List.getElem?_eq_none]
      rw [List.length_append]
      omega

/-- A message with a name out of range: an empty one is sent, and any other is not. Nothing
changes. -/
theorem kernelSendMsg_out_of_range (k : Kernel) {qname : Nat} (hq : KernelMsgQ_Num ≤ qname)
    (data : List U8) : kernelSendMsg k qname data = (data.isEmpty, k) := by
  cases data with
  | nil => rfl
  | cons d ds =>
      rw [kernelSendMsg, kernelSendMsg.loop, enqueue_out_of_range k hq]
      rfl

/-- For every queue, every contents and every message: the call is all or nothing exactly if
the message fits, or what is queued, with the bytes that go in before the queue is full, has
the number of these as a period. -/
theorem all_or_nothing_iff (k : Kernel) (qname : Nat) (data : List U8) :
    AllOrNothing k qname data ↔
      (k.contents qname).length + data.length ≤ MSG_Q_SIZE_BYTE - 1 ∨
        (k.contents qname ++ data.take (k.room qname)).HasPeriod (k.room qname) := by
  by_cases hq : qname < KernelMsgQ_Num
  · have hspec := (kernelSendMsg_spec k hq data).2
    by_cases hfit : (k.contents qname).length + data.length ≤ MSG_Q_SIZE_BYTE - 1
    · rw [if_pos hfit] at hspec
      exact iff_of_true (Or.inl hspec) (Or.inl hfit)
    · rw [if_neg hfit] at hspec
      have hover := Nat.lt_of_not_le hfit
      have hlen : (data.take (k.room qname)).length = k.room qname := by
        rw [List.length_take]
        unfold room
        omega
      have hperiod := drop_append_eq_iff_hasPeriod (k.contents qname) (data.take (k.room qname))
      rw [hlen] at hperiod
      rw [AllOrNothing, hspec, kernelSendMsg_overflow hq hover, hperiod]
      simp only [Bool.false_eq_true, false_and, true_and, false_or, hfit]
  · -- A name out of range stands for a queue that is empty and stays so.
    have hout := Nat.le_of_not_lt hq
    have hnil := contents_out_of_range k hout
    have hroom : k.room qname = MSG_Q_SIZE_BYTE - 1 := by
      rw [room, hnil, List.length_nil, Nat.sub_zero]
    refine iff_of_true ?_ (Or.inr ?_)
    · rw [AllOrNothing, kernelSendMsg_out_of_range k hout, hnil]
      cases data with
      | nil => exact Or.inl ⟨rfl, rfl⟩
      | cons d ds => exact Or.inr ⟨rfl, rfl⟩
    · rw [hnil, hroom]
      exact List.hasPeriod_of_length_le _ _ (List.length_take_le _ _)

/-- A queue of one byte, and a message one byte too long for it: the call fails, and the
queued byte is gone, with the 510th of the message in its place. -/
theorem rollback_takes_old_byte :
    let k := (kernelSendMsg .boot KernelMsgQ_DebugCmd [CHAR_3]).2
    k.contents KernelMsgQ_DebugCmd = [CHAR_3] ∧
      (kernelSendMsg k KernelMsgQ_DebugCmd (List.replicate 511 CHAR_AT)).2.contents
        KernelMsgQ_DebugCmd = [CHAR_AT] ∧
      ¬ AllOrNothing k KernelMsgQ_DebugCmd (List.replicate 511 CHAR_AT) := by
  intro k
  have hq : KernelMsgQ_DebugCmd < KernelMsgQ_Num := by decide
  have hk : k.contents KernelMsgQ_DebugCmd = [CHAR_3] := contents_sendMsg_boot hq _ (by decide)
  have hroom : k.room KernelMsgQ_DebugCmd = 510 := by
    rw [room, hk]
    rfl
  have hover : MSG_Q_SIZE_BYTE - 1 < (k.contents KernelMsgQ_DebugCmd).length
      + (List.replicate 511 CHAR_AT).length := by
    rw [hk, List.length_replicate]
    decide
  have hafter : (kernelSendMsg k KernelMsgQ_DebugCmd (List.replicate 511 CHAR_AT)).2.contents
      KernelMsgQ_DebugCmd = [CHAR_AT] := by
    rw [kernelSendMsg_overflow hq hover, hk, hroom, List.take_replicate, List.singleton_append,
      List.drop_succ_cons, List.drop_replicate]
    rfl
  refine ⟨hk, hafter, ?_⟩
  rintro (⟨-, hsent⟩ | ⟨-, hkept⟩)
  · rw [hafter, hk] at hsent
    have hhead : some CHAR_AT = some CHAR_3 := congrArg List.head? hsent
    exact absurd hhead (by decide)
  · rw [hafter, hk] at hkept
    exact absurd hkept (by decide)

end PikvmHid
