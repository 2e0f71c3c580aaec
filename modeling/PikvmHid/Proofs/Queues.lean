import PikvmHid.Spec.Queues

/-!
# `PikvmHid.Proofs.Queues`: the message queues are bounded FIFOs

A circular buffer with its two wrapping indices is the list of the bytes it holds
(`Kernel.contents`), and each call does to the lists what `fifos` does:
`queues_simulates_fifos`. So does any run of calls, and what happens to one queue depends on
the calls on that queue alone: `queues_are_fifos`.
-/

set_option autoImplicit false

namespace PikvmHid

open Lib Lib.BoundedFifo

/-! ### Names out of range -/

section
variable (k : Kernel) {qname : Nat} (hq : KernelMsgQ_Num ≤ qname)

include hq

/-- There is no such queue, so it is empty. -/
theorem contents_out_of_range : k.contents qname = [] := dif_pos hq

/-- It takes no byte. -/
theorem enqueue_out_of_range (data : U8) : k.enqueue qname data = none := by
  rw [Kernel.enqueue, kernelMsgQEnqueue, dif_pos hq]
  rfl

/-- It gives none. -/
theorem dequeue_out_of_range : k.dequeue qname = none := by
  rw [Kernel.dequeue, kernelMsgQDequeue, dif_pos hq]
  rfl

/-- It gives no message. -/
theorem recvMsg_out_of_range (count : Nat) : kernelRecvMsg k qname count = ([], k) := by
  cases count with
  | zero => rfl
  | succ count => simp only [kernelRecvMsg, dequeue_out_of_range k hq]

/-- Flushing it does nothing. -/
theorem flushMsg_out_of_range : kernelFlushMsg k qname = k := by
  simp only [kernelFlushMsg, kernelFlushMsg.loop, dequeue_out_of_range k hq]

/-- A call with a name out of range changes nothing. -/
theorem queueStep_out_of_range (op : Op U8) : (queueStep k (qname, op)).1 = k := by
  cases op with
  | push data => simp only [queueStep, enqueue_out_of_range k hq]
  | pop => simp only [queueStep, dequeue_out_of_range k hq]
  | take count => simp only [queueStep, recvMsg_out_of_range k hq]
  | clear => exact flushMsg_out_of_range k hq

end

/-! ### The calls on the contents -/

/-- `Kernel_recv_msg` hands out the oldest bytes, as many as there are up to `count`. -/
theorem kernelRecvMsg_spec {qname : Nat} (hq : qname < KernelMsgQ_Num) (count : Nat) :
    ∀ k : Kernel, (kernelRecvMsg k qname count).1 = (k.contents qname).take count ∧
      (kernelRecvMsg k qname count).2.contents qname = (k.contents qname).drop count ∧
      k.SameBut qname (kernelRecvMsg k qname count).2 := by
  induction count with
  | zero => exact fun k => ⟨rfl, rfl, Kernel.SameBut.refl qname k⟩
  | succ count ih =>
      intro k
      cases hc : k.contents qname with
      | nil =>
          rw [kernelRecvMsg, k.dequeue_nil hq hc]
          exact ⟨rfl, hc, Kernel.SameBut.refl qname k⟩
      | cons b rest =>
          -- The first byte is the head, and the others come from the tail.
          obtain ⟨k', hk', hrest, hsame⟩ := k.dequeue_cons hq hc
          obtain ⟨htake, hdrop, hsame'⟩ := ih k'
          rw [kernelRecvMsg, hk', List.take_succ_cons, List.drop_succ_cons, ← hrest, ← htake,
            ← hdrop]
          exact ⟨rfl, rfl, hsame.trans hsame'⟩

/-- More rounds than a queue has slots change nothing: the loop of `Kernel_flush_msg` has
left through its `break`. -/
theorem kernelFlushMsg_loop_stable {qname : Nat} (fuel : Nat) (k : Kernel)
    (hstop : (kernelFlushMsg.loop qname fuel k).dequeue qname = none) (more : Nat) :
    kernelFlushMsg.loop qname (fuel + more) k = kernelFlushMsg.loop qname fuel k := by
  induction fuel generalizing k with
  | zero =>
      cases more with
      | zero => rfl
      | succ more =>
          have hk : k.dequeue qname = none := hstop
          show kernelFlushMsg.loop qname (0 + more + 1) k = k
          rw [kernelFlushMsg.loop, hk]
  | succ fuel ih =>
      rw [Nat.add_right_comm, kernelFlushMsg.loop, kernelFlushMsg.loop]
      cases hd : k.dequeue qname with
      | none => rfl
      | some r =>
          rw [kernelFlushMsg.loop, hd] at hstop
          exact ih r.2 hstop

/-- The flush of any queue stops, with nothing left to take. -/
theorem kernelFlushMsg_stops (k : Kernel) (qname : Nat) :
    (kernelFlushMsg k qname).dequeue qname = none := by
  by_cases hq : qname < KernelMsgQ_Num
  · exact (kernelFlushMsg_spec k hq).2.1
  · rw [flushMsg_out_of_range k (Nat.le_of_not_lt hq)]
    exact dequeue_out_of_range k (Nat.le_of_not_lt hq)

/-- A call that fails changes nothing. -/
theorem queueStep_failed (k : Kernel) (call : QueueCall)
    (h : ∀ r ∈ (queueStep k call).2, Failed r.2) : (queueStep k call).1 = k := by
  obtain ⟨qname, op⟩ := call
  -- A call that fails has not come to its write.
  cases op with
  | push data =>
      simp only [queueStep] at h ⊢
      cases hk : k.enqueue qname data with
      | none => rfl
      | some k' =>
          rw [hk] at h
          have hok : true = false := h _ (List.mem_singleton_self _)
          exact absurd hok (by decide)
  | pop =>
      simp only [queueStep] at h ⊢
      cases hk : k.dequeue qname with
      | none => rfl
      | some r =>
          rw [hk] at h
          exact absurd (h _ (List.mem_singleton_self _)) (Option.some_ne_none r.1)
  | take count =>
      have hnil : (kernelRecvMsg k qname count).1 = [] := h _ (List.mem_singleton_self _)
      show (kernelRecvMsg k qname count).2 = k
      cases count with
      | zero => rfl
      | succ count =>
          rw [kernelRecvMsg] at hnil ⊢
          cases hk : k.dequeue qname with
          | none => rfl
          | some r =>
              rw [hk] at hnil
              exact absurd hnil (List.cons_ne_nil _ _)
  | clear => exact (h _ (List.mem_singleton_self _)).elim

/-! ### The simulation -/

/-- The contents after a change of one queue. -/
theorem contents_update {k k' : Kernel} {qname : Nat} (hsame : k.SameBut qname k')
    {l : List U8} (hl : k'.contents qname = l) :
    Function.update k.contents qname l = k'.contents := by
  funext other
  by_cases ho : other = qname
  · rw [ho, Function.update_self, hl]
  · rw [Function.update_of_ne ho, hsame.contents other ho]

/-- A call that changes the contents as the FIFO does, and answers as it does, simulates
it. -/
theorem fifos_step_eq (k : Kernel) (qname : Nat) (op : Op U8) {s : Kernel}
    {r : Result U8} (hstep : queueStep k (qname, op) = (s, [(qname, r)]))
    (hsame : k.SameBut qname s)
    (hfifo : BoundedFifo.step (capacityOf qname) (k.contents qname) op
      = (s.contents qname, [r])) :
    fifos.step k.contents (qname, op)
      = ((queues.step k (qname, op)).1.contents, (queues.step k (qname, op)).2) := by
  have hq : queues.step k (qname, op) = (s, [(qname, r)]) := hstep
  rw [hq]
  show (Function.update k.contents qname
      (BoundedFifo.step (capacityOf qname) (k.contents qname) op).1,
    (BoundedFifo.step (capacityOf qname) (k.contents qname) op).2.map (Prod.mk qname)) = _
  rw [hfifo, contents_update hsame rfl]
  rfl

/-- Each call does to the contents what the bounded queues do. -/
theorem queues_simulates_fifos : queues.Simulates fifos Kernel.contents := by
  rintro k ⟨qname, op⟩
  by_cases hq : qname < KernelMsgQ_Num
  · have hcap : capacityOf qname = MSG_Q_SIZE_BYTE - 1 := if_pos hq
    cases op with
    | push data =>
        by_cases hfull : (k.contents qname).length = MSG_Q_SIZE_BYTE - 1
        · refine fifos_step_eq k qname _ (s := k) (r := .pushed false) ?_
            (Kernel.SameBut.refl qname k) ?_
          · simp only [queueStep, k.enqueue_full hq data hfull]
          · rw [BoundedFifo.step, hcap, hfull, if_neg (Nat.lt_irrefl _)]
        · have hlt : (k.contents qname).length < MSG_Q_SIZE_BYTE - 1 := by
            have := k.length_contents_lt qname
            omega
          obtain ⟨k', hk', happ, hsame⟩ := k.enqueue_room hq data hlt
          refine fifos_step_eq k qname _ (r := .pushed true) ?_ hsame ?_
          · simp only [queueStep, hk']
          · rw [BoundedFifo.step, hcap, if_pos hlt, happ]
    | pop =>
        cases hc : k.contents qname with
        | nil =>
            refine fifos_step_eq k qname _ (s := k) (r := .popped none) ?_
              (Kernel.SameBut.refl qname k) ?_
            · simp only [queueStep, k.dequeue_nil hq hc]
            · rw [BoundedFifo.step, hc]
              rfl
        | cons b rest =>
            obtain ⟨k', hk', hrest, hsame⟩ := k.dequeue_cons hq hc
            refine fifos_step_eq k qname _ (r := .popped (some b)) ?_ hsame ?_
            · simp only [queueStep, hk']
            · rw [BoundedFifo.step, hc, hrest]
              rfl
    | take count =>
        obtain ⟨htake, hdrop, hsame⟩ := kernelRecvMsg_spec hq count k
        refine fifos_step_eq k qname _ rfl hsame ?_
        rw [BoundedFifo.step, htake, hdrop]
    | clear =>
        obtain ⟨hempty, -, hsame⟩ := kernelFlushMsg_spec k hq
        refine fifos_step_eq k qname _ rfl hsame ?_
        rw [BoundedFifo.step, hempty]
  · -- A queue without room takes nothing, holds nothing and hands out nothing.
    have hout : KernelMsgQ_Num ≤ qname := Nat.le_of_not_lt hq
    have hcap : capacityOf qname = 0 := if_neg hq
    have hnil := contents_out_of_range k hout
    have hsame := Kernel.SameBut.refl qname k
    cases op with
    | push data =>
        refine fifos_step_eq k qname _ (s := k) (r := .pushed false) ?_ hsame ?_
        · simp only [queueStep, enqueue_out_of_range k hout]
        · rw [BoundedFifo.step, hcap, if_neg (Nat.not_lt_zero _)]
    | pop =>
        refine fifos_step_eq k qname _ (s := k) (r := .popped none) ?_ hsame ?_
        · simp only [queueStep, dequeue_out_of_range k hout]
        · rw [BoundedFifo.step, hnil]
          rfl
    | take count =>
        refine fifos_step_eq k qname _ (s := k) (r := .taken []) ?_ hsame ?_
        · simp only [queueStep, recvMsg_out_of_range k hout]
        · rw [BoundedFifo.step, hnil, List.take_nil, List.drop_nil]
    | clear =>
        refine fifos_step_eq k qname _ (s := k) (r := .cleared) ?_ hsame ?_
        · simp only [queueStep, flushMsg_out_of_range k hout]
        · rw [BoundedFifo.step, hnil]

/-- At power-up every queue is empty. -/
theorem contents_boot : Kernel.boot.contents = fun _ => [] := by
  funext qname
  unfold Kernel.contents msgQContents
  split
  · rfl
  · next h =>
      have hzero : Kernel.boot.sMsgQ.get ⟨qname, Nat.lt_of_not_le h⟩ = .zero :=
        Vector.getElem_replicate _
      rw [hzero, toList_zero]

/-- A message on the kernel at reset is all that is queued. -/
theorem contents_sendMsg_boot {qname : Nat} (hq : qname < KernelMsgQ_Num) (data : List U8)
    (hlen : data.length ≤ MSG_Q_SIZE_BYTE - 1) :
    (kernelSendMsg .boot qname data).2.contents qname = data := by
  have hspec := (kernelSendMsg_spec .boot hq data).2
  rw [contents_boot, if_pos (by rwa [List.length_nil, Nat.zero_add])] at hspec
  exact hspec.2

/-- After any calls from the start, each queue holds what its FIFO holds after the calls on
it, and has answered as that. -/
theorem contents_run (calls : List QueueCall) (qname : Nat) :
    ((queues.exec (Kernel.boot, []) calls).1.contents qname,
        Machine.addressed qname (queues.exec (Kernel.boot, []) calls).2)
      = (fifo (capacityOf qname)).exec ([], []) (Machine.addressed qname calls) := by
  have hrun := queues_simulates_fifos.exec_map (Kernel.boot, []) calls
  have hqueue := Machine.family_exec (fun qname => fifo (capacityOf qname)) qname
    (Kernel.boot.contents, []) calls
  rw [show Machine.family (fun qname => fifo (capacityOf qname)) = fifos from rfl, hrun,
    contents_boot] at hqueue
  exact hqueue

/-- No queue ever holds more than its capacity. -/
theorem length_contents_le (calls : List QueueCall) (qname : Nat) :
    ((queues.exec (Kernel.boot, []) calls).1.contents qname).length ≤ capacityOf qname := by
  have hrun := congrArg Prod.fst (contents_run calls qname)
  rw [show (queues.exec (Kernel.boot, []) calls).1.contents qname = _ from hrun]
  exact fifo_length_le (capacityOf qname) (Nat.zero_le _) _

/-- After any calls from the start, each queue holds what a FIFO with room for
`capacityOf` bytes holds after the calls on it, and the answers to these calls are those
of the FIFO. A call that fails and a call with a name out of range change nothing, and
`Kernel_flush_msg` leaves its loop with the queue empty. -/
theorem queues_are_fifos (calls : List QueueCall) (qname : Nat) :
    ((queues.exec (Kernel.boot, []) calls).1.contents qname,
        Machine.addressed qname (queues.exec (Kernel.boot, []) calls).2)
      = (fifo (capacityOf qname)).exec ([], []) (Machine.addressed qname calls) ∧
    (∀ (k : Kernel) (op : Op U8), KernelMsgQ_Num ≤ qname ∨
        (∀ r ∈ (queues.step k (qname, op)).2, Failed r.2) →
      (queues.step k (qname, op)).1 = k) ∧
    (∀ k : Kernel, (kernelFlushMsg k qname).dequeue qname = none ∧
      ∀ more, kernelFlushMsg.loop qname (MSG_Q_SIZE_BYTE + more) k
        = kernelFlushMsg k qname) := by
  refine ⟨contents_run calls qname, ?_, ?_⟩
  · rintro k op (hout | hfailed)
    · exact queueStep_out_of_range k hout op
    · exact queueStep_failed k (qname, op) hfailed
  · intro k
    have hstops := kernelFlushMsg_stops k qname
    exact ⟨hstops, kernelFlushMsg_loop_stable MSG_Q_SIZE_BYTE k hstops⟩

end PikvmHid
