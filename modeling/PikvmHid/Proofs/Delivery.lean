import PikvmHid.Proofs.Reader

/-!
# `PikvmHid.Proofs.Delivery`: frames that arrive before earlier ones are read

The interrupt can accept a frame while the task still has earlier ones to read. The
queue keeps no frame boundary, so the task finds the boundaries again, and it can be
wrong:

* It does not count the eight bytes of a binary frame. It reads until the queue is
  empty, so a binary frame and what stands behind it become one command
  (`merged_frames`).
* A raw frame of more than `MAX_CMD_LEN` bytes is accepted, and given up by the reader
  with its tail left in the queue.
* A frame that does not fit empties the queue.

`PipelineOk` excludes the three. It asks of a frame that completes that it fits the
reader's buffer and the queue, and that the reader is through with every binary frame
before it. Under it the handler calls are always a prefix of the accepted frames
(`exact_delivery`). The invariant, `Delivering`, splits the accepted frames into those
the reader is through with and those still in the queue.
-/

set_option autoImplicit false

namespace PikvmHid

open Lib

/-- The commands handed over are a prefix of the accepted frames: a raw frame without
its last byte, and a binary one as it is. -/
def ExactDelivery (t : List Obs) : Prop :=
  (dispatched t).map Prod.snd <+: (accepted t).map fun f => (commandOf f).2

instance : DecidablePred ExactDelivery := fun _ => inferInstanceAs (Decidable (_ <+: _))

/-- The command the loop has handed over when its handler is not called yet. -/
def inHand : Pc → List (Handler × List U8)
  | .dispatch i cmdBuf => [(handlerOf cmdBuf, cmdBuf.bytes i)]
  | _                  => []

/-- While a frame is received no command is in hand. -/
@[simp] theorem inHand_recvMsg (i : Nat) (cmdBuf : Buffer) :
    inHand (.recvMsg i cmdBuf) = [] := rfl

/-- A command about to be dispatched is. -/
@[simp] theorem inHand_dispatch (i : Nat) (cmdBuf : Buffer) :
    inHand (.dispatch i cmdBuf) = [(handlerOf cmdBuf, cmdBuf.bytes i)] := rfl

/-- It no longer is when its response is sent. -/
@[simp] theorem inHand_transmit (rest : List U8) : inHand (.transmit rest) = [] := rfl

namespace Link

/-- The accepted frames behind the commands handed over: the reader is not through with
them. -/
def unread (c : Link × List Obs) : List (List U8) :=
  (accepted c.2).drop (dispatched c.2 ++ inHand c.1.pc).length

/-- The condition on a step. A frame that completes has at most `MAX_CMD_LEN` bytes and
fits the queue, and no binary frame is unread. -/
def PipelineOk (c : Link × List Obs) : Act → Prop
  | .task _      => True
  | .isr ch tick => ∀ frame ∈ c.1.completes ch tick,
      frame.length ≤ MAX_CMD_LEN ∧ c.1.queue.length + frame.length ≤ capacity ∧
        ∀ f ∈ unread c, f.head? ≠ some CHAR_3

instance (c : Link × List Obs) : DecidablePred (PipelineOk c)
  | .task _      => isTrue trivial
  | .isr ch tick => inferInstanceAs (Decidable (∀ frame ∈ c.1.completes ch tick, _))

end Link

/-- The condition on a step of the device. -/
def PipelineOk (c : Dev × List Obs) (a : Act) : Prop := Link.PipelineOk (c.1.toLink, c.2) a

instance (c : Dev × List Obs) (a : Act) : Decidable (PipelineOk c a) :=
  inferInstanceAs (Decidable (Link.PipelineOk (c.1.toLink, c.2) a))

/-! ### The invariant -/

/-- How the frames `pend` that the reader is not through with lie in the queue. Inside the
loop the first of them is the one being read. A set flag stands for a frame that the
loop does not take along. -/
def Queued (pend : List (List U8)) (queue : List U8) (cmdIn : Bool) : Pc → Prop
  | .recvMsg i cmdBuf => ∃ f rest, pend = f :: rest ∧ (IsRawFrame f → i < f.length) ∧
      Reading f rest.flatten i cmdBuf queue ∧ (cmdIn = true → rest ≠ [])
  | _ => queue = pend.flatten ∧ (cmdIn = true → pend ≠ [])

/-- The accepted frames are `done ++ pend`. The commands of `done` are handed over, and
`pend` lies in the queue, with a binary frame only at its end. -/
structure Delivering (l : Link) (t : List Obs) (done pend : List (List U8)) : Prop where
  accepted_eq : accepted t = done ++ pend
  handed : done.map commandOf = dispatched t ++ inHand l.pc
  collecting : Collecting l.collected
  short : ∀ f ∈ pend, (IsBinaryFrame f ∨ IsRawFrame f) ∧ f.length ≤ MAX_CMD_LEN
  binaryLast : ∀ f ∈ pend.dropLast, IsRawFrame f
  queued : Queued pend l.queue l.cmdIn l.pc

namespace Delivering

variable {l : Link} {t : List Obs} {done pend : List (List U8)}

/-- A link with nothing under way, before its first observation. -/
theorem start {l : Link} (hcollected : l.collected = []) (hqueue : l.queue = [])
    (hflag : l.cmdIn = false) (hpc : l.pc = .waitEvents ∨ l.pc = .yield) :
    Delivering l [] [] [] where
  accepted_eq := rfl
  handed := by rcases hpc with hpc | hpc <;> rw [hpc] <;> rfl
  collecting := by
    rw [hcollected]
    exact collecting_nil
  short := fun _ hf => by cases hf
  binaryLast := fun _ hf => by cases hf
  queued := by
    rw [hqueue, hflag]
    rcases hpc with hpc | hpc <;> rw [hpc] <;> exact ⟨rfl, fun h => by cases h⟩

/-- At power-up nothing is delivered and nothing pending. -/
theorem boot : Delivering Link.boot [] [] [] := start rfl rfl rfl (Or.inl rfl)

/-- The frames the reader is not through with are the unread ones. -/
theorem unread_eq (h : Delivering l t done pend) : Link.unread (l, t) = pend := by
  have hlen : (dispatched t ++ inHand l.pc).length = done.length := by
    rw [← h.handed, List.length_map]
  rw [Link.unread, hlen, h.accepted_eq, List.drop_left]

/-- The invariant says that the delivery is exact, with the right handlers. -/
theorem dispatched_isPrefix (h : Delivering l t done pend) :
    dispatched t <+: (accepted t).map commandOf := by
  rw [h.accepted_eq, List.map_append, h.handed, List.append_assoc]
  exact List.prefix_append _ _

/-- What was delivered was delivered exactly. -/
theorem exact (h : Delivering l t done pend) : ExactDelivery t := by
  obtain ⟨rest, hrest⟩ := h.dispatched_isPrefix
  refine ⟨rest.map Prod.snd, ?_⟩
  rw [← List.map_append, hrest, List.map_map]
  rfl

/-- A frame goes behind the frames in the queue, wherever the task stands. -/
theorem queued_append {queue : List U8} {cmdIn : Bool} {pc : Pc}
    (h : Queued pend queue cmdIn pc) (frame : List U8) :
    Queued (pend ++ [frame]) (queue ++ frame) true pc := by
  cases pc with
  | recvMsg i cmdBuf =>
      obtain ⟨f, rest, rfl, hraw, hreading, -⟩ := h
      refine ⟨f, rest ++ [frame], rfl, hraw, ?_, fun _ => by simp⟩
      rw [List.flatten_append, List.flatten_singleton]
      exact hreading.append frame
  | waitEvents | dispatch | transmit | yield =>
      obtain ⟨hqueue, -⟩ := h
      exact ⟨by rw [hqueue]; simp, fun _ => by simp⟩

/-- The interrupt keeps the invariant. -/
theorem isr (h : Delivering l t done pend) (ch : U8) (tick : U32)
    (hok : Link.PipelineOk (l, t) (.isr ch tick)) :
    ∃ pend', Delivering (l.isrStep ch tick).1 (t ++ (l.isrStep ch tick).2) done pend' := by
  have hcollecting : Collecting (l.isrStep ch tick).1.collected :=
    Link.collecting_step h.collecting (.isr ch tick)
  rcases l.isrStep_cases ch tick with ⟨-, hstep⟩ | ⟨frame, hframe, ⟨-, hstep⟩ | ⟨hover, -⟩⟩
  · -- A byte that completes no frame changes neither list.
    rw [hstep] at hcollecting ⊢
    refine ⟨pend, ?_⟩
    rw [List.append_nil]
    exact { h with collecting := hcollecting }
  · obtain ⟨hshort, -, hunread⟩ := hok frame hframe
    rw [h.unread_eq] at hunread
    rw [hstep] at hcollecting ⊢
    refine ⟨pend ++ [frame], ?_, ?_, hcollecting, ?_, ?_, queued_append h.queued frame⟩
    · rw [accepted_append, h.accepted_eq, List.append_assoc]
      rfl
    · rw [dispatched_append]
      simpa [dispatched] using h.handed
    · intro f hf
      rcases List.mem_append.mp hf with hf | hf
      · exact h.short f hf
      · rw [List.mem_singleton.mp hf]
        exact ⟨Link.completes_isFrame h.collecting hframe, hshort⟩
    · -- Every frame before the new one is raw: no binary frame is unread.
      rw [List.dropLast_concat]
      intro f hf
      exact (h.short f hf).1.resolve_left fun hbin => hunread f hf hbin.1
  · exact absurd (hok frame hframe).2.1 (Nat.not_le_of_lt hover)

/-- A round of the read loop keeps the invariant. The frame being read is raw, or it is
binary and the last one. -/
theorem recvMsg (h : Delivering l t done pend) {i : Nat} {cmdBuf : Buffer}
    (hpc : l.pc = .recvMsg i cmdBuf) :
    ∃ done' pend', Delivering { l with
      queue := l.queue.tail, pc := afterRecv i cmdBuf l.queue.head? } t done' pend' := by
  have hqueued := h.queued
  rw [hpc] at hqueued
  obtain ⟨f, rest, rfl, hraw, hreading, hflag⟩ := hqueued
  have hhanded : done.map commandOf = dispatched t := by
    have := h.handed
    rwa [hpc, inHand_recvMsg, List.append_nil] at this
  obtain ⟨hframe, hlen⟩ := h.short f (List.mem_cons_self ..)
  -- The frame is handed over, and the rest of the queue is what stood behind it.
  have through : ∀ cmdBuf', afterRecv i cmdBuf l.queue.head? = .dispatch i cmdBuf' →
      (handlerOf cmdBuf', cmdBuf'.bytes i) = commandOf f → l.queue.tail = rest.flatten →
      Delivering { l with queue := l.queue.tail, pc := afterRecv i cmdBuf l.queue.head? } t
        (done ++ [f]) rest := by
    intro cmdBuf' hafter hcmd htail
    refine ⟨?_, ?_, h.collecting, fun g hg => h.short g (List.mem_cons_of_mem f hg), ?_, ?_⟩
    · rw [h.accepted_eq, List.append_assoc]
      rfl
    · rw [List.map_append, hhanded, hafter, inHand_dispatch, hcmd]
      rfl
    · intro g hg
      refine h.binaryLast g ?_
      cases rest with
      | nil => cases hg
      | cons r rs => exact List.mem_cons_of_mem f hg
    · rw [hafter]
      exact ⟨htail, hflag⟩
  -- Behind a binary frame there is nothing.
  have hlast : IsBinaryFrame f → rest.flatten = [] := by
    intro hbin
    cases rest with
    | nil => rfl
    | cons r rs => exact absurd hbin.1 (h.binaryLast f (List.mem_cons_self ..)).head_ne
  rcases frame_step hframe hlen hraw hlast hreading with
    ⟨cmdBuf', hafter, hi, hreading'⟩ | ⟨cmdBuf', hafter, hcmd, htail⟩
  · refine ⟨done, f :: rest, h.accepted_eq, ?_, h.collecting, h.short, h.binaryLast, ?_⟩
    · rw [hhanded, hafter, inHand_recvMsg, List.append_nil]
    · rw [hafter]
      exact ⟨f, rest, rfl, hi, hreading', hflag⟩
  · exact ⟨_, _, through cmdBuf' hafter hcmd htail⟩

/-- Every other step of the task keeps the invariant. -/
theorem task (h : Delivering l t done pend) (env : TaskEnv) :
    ∃ done' pend', Delivering (l.taskStep env).1 (t ++ (l.taskStep env).2) done' pend' := by
  unfold Link.taskStep
  have hhanded := h.handed
  have hqueued := h.queued
  cases hpc : l.pc with
  | waitEvents =>
      rw [hpc] at hhanded hqueued
      obtain ⟨hqueue, hflag⟩ := hqueued
      refine ⟨done, pend, ?_⟩
      simp only [List.append_nil]
      cases hcmdIn : l.cmdIn with
      | false => exact { h with handed := hhanded, queued := ⟨hqueue, fun hf => by cases hf⟩ }
      | true =>
          -- The flag is set, so there is a first frame, and the loop starts with it.
          obtain ⟨f, rest, rfl⟩ := List.exists_cons_of_ne_nil (hflag hcmdIn)
          refine { h with
            handed := hhanded,
            queued := ⟨f, rest, rfl, fun hr => ?_, ?_, fun hf => by cases hf⟩ }
          · exact Nat.lt_trans Nat.zero_lt_one hr.length_pos
          · rw [hqueue, List.flatten_cons]
            exact Reading.start f rest.flatten env.cmdBuf
  | recvMsg i cmdBuf =>
      simp only [List.append_nil]
      exact h.recvMsg hpc
  | dispatch i cmdBuf =>
      -- The command in hand becomes a handler call.
      rw [hpc] at hhanded hqueued
      refine ⟨done, pend, ?_, ?_, h.collecting, h.short, h.binaryLast, hqueued⟩
      · rw [accepted_append, accepted_handled, List.append_nil, h.accepted_eq]
      · rw [hhanded, dispatched_append, dispatched_handled, inHand_dispatch, inHand_transmit,
          List.append_nil]
  | transmit rest =>
      rw [hpc] at hhanded hqueued
      refine ⟨done, pend, ?_⟩
      cases rest with
      | nil =>
          simp only [List.append_nil]
          exact { h with handed := hhanded, queued := hqueued }
      | cons b rest =>
          refine ⟨?_, ?_, h.collecting, h.short, h.binaryLast, hqueued⟩
          · rw [accepted_append, h.accepted_eq]
            exact List.append_nil _
          · rw [hhanded, dispatched_append]
            simp [dispatched]
  | yield =>
      rw [hpc] at hhanded hqueued
      refine ⟨done, pend, ?_⟩
      simp only [List.append_nil]
      exact { h with handed := hhanded, queued := hqueued }

end Delivering

namespace Link

/-- The invariant of a configuration. -/
def DeliveryInv (c : Link × List Obs) : Prop := ∃ done pend, Delivering c.1 c.2 done pend

/-- A step that meets the condition keeps the invariant. -/
theorem deliveryInv_step (c : Link × List Obs) (a : Act) (h : DeliveryInv c)
    (hok : PipelineOk c a) : DeliveryInv (link.next c a) := by
  obtain ⟨done, pend, h⟩ := h
  cases a with
  | isr ch tick =>
      obtain ⟨pend', h'⟩ := h.isr ch tick hok
      exact ⟨done, pend', h'⟩
  | task env => exact h.task env

end Link

/-- In every run of the device from reset whose steps all meet the condition, the handler
calls are at every point a prefix of the accepted frames: no frame is lost, merged,
split or handed over twice. -/
theorem exact_delivery (acts : List Act) (hok : device.Meets PipelineOk (Dev.boot, []) acts)
    (pre : List Act) (hpre : pre <+: acts) :
    ExactDelivery (device.exec (Dev.boot, []) pre).2 := by
  have hlink : link.Meets Link.PipelineOk (Link.boot, []) acts :=
    (device_simulates_link.meets_map Link.PipelineOk (Dev.boot, []) acts).mp hok
  obtain ⟨done, pend, h⟩ := link.invariant_along Link.deliveryInv_step
    (⟨[], [], Delivering.boot⟩ : Link.DeliveryInv (Link.boot, [])) hlink hpre
  rw [device_exec] at h
  exact h.exact

/-- Two raw frames that arrive while the first is being read. -/
theorem exact_delivery_raw_pair :
    ExactDelivery (device.exec (Dev.boot, [])
      (received [CHAR_AT, 0x31, CHAR_CR] 0 ++ taskSteps 2 .ok
        ++ received [CHAR_HASH, 0x32, CHAR_LF] 7 ++ taskSteps 20 .ok)).2 :=
  exact_delivery _ (by decide +kernel) _ (List.prefix_refl _)

/-- Two pings that arrive before the task wakes up are one command of 16 bytes. -/
theorem merged_frames :
    ¬ ExactDelivery (device.exec (Dev.boot, [])
      (received (pingFrame ++ pingFrame) 0 ++ taskSteps 19 .ok)).2 := by
  decide +kernel

end PikvmHid
