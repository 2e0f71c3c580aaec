import PikvmHid.Proofs.Reader

/-!
# `PikvmHid.Proofs.Wakeup`: the event flag and the queue

The flag `KernelEventFlag_CmdIn` is one bit, set once for each accepted frame and
cleared once for each pass of the reader. So it tells the task what waits in the queue
as long as one pass takes all of it:

* `WakeupExact` is the property: when the task is about to wait, the flag is set exactly
  if the queue holds something.
* `WakeOk` is the condition on a step. A frame completes only when the reader's next pass
  takes it together with everything that waits before it, and no binary frame is being
  read. `wakeup_exact` proves the property for the runs that meet it.
* `lost_wakeup` is a run without it: of two raw frames the second one stays.
-/

set_option autoImplicit false

namespace PikvmHid

open Lib

instance : DecidablePred (· = Pc.waitEvents)
  | .waitEvents  => isTrue rfl
  | .recvMsg _ _ => isFalse nofun
  | .dispatch _ _ => isFalse nofun
  | .transmit _  => isFalse nofun
  | .yield       => isFalse nofun

/-- When the task is about to wait, the flag is set exactly if the queue is not empty. -/
def WakeupExact (d : Dev) : Prop :=
  d.pc = .waitEvents →
    (d.kernel.sEventFlag &&& KernelEventFlag_CmdIn ≠ 0 ↔
      d.kernel.contents KernelMsgQ_DebugCmd ≠ [])

instance : DecidablePred WakeupExact := fun d =>
  inferInstanceAs (Decidable (d.pc = .waitEvents →
    (d.kernel.sEventFlag &&& KernelEventFlag_CmdIn ≠ 0 ↔
      d.kernel.contents KernelMsgQ_DebugCmd ≠ [])))

/-- One pass of the reader takes all that waits and the frame: nothing waits, or what
waits starts with `'3'`, and it is at most `MAX_CMD_LEN` bytes with the frame. -/
def RoomForOnePass (waiting frame : List U8) : Prop :=
  (waiting = [] ∨ waiting.head? = some CHAR_3) ∧
    waiting.length + frame.length ≤ MAX_CMD_LEN

instance (waiting frame : List U8) : Decidable (RoomForOnePass waiting frame) :=
  inferInstanceAs (Decidable (_ ∧ _))

/-- The bytes behind the first end of line. -/
def behindEol (queue : List U8) : List U8 :=
  (queue.dropWhile fun b => decide (¬ IsEol b)).tail

namespace Link

/-- The condition on a step. Outside the read loop, a frame that completes has room for
one pass. Inside, the frame being read is a raw one, and the new frame has room for one
pass with what stands behind it. -/
def WakeOk (c : Link × List Obs) : Act → Prop
  | .task _      => True
  | .isr ch tick => ∀ frame ∈ c.1.completes ch tick,
      match c.1.pc with
      | .recvMsg i cmdBuf => (cmdBuf.bytes i ++ c.1.queue).head? ≠ some CHAR_3 ∧
          RoomForOnePass (behindEol c.1.queue) frame
      | _ => RoomForOnePass c.1.queue frame

instance (c : Link × List Obs) : DecidablePred (WakeOk c)
  | .task _ => isTrue trivial
  | .isr ch tick => by
      unfold WakeOk
      cases c.1.pc <;> exact inferInstance

end Link

/-- The condition on a step of the device. -/
def WakeOk (c : Dev × List Obs) (a : Act) : Prop := Link.WakeOk (c.1.toLink, c.2) a

instance (c : Dev × List Obs) (a : Act) : Decidable (WakeOk c a) :=
  inferInstanceAs (Decidable (Link.WakeOk (c.1.toLink, c.2) a))

/-! ### The invariant -/

/-- What one pass of the reader takes: nothing, a raw frame, or bytes behind a `'3'`. -/
def OnePass (queue : List U8) : Prop :=
  queue = [] ∨
    (IsRawFrame queue ∨ queue.head? = some CHAR_3) ∧ queue.length ≤ MAX_CMD_LEN

/-- The flag and the queue agree, and one pass takes what waits. Inside the loop this is
said of what stands behind the frame being read. -/
def Wake (queue : List U8) (cmdIn : Bool) : Pc → Prop
  | .recvMsg i cmdBuf =>
      (∃ f rest, (IsRawFrame f ∧ f.length ≤ MAX_CMD_LEN ∧ i < f.length) ∧
        Reading f rest i cmdBuf queue ∧ OnePass rest ∧ (cmdIn = true ↔ rest ≠ [])) ∨
      (∃ chunk, (chunk.head? = some CHAR_3 ∧ chunk.length ≤ MAX_CMD_LEN) ∧
        Reading chunk [] i cmdBuf queue ∧ cmdIn = false)
  | _ => OnePass queue ∧ (cmdIn = true ↔ queue ≠ [])

/-- The invariant of a configuration. -/
structure WakeInv (c : Link × List Obs) : Prop where
  collecting : Collecting c.1.collected
  wake : Wake c.1.queue c.1.cmdIn c.1.pc

/-- At power-up nothing is owed. -/
theorem WakeInv.boot : WakeInv (Link.boot, []) where
  collecting := collecting_nil
  wake := ⟨Or.inl rfl, by decide⟩

/-- A frame with room keeps one pass enough. -/
theorem OnePass.append {waiting frame : List U8} (hroom : RoomForOnePass waiting frame)
    (hframe : IsBinaryFrame frame ∨ IsRawFrame frame) : OnePass (waiting ++ frame) := by
  obtain ⟨hwaiting, hlen⟩ := hroom
  rw [← List.length_append] at hlen
  refine Or.inr ⟨?_, hlen⟩
  rcases hwaiting with rfl | hhead
  · exact hframe.symm.imp id And.left
  · rw [List.head?_append, hhead]
    exact Or.inr rfl

/-- Behind the end of line of the frame being read stands the rest of the queue. -/
theorem behindEol_eq {f rest queue : List U8} {i : Nat} {cmdBuf : Buffer}
    (hf : IsRawFrame f) (hi : i < f.length) (h : Reading f rest i cmdBuf queue) :
    behindEol queue = rest := by
  obtain ⟨start, payload, eol, rfl, hstart, hpayload, heol⟩ := hf.exists_eq
  -- What is left of the frame is bytes that end no line, and the byte that does.
  have hleft : ∃ bytes, (start :: (payload ++ [eol])).drop i = bytes ++ [eol] ∧
      ∀ b ∈ bytes, ¬ IsEol b := by
    refine ⟨(start :: payload).drop i, ?_, fun b hb => ?_⟩
    · rw [← List.cons_append, List.drop_append_of_le_length]
      have hlen : (start :: (payload ++ [eol])).length = (start :: payload).length + 1 := by simp
      omega
    · rcases List.mem_cons.mp (List.mem_of_mem_drop hb) with rfl | hb
      · exact not_isEol_of_isRawStart hstart
      · exact hpayload b hb
  obtain ⟨bytes, hdrop, hbytes⟩ := hleft
  have hskip : ∀ b ∈ bytes, decide (¬ IsEol b) = true := fun b hb => decide_eq_true (hbytes b hb)
  rw [behindEol, h.queue_eq, hdrop, List.append_assoc, List.dropWhile_append_of_pos hskip,
    List.singleton_append, List.dropWhile_cons_of_neg (by simpa using heol), List.tail_cons]

/-- The bytes read and the bytes queued are the chunk and the rest. -/
theorem Reading.bytes_append {chunk rest queue : List U8} {i : Nat} {cmdBuf : Buffer}
    (h : Reading chunk rest i cmdBuf queue) :
    cmdBuf.bytes i ++ queue = chunk ++ rest := by
  rw [h.read, h.queue_eq, ← List.append_assoc, List.take_append_drop]

/-- A frame that the condition lets complete keeps the flag and the queue in agreement. -/
theorem Wake.append {l : Link} {t : List Obs} (h : WakeInv (l, t)) {ch : U8} {tick : U32}
    {frame : List U8} (hok : Link.WakeOk (l, t) (.isr ch tick)) (hframe : l.completes ch tick = some frame) :
    Wake (l.queue ++ frame) true l.pc := by
  have hisframe := Link.completes_isFrame h.collecting hframe
  have hne : ∀ q : List U8, q ++ frame ≠ [] := fun q =>
    List.append_ne_nil_of_right_ne_nil q (ne_nil_of_isFrame hisframe)
  have hwake := h.wake
  have hroom := hok frame hframe
  cases hpc : l.pc with
  | recvMsg i cmdBuf =>
      rw [hpc] at hwake
      simp only [hpc] at hroom
      rcases hwake with ⟨f, rest, ⟨hf, hlen, hi⟩, hreading, -, -⟩ | ⟨chunk, ⟨hhead, -⟩, hreading, -⟩
      · rw [behindEol_eq hf hi hreading] at hroom
        exact Or.inl ⟨f, rest ++ frame, ⟨hf, hlen, hi⟩, hreading.append frame,
          OnePass.append hroom.2 hisframe, by simp [hne]⟩
      · -- The condition lets nothing complete while a binary frame is read.
        rw [hreading.bytes_append, List.append_nil] at hroom
        exact absurd hhead hroom.1
  | waitEvents | dispatch | transmit | yield =>
      simp only [hpc] at hroom
      exact ⟨OnePass.append hroom hisframe, by simp [hne]⟩

/-- Under the condition no frame overflows the queue. -/
theorem fits_of_wakeOk {l : Link} {t : List Obs} (h : WakeInv (l, t)) {ch : U8} {tick : U32}
    {frame : List U8} (hok : Link.WakeOk (l, t) (.isr ch tick)) (hframe : l.completes ch tick = some frame) :
    l.queue.length + frame.length ≤ Link.capacity := by
  have hcap : 2 * MAX_CMD_LEN ≤ Link.capacity := by decide
  have hwake := h.wake
  have hroom := hok frame hframe
  cases hpc : l.pc with
  | recvMsg i cmdBuf =>
      rw [hpc] at hwake
      simp only [hpc] at hroom
      rcases hwake with ⟨f, rest, ⟨hf, hlen, hi⟩, hreading, -, -⟩ | ⟨chunk, ⟨hhead, -⟩, hreading, -⟩
      · rw [behindEol_eq hf hi hreading] at hroom
        have hsum := hroom.2.2
        rw [hreading.queue_eq, List.length_append, List.length_drop]
        omega
      · rw [hreading.bytes_append, List.append_nil] at hroom
        exact absurd hhead hroom.1
  | waitEvents | dispatch | transmit | yield =>
      simp only [hpc] at hroom
      have hsum := hroom.2
      omega

/-- A round of the read loop: what is behind the frame stays, and the flag with it. -/
theorem Wake.recvMsg {queue : List U8} {cmdIn : Bool} {i : Nat} {cmdBuf : Buffer}
    (h : Wake queue cmdIn (.recvMsg i cmdBuf)) :
    Wake queue.tail cmdIn (afterRecv i cmdBuf queue.head?) := by
  rcases h with ⟨f, rest, ⟨hf, hlen, hi⟩, hreading, hrest, hflag⟩ |
    ⟨chunk, ⟨hhead, hlen⟩, hreading, hflag⟩
  · rcases raw_step hf hlen hi hreading with
      ⟨cmdBuf', hafter, hi', hreading'⟩ | ⟨cmdBuf', hafter, -, htail⟩
    · rw [hafter]
      exact Or.inl ⟨f, rest, ⟨hf, hlen, hi'⟩, hreading', hrest, hflag⟩
    · rw [hafter, htail]
      exact ⟨hrest, hflag⟩
  · -- However the pass ends, it leaves nothing and the flag is clear.
    have hdone : OnePass [] ∧ (cmdIn = true ↔ ([] : List U8) ≠ []) :=
      ⟨Or.inl rfl, by simp [hflag]⟩
    rcases binary_step hhead hlen hreading with
      ⟨cmdBuf', hafter, hreading'⟩ | ⟨hafter, -, htail⟩ | ⟨cmdBuf', hafter, -, htail⟩
    · rw [hafter]
      exact Or.inr ⟨chunk, ⟨hhead, hlen⟩, hreading', hflag⟩
    · rw [hafter, htail]
      exact hdone
    · rw [hafter, htail]
      exact hdone

/-- The start of a pass: the flag is cleared, and the pass takes what waits. -/
theorem Wake.start {queue : List U8} (h : OnePass queue) (hne : queue ≠ [])
    (cmdBuf : Buffer) : Wake queue false (.recvMsg 0 cmdBuf) := by
  have hstart : Reading queue [] 0 cmdBuf queue := by
    simpa using Reading.start queue [] cmdBuf
  rcases h with rfl | ⟨hraw | hhead, hlen⟩
  · exact absurd rfl hne
  · have hpos := hraw.length_pos
    exact Or.inl ⟨queue, [], ⟨hraw, hlen, by omega⟩, hstart, Or.inl rfl, by simp⟩
  · exact Or.inr ⟨queue, ⟨hhead, hlen⟩, hstart, rfl⟩

/-- A step that meets the condition keeps the invariant. -/
theorem wakeInv_step (c : Link × List Obs) (a : Act) (h : WakeInv c) (hok : Link.WakeOk c a) :
    WakeInv (link.next c a) := by
  obtain ⟨l, t⟩ := c
  refine ⟨Link.collecting_step h.collecting a, ?_⟩
  cases a with
  | isr ch tick =>
      show Wake (l.isrStep ch tick).1.queue (l.isrStep ch tick).1.cmdIn (l.isrStep ch tick).1.pc
      rcases l.isrStep_cases ch tick with ⟨-, hstep⟩ | ⟨frame, hframe, ⟨-, hstep⟩ | ⟨hover, -⟩⟩
      · rw [hstep]
        exact h.wake
      · rw [hstep]
        exact Wake.append h hok hframe
      · exact absurd (fits_of_wakeOk h hok hframe) (Nat.not_le_of_lt hover)
  | task env =>
      show Wake (l.taskStep env).1.queue (l.taskStep env).1.cmdIn (l.taskStep env).1.pc
      have hwake : Wake l.queue l.cmdIn l.pc := h.wake
      unfold Link.taskStep
      cases hpc : l.pc with
      -- A task that waits has either been signalled or finds nothing in the queue.
      | waitEvents =>
          rw [hpc] at hwake
          obtain ⟨hpass, hflag⟩ := hwake
          cases hcmdIn : l.cmdIn with
          | true => exact Wake.start hpass (hflag.mp hcmdIn) env.cmdBuf
          | false => exact ⟨hpass, by rw [← hflag, hcmdIn]⟩
      | recvMsg i cmdBuf =>
          rw [hpc] at hwake
          exact hwake.recvMsg
      | dispatch i cmdBuf | yield =>
          rw [hpc] at hwake
          exact hwake
      | transmit rest =>
          rw [hpc] at hwake
          cases rest <;> exact hwake

/-- In every run of the device from reset whose steps all meet the condition, the flag
and the queue agree whenever the task is about to wait. -/
theorem wakeup_exact (acts : List Act) (hok : device.Meets WakeOk (Dev.boot, []) acts)
    (pre : List Act) (hpre : pre <+: acts) :
    WakeupExact (device.exec (Dev.boot, []) pre).1 := by
  have hlink : link.Meets Link.WakeOk (Link.boot, []) acts :=
    (device_simulates_link.meets_map Link.WakeOk (Dev.boot, []) acts).mp hok
  have h := (link.invariant_along wakeInv_step WakeInv.boot hlink hpre).wake
  rw [device_exec] at h
  intro hpc
  have hpc' : (device.exec (Dev.boot, []) pre).1.toLink.pc = .waitEvents := hpc
  rw [hpc'] at h
  exact decide_eq_true_iff.symm.trans h.2

/-- A binary frame that arrives during a response. -/
theorem wakeup_exact_during_response :
    WakeupExact (device.exec (Dev.boot, [])
      (received [CHAR_AT, CHAR_CR] 0 ++ taskSteps 5 .ok
        ++ received [CHAR_3, 0, 0, 0, 0, 0, 0, 0] 9 ++ taskSteps 5 .ok)).1 :=
  wakeup_exact _ (by decide +kernel) _ (List.prefix_refl _)

/-- Two raw frames that arrive before the task wakes up: after the first one is answered,
the second one waits without the flag. -/
theorem lost_wakeup :
    ¬ WakeupExact (device.exec (Dev.boot, [])
      (received [CHAR_AT, CHAR_CR, CHAR_AT, CHAR_CR] 0 ++ taskSteps 10 .ok)).1 := by
  decide +kernel

end PikvmHid
