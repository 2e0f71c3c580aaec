import PikvmHid.Proofs.Answers
import PikvmHid.Proofs.Wakeup

/-!
# `PikvmHid.Proofs.Replies`: a host that sends only binary frames

The task selects the handler by the first byte it finds, so a host that speaks the binary
protocol gets a text response when the reader finds another first byte, or none.

* `binary_replies`: under the condition `WakeOk` of `PikvmHid.Proofs.Wakeup`, every
  response to such a host is a binary one. The reader then starts every pass at the first
  byte of a frame.
* `text_reply`: a frame that is read together with the one before it leaves the flag set.
  The next pass finds the queue empty, and the raw handler answers.
-/

set_option autoImplicit false

namespace PikvmHid

open Lib

/-- With binary frames only, every response is a binary one, and none is a text. -/
def BinaryReplies (t : List Obs) : Prop :=
  (∀ f ∈ accepted t, IsBinaryFrame f) →
    ∀ r ∈ responses t, IsBinaryResponse r ∧ ∀ error, r ≠ rawResponse error

/-! ### The invariant -/

/-- Whatever the reader finds next starts with `'3'`. -/
def Speaks (queue : List U8) : Pc → Prop
  | .recvMsg i cmdBuf => (cmdBuf.bytes i ++ queue).head? = some CHAR_3
  | .dispatch _ cmdBuf =>
      handlerOf cmdBuf = .pikvm ∧ (queue = [] ∨ queue.head? = some CHAR_3)
  | _ => queue = [] ∨ queue.head? = some CHAR_3

/-- The invariant of a host that sends only binary frames. -/
structure BinaryOnly (c : Link × List Obs) : Prop where
  replies : ∀ r ∈ responses c.2, IsBinaryResponse r
  speaks : Speaks c.1.queue c.1.pc

/-- At power-up nothing was received. -/
theorem BinaryOnly.boot : BinaryOnly (Link.boot, []) where
  replies := fun _ hr => (List.not_mem_nil hr).elim
  speaks := Or.inl rfl

/-- A binary frame that the condition lets complete. -/
theorem Speaks.append {l : Link} {t : List Obs} (h : Speaks l.queue l.pc) {ch : U8}
    {tick : U32} {frame : List U8} (hok : Link.WakeOk (l, t) (.isr ch tick))
    (hframe : l.completes ch tick = some frame) (hbin : IsBinaryFrame frame) :
    Speaks (l.queue ++ frame) l.pc := by
  have hroom := hok frame hframe
  -- The frame goes to the front of an empty queue, or leaves the front alone.
  have hqueue : l.queue = [] ∨ l.queue.head? = some CHAR_3 →
      (l.queue ++ frame) = [] ∨ (l.queue ++ frame).head? = some CHAR_3 := by
    rintro (hnil | hhead)
    · rw [hnil]
      exact Or.inr hbin.1
    · rw [List.head?_append, hhead]
      exact Or.inr rfl
  cases hpc : l.pc with
  | recvMsg i cmdBuf =>
      rw [hpc] at h
      simp only [hpc] at hroom
      exact absurd h hroom.1
  | dispatch i cmdBuf =>
      rw [hpc] at h
      exact ⟨h.1, hqueue h.2⟩
  | waitEvents | transmit | yield =>
      rw [hpc] at h
      exact hqueue h

/-- A round of the read loop. -/
theorem Speaks.recvMsg {queue : List U8} {cmdIn : Bool} {i : Nat} {cmdBuf : Buffer}
    (h : Speaks queue (.recvMsg i cmdBuf)) (hwake : Wake queue cmdIn (.recvMsg i cmdBuf)) :
    Speaks queue.tail (afterRecv i cmdBuf queue.head?) := by
  rcases hwake with ⟨f, rest, ⟨hf, -, -⟩, hreading, -⟩ | ⟨chunk, ⟨hhead, hlen⟩, hreading, -⟩
  · -- A raw frame starts with another byte.
    have hhead : (cmdBuf.bytes i ++ queue).head? = some CHAR_3 := h
    rw [hreading.bytes_append,
      List.head?_append_of_ne_nil _ (ne_nil_of_isFrame (Or.inr hf))] at hhead
    exact absurd hhead hf.head_ne
  · rcases binary_step hhead hlen hreading with
      ⟨cmdBuf', hafter, hreading'⟩ | ⟨hafter, -, htail⟩ | ⟨cmdBuf', hafter, hcmd, htail⟩
    · rw [hafter]
      show (cmdBuf'.bytes (i + 1) ++ queue.tail).head? = some CHAR_3
      rw [hreading'.bytes_append, List.append_nil]
      exact hhead
    · rw [hafter, htail]
      exact Or.inl rfl
    · rw [hafter, htail]
      exact ⟨congrArg Prod.fst hcmd, Or.inl rfl⟩

/-- A step that meets the condition keeps the invariant, as long as the accepted frames
are binary ones. -/
theorem BinaryOnly.step {c : Link × List Obs} (hwake : WakeInv c) {a : Act}
    (hok : Link.WakeOk c a) (hbin : ∀ f ∈ accepted (link.next c a).2, IsBinaryFrame f)
    (h : BinaryOnly c) : BinaryOnly (link.next c a) := by
  obtain ⟨l, t⟩ := c
  obtain ⟨hreplies, hspeaks⟩ := h
  cases a with
  | isr ch tick =>
      have hnext : link.next (l, t) (.isr ch tick)
        = ((l.isrStep ch tick).1, t ++ (l.isrStep ch tick).2) := rfl
      rw [hnext] at hbin ⊢
      rcases l.isrStep_cases ch tick with ⟨-, hstep⟩ | ⟨frame, hframe, ⟨-, hstep⟩ | ⟨hover, -⟩⟩
      · rw [hstep, List.append_nil]
        exact ⟨hreplies, hspeaks⟩
      · rw [hstep] at hbin ⊢
        refine ⟨?_, Speaks.append hspeaks hok hframe (hbin frame ?_)⟩
        · rw [responses_append]
          simpa [responses] using hreplies
        · rw [accepted_append]
          exact List.mem_append_right _ (List.mem_singleton.mpr rfl)
      · exact absurd (fits_of_wakeOk hwake hok hframe) (Nat.not_le_of_lt hover)
  | task env =>
      have hnext : link.next (l, t) (.task env)
        = ((l.taskStep env).1, t ++ (l.taskStep env).2) := rfl
      rw [hnext]
      have hw : Wake l.queue l.cmdIn l.pc := hwake.wake
      unfold Link.taskStep
      cases hpc : l.pc with
      | waitEvents =>
          rw [hpc] at hspeaks hw
          refine ⟨by simpa using hreplies, ?_⟩
          -- A set flag stands for a byte in the queue, so the pass does not find it empty.
          cases hcmdIn : l.cmdIn with
          | true => exact hspeaks.resolve_left (hw.2.mp hcmdIn)
          | false => exact hspeaks
      | recvMsg i cmdBuf =>
          rw [hpc] at hspeaks hw
          exact ⟨by simpa using hreplies, hspeaks.recvMsg hw⟩
      | dispatch i cmdBuf =>
          rw [hpc] at hspeaks
          refine ⟨?_, hspeaks.2⟩
          intro r hr
          rw [responses_append, responses_handled] at hr
          rcases List.mem_append.mp hr with hr | hr
          · exact hreplies r hr
          · rw [List.mem_singleton.mp hr, handleCommandTail, hspeaks.1]
            exact isBinaryResponse_sendUartRsp _ _
      | transmit rest =>
          rw [hpc] at hspeaks
          cases rest with
          | nil => exact ⟨by simpa using hreplies, hspeaks⟩
          | cons b rest => exact ⟨by simpa [responses] using hreplies, hspeaks⟩
      | yield =>
          rw [hpc] at hspeaks
          exact ⟨by simpa using hreplies, hspeaks⟩

/-- The accepted frames only grow. -/
theorem accepted_next (c : Link × List Obs) (a : Act) {f : List U8}
    (hf : f ∈ accepted c.2) : f ∈ accepted (link.next c a).2 := by
  show f ∈ accepted (c.2 ++ (link.step c.1 a).2)
  rw [accepted_append]
  exact List.mem_append_left _ hf

/-- The invariant of a configuration, with the one of the wakeups. -/
def BinaryInv (c : Link × List Obs) : Prop :=
  WakeInv c ∧ ((∀ f ∈ accepted c.2, IsBinaryFrame f) → BinaryOnly c)

/-- Every step keeps the invariant. -/
theorem binaryInv_step (c : Link × List Obs) (a : Act) (h : BinaryInv c)
    (hok : Link.WakeOk c a) : BinaryInv (link.next c a) := by
  refine ⟨wakeInv_step c a h.1 hok, fun hbin => ?_⟩
  have hbefore : ∀ f ∈ accepted c.2, IsBinaryFrame f := fun f hf =>
    hbin f (accepted_next c a hf)
  exact (h.2 hbefore).step h.1 hok hbin

/-- In every run of the device from reset whose steps all meet the condition, a host that
sends only binary frames gets only binary responses. -/
theorem binary_replies (acts : List Act) (hok : device.Meets WakeOk (Dev.boot, []) acts)
    (pre : List Act) (hpre : pre <+: acts) :
    BinaryReplies (device.exec (Dev.boot, []) pre).2 := by
  have hlink : link.Meets Link.WakeOk (Link.boot, []) acts :=
    (device_simulates_link.meets_map Link.WakeOk (Dev.boot, []) acts).mp hok
  have h := link.invariant_along binaryInv_step
    (⟨WakeInv.boot, fun _ => BinaryOnly.boot⟩ : BinaryInv (Link.boot, [])) hlink hpre
  rw [device_exec] at h
  intro hbin r hr
  have hr' := (h.2 hbin).replies r hr
  exact ⟨hr', hr'.ne_rawResponse⟩

/-- The second of two pings arrives while the first one is answered. -/
theorem binary_replies_ping_twice :
    BinaryReplies (device.exec (Dev.boot, [])
      (received pingFrame 0 ++ taskSteps 12 .ok
        ++ received pingFrame 9 ++ taskSteps 20 .ok)).2 :=
  binary_replies _ (by decide +kernel) _ (List.prefix_refl _)

/-- The second of two pings arrives while the reader takes the first one. The reader takes
both, the flag stays set, and the next pass answers an empty command with a text. -/
theorem text_reply :
    ¬ BinaryReplies (device.exec (Dev.boot, [])
      (received pingFrame 0 ++ taskSteps 2 .ok
        ++ received pingFrame 9 ++ taskSteps 40 .ok)).2 := by
  intro h
  have hmem : rawResponse 2 ∈ responses (device.exec (Dev.boot, [])
      (received pingFrame 0 ++ taskSteps 2 .ok
        ++ received pingFrame 9 ++ taskSteps 40 .ok)).2 := by
    decide +kernel
  exact (h (by decide +kernel) _ hmem).2 2 rfl

end PikvmHid
