import PikvmHid.Spec.Boundaries

/-!
# `PikvmHid.Proofs.Boundaries`: the frames in any stream of bytes

`Collected` ties the statics of the interrupt to what was received: the collected bytes are
the last ones, they stand close together and complete no frame, and the first of them is
where the interrupt started again.

`framed_run`: on any bytes, a frame is a block of the received bytes with the shape of a
frame that starts behind a frame, behind a gap or behind a full buffer. No gap in it has more
than 50 ticks, but for one of 51 in which the tick count wraps.
`frame_inside_line`: both exceptions are real. The 33rd byte of a line can start a frame, and a
gap of 51 ticks passes when the tick count wraps in it.
-/

set_option autoImplicit false

namespace PikvmHid

open Lib

/-- The interrupt hands over the bytes with the new one, if they complete a frame. -/
theorem frameSent_eq (s : UartIsr) (ch : U8) (tick : U32) :
    frameSent s ch tick =
      let bytes := withByte s.lastTick s.collected ch tick
      if sendFrame (bytes.headD 0) bytes.length ch then some bytes else none := by
  obtain ⟨hbytes, hlen, hhead⟩ := stored_eq s ch tick
  simp only [frameSent, hbytes, hhead, hlen]

/-- The ticks that the interrupt computes are right, but for a wrap in between, where they
are one short. -/
theorem elapsedTicks_cases (lastTick tick : U32) :
    (lastTick ≤ tick ∧ elapsedTicks lastTick tick = tick - lastTick) ∨
    (¬ lastTick ≤ tick ∧ elapsedTicks lastTick tick = tick - lastTick - 1) := by
  by_cases h : lastTick ≤ tick
  · exact Or.inl ⟨h, if_pos h⟩
  · refine Or.inr ⟨h, ?_⟩
    rw [elapsedTicks, if_neg h]
    bv_omega

/-- A gap that the interrupt sees is one. -/
theorem not_withinGap_of_elapsedTicks {a b : Received} (h : elapsedTicks a.tick b.tick > 50) :
    ¬ WithinGap a b := by
  rcases elapsedTicks_cases a.tick b.tick with ⟨-, heq⟩ | ⟨hwrap, heq⟩
  · rw [heq] at h
    exact BitVec.not_le.mpr h
  · rw [heq] at h
    unfold WithinGap
    bv_omega

/-- A gap that the interrupt does not see has at most 50 ticks. Where the tick count wraps in it
the interrupt counts one less, so there it may have 51. -/
theorem withinGapUnlessWrap_of_elapsedTicks {a b : Received}
    (h : ¬ elapsedTicks a.tick b.tick > 50) : WithinGapUnlessWrap a b := by
  rcases elapsedTicks_cases a.tick b.tick with ⟨-, heq⟩ | ⟨hwrap, heq⟩
  · rw [heq] at h
    exact Or.inl (BitVec.not_lt.mp h)
  · rw [heq] at h
    by_cases h51 : b.tick - a.tick = 51
    · exact Or.inr ⟨BitVec.not_le.mp hwrap, h51⟩
    · refine Or.inl ?_
      unfold WithinGap
      bv_omega

/-! ### The invariant -/

/-- The statics of the interrupt, from what it received: `before`, and the bytes collected
since. -/
structure Collected (s : UartIsr) (before block : List Received) : Prop where
  bytes : s.collected = block.map (·.ch)
  gaps : block.IsChain WithinGapUnlessWrap
  quiet : ∀ o ∈ block, o.frame = none
  start : ∀ o ∈ block.head?, Restart before o
  fresh : block = [] → before = [] ∨ ∃ last ∈ before.getLast?, last.frame ≠ none
  lastTick : ∀ last ∈ (before ++ block).getLast?, s.lastTick = last.tick
  collecting : Collecting s.collected

/-- At power-up nothing is collected. -/
theorem collected_boot : Collected .boot [] [] :=
  ⟨rfl, List.IsChain.nil, nofun, nofun, fun _ => Or.inl rfl, nofun, collecting_nil⟩

/-- The new byte joins the collected ones, or starts again. -/
theorem Collected.extend {s : UartIsr} {before block : List Received}
    (h : Collected s before block) (o : Received) :
    ∃ before' block', before ++ block ++ [o] = before' ++ (block' ++ [o]) ∧
      (block' ++ [o]).map (·.ch) = withByte s.lastTick s.collected o.ch o.tick ∧
      (block' ++ [o]).IsChain WithinGapUnlessWrap ∧ (∀ x ∈ block', x.frame = none) ∧
      (block' ++ [o]).length ≤ UART_RX_BUF_LEN ∧
      ∀ x ∈ (block' ++ [o]).head?, Restart before' x := by
  have hlen : s.collected.length = block.length := by rw [h.bytes, List.length_map]
  by_cases hgap : elapsedTicks s.lastTick o.tick > 50
  · -- A gap: the byte starts again, behind the gap or as the first one.
    refine ⟨before ++ block, [], rfl, ?_, List.IsChain.singleton _, nofun, Nat.succ_le_of_lt (by decide), ?_⟩
    · rw [withByte, keptBytes, if_pos (Or.inl hgap)]
      rfl
    · intro x hx
      obtain rfl : o = x := Option.some.inj hx
      refine Restart.boundary ?_
      cases hlast : (before ++ block).getLast? with
      | none => exact Or.inl (List.getLast?_eq_none_iff.mp hlast)
      | some last =>
          rw [h.lastTick last hlast] at hgap
          exact Or.inr ⟨last, hlast, Or.inr (not_withinGap_of_elapsedTicks hgap)⟩
  · by_cases hfull : s.collected.length ≥ UART_RX_BUF_LEN
    · -- A full buffer: the byte starts again behind it.
      have hblock : block.length = UART_RX_BUF_LEN := by
        have := s.cmdCnt_le
        rw [length_collected] at hlen hfull
        omega
      refine ⟨before ++ block, [], rfl, ?_, List.IsChain.singleton _, nofun, Nat.succ_le_of_lt (by decide), ?_⟩
      · rw [withByte, keptBytes, if_pos (Or.inr hfull)]
        rfl
      · intro x _
        obtain ⟨first, rest, rfl⟩ := List.exists_cons_of_ne_nil
          (List.ne_nil_of_length_eq_add_one hblock)
        exact Restart.full rfl (h.start first rfl) hblock h.gaps h.quiet
    · refine ⟨before, block, List.append_assoc _ _ _, ?_, ?_, h.quiet, ?_, ?_⟩
      · rw [withByte, keptBytes, if_neg (not_or_intro hgap hfull), h.bytes, List.map_append]
        rfl
      · refine h.gaps.append (List.IsChain.singleton _) ?_
        intro x hx y hy
        obtain rfl : o = y := Option.some.inj hy
        have hx' : x ∈ (before ++ block).getLast? := by
          rw [List.getLast?_append, Option.mem_def.mp hx]
          rfl
        rw [h.lastTick x hx'] at hgap
        exact withinGapUnlessWrap_of_elapsedTicks hgap
      · rw [List.length_append, List.length_singleton]
        omega
      · intro x hx
        cases block with
        | nil =>
            rcases h.fresh rfl with hfirst | ⟨last, hlast, hframe⟩
            · exact Restart.boundary (Or.inl hfirst)
            · exact Restart.boundary (Or.inr ⟨last, hlast, Or.inl hframe⟩)
        | cons first rest => exact h.start x hx

/-- What the interrupt hands over is a frame. -/
theorem Collected.frameOk {s : UartIsr} {before block : List Received}
    (h : Collected s before block) {o : Received} (ho : o.frame = frameSent s o.ch o.tick)
    {frame : List U8} (hframe : o.frame = some frame) :
    FrameOk WithinGapUnlessWrap Restart (before ++ block ++ [o]) frame := by
  obtain ⟨before', block', hsplit, hbytes, hgaps, -, hlen, hstart⟩ := h.extend o
  have hsent := frameSent_eq s o.ch o.tick
  rw [← ho, hframe, ← hbytes] at hsent
  by_cases hsend : sendFrame (((block' ++ [o]).map (·.ch)).headD 0)
      ((block' ++ [o]).map (·.ch)).length o.ch = true
  · -- The frame is the last block.
    obtain rfl : frame = (block' ++ [o]).map (·.ch) :=
      Option.some.inj (hsent.trans (if_pos hsend))
    have hdrop : (before' ++ (block' ++ [o])).length - ((block' ++ [o]).map (·.ch)).length
        = before'.length := by
      rw [List.length_append, List.length_map, Nat.add_sub_cancel]
    rw [hsplit]
    refine ⟨?_, ?_, ?_, ?_⟩
    · rw [hdrop, List.drop_left]
    · rw [hdrop, List.drop_left]
      exact hgaps
    · rw [List.length_map]
      rw [hbytes] at hsend ⊢
      have hkept := collecting_keptBytes h.collecting s.lastTick o.tick
      exact (isFrame_append hkept o.ch hsend).imp_right fun hraw => ⟨hraw, hlen⟩
    · rw [hdrop, List.drop_left, List.take_left]
      exact hstart
  · exact absurd (hsent.trans (if_neg hsend)) (Option.some_ne_none frame)

/-- An interrupt keeps the invariant. -/
theorem Collected.next {s : UartIsr} {before block : List Received}
    (h : Collected s before block) (k : Kernel) {o : Received}
    (ho : o.frame = frameSent s o.ch o.tick) :
    ∃ before' block', before ++ block ++ [o] = before' ++ block' ∧
      Collected (halUartIsr s k o.ch o.tick).isr before' block' := by
  obtain ⟨before', block', hsplit, hbytes, hgaps, hquiet, -, hstart⟩ := h.extend o
  obtain ⟨htick, hspec⟩ := halUartIsr_spec s k o.ch o.tick
  have hsent := frameSent_eq s o.ch o.tick
  by_cases hsend : sendFrame ((withByte s.lastTick s.collected o.ch o.tick).headD 0)
      (withByte s.lastTick s.collected o.ch o.tick).length o.ch = true
  · -- The byte completes a frame, and the next one starts again.
    rw [if_pos hsend] at hspec
    have hframe : o.frame ≠ none := by
      rw [ho, hsent]
      simp only [if_pos hsend]
      exact Option.some_ne_none _
    refine ⟨before ++ block ++ [o], [], (List.append_nil _).symm, hspec.1, List.IsChain.nil,
      nofun, nofun, fun _ => Or.inr ⟨o, List.getLast?_concat, hframe⟩, ?_, ?_⟩
    · intro last hlast
      rw [List.append_nil, List.getLast?_concat] at hlast
      rw [htick, ← Option.some.inj hlast]
    · rw [hspec.1]
      exact collecting_nil
  · rw [if_neg hsend] at hspec
    have hframe : o.frame = none := by
      rw [ho, hsent]
      simp only [if_neg hsend]
    refine ⟨before', block' ++ [o], hsplit, hspec.1.trans hbytes.symm, hgaps, ?_, hstart, ?_,
      ?_, ?_⟩
    · intro x hx
      rcases List.mem_append.mp hx with hx | hx
      · exact hquiet x hx
      · rw [List.mem_singleton.mp hx]
        exact hframe
    · exact fun hnil => absurd hnil (by simp)
    · intro last hlast
      rw [← List.append_assoc, List.getLast?_concat] at hlast
      rw [htick, ← Option.some.inj hlast]
    · rw [hspec.1]
      exact collecting_append (collecting_keptBytes h.collecting s.lastTick o.tick) o.ch hsend

/-! ### Runs -/

/-- A run stays framed if its last frame is. -/
theorem framed_concat {gap : Received → Received → Prop}
    {starts : List Received → Received → Prop} {t : List Received} {o : Received}
    (h : Framed gap starts t)
    (ho : ∀ frame, o.frame = some frame → FrameOk gap starts (t ++ [o]) frame) :
    Framed gap starts (t ++ [o]) := by
  intro pre x frame hpre hframe
  rcases List.prefix_concat_iff.mp hpre with heq | hpre
  · obtain ⟨rfl, hx⟩ := List.append_inj' heq rfl
    obtain rfl := (List.cons.inj hx).1
    exact ho frame hframe
  · exact h pre x frame hpre hframe

/-- The frames so far are in order, and the statics stand for what was received. -/
def IsrInv (c : UartIsr × List Received) : Prop :=
  Framed WithinGapUnlessWrap Restart c.2 ∧
    ∃ before block, c.2 = before ++ block ∧ Collected c.1 before block

/-- Every byte received keeps the invariant. -/
theorem isrInv_next (c : UartIsr × List Received) (i : Interrupt) (h : IsrInv c) :
    IsrInv (uartIsr.next c i) := by
  obtain ⟨hframed, before, block, hsplit, hinv⟩ := h
  have ht : (uartIsr.next c i).2
      = before ++ block ++ [⟨i.ch, i.tick, frameSent c.1 i.ch i.tick⟩] := by
    rw [← hsplit]
    rfl
  unfold IsrInv
  rw [ht]
  rw [hsplit] at hframed
  exact ⟨framed_concat hframed fun frame hframe => hinv.frameOk rfl hframe,
    hinv.next i.kernel rfl⟩

/-- On any bytes at any ticks, with any kernel at each interrupt: a frame that goes to
`Kernel_send_msg` is a block of the received bytes that stand at most 50 ticks apart, or 51 where
the tick count wraps. It is eight bytes from `'3'` or at most 32 from `'@'` or `'#'` to the first
end of line, and it starts behind a frame, behind a gap, behind a full buffer, or at the first
byte. Every byte is stored inside the buffer. -/
theorem framed_run (is : List Interrupt) :
    Framed WithinGapUnlessWrap Restart (uartIsr.exec (.boot, []) is).2 ∧
      ∀ tick, storeIndex (uartIsr.exec (.boot, []) is).1 tick < UART_RX_BUF_LEN :=
  ⟨(uartIsr.invariant_all isrInv_next (c := (.boot, []))
      ⟨fun _ _ _ hpre => by simp at hpre, [], [], rfl, collected_boot⟩ is).1,
    storeIndex_lt _⟩

/-- The bytes, all at one tick. -/
def interrupts (bytes : List U8) (tick : U32) : List Interrupt :=
  bytes.map fun ch => ⟨ch, tick, .boot⟩

/-- In a line of 34 bytes without a gap, `'@'` is the 33rd byte and carriage return the
last: the two are handed over as a frame. And a carriage return 51 ticks behind its `'@'`
ends a frame, if the tick count wraps in between. -/
theorem frame_inside_line :
    let line := (uartIsr.exec (.boot, [])
      (interrupts (List.replicate 32 0x78 ++ [CHAR_AT, CHAR_CR]) 0)).2
    let wrap := (uartIsr.exec (.boot, [])
      (interrupts [CHAR_AT] 0xFFFFFFFF ++ interrupts [CHAR_CR] 50)).2
    line.getLast?.bind (·.frame) = some [CHAR_AT, CHAR_CR] ∧
      ¬ Framed WithinGap FrameBoundary line ∧
      wrap.getLast?.bind (·.frame) = some [CHAR_AT, CHAR_CR] ∧
      ¬ Framed WithinGap FrameBoundary wrap := by
  intro line wrap
  refine ⟨by decide +kernel, fun hframed => ?_, by decide +kernel, fun hframed => ?_⟩
  · have hok := hframed (List.replicate 32 ⟨0x78, 0, none⟩ ++ [⟨CHAR_AT, 0, none⟩])
      ⟨CHAR_CR, 0, some [CHAR_AT, CHAR_CR]⟩ [CHAR_AT, CHAR_CR] (by decide +kernel) rfl
    exact absurd (hok.start ⟨CHAR_AT, 0, none⟩ rfl) (by decide +kernel)
  · have hok := hframed [⟨CHAR_AT, 0xFFFFFFFF, none⟩] ⟨CHAR_CR, 50, some [CHAR_AT, CHAR_CR]⟩
      [CHAR_AT, CHAR_CR] (by decide +kernel) rfl
    exact absurd hok.gaps (by decide +kernel)

end PikvmHid
