import PikvmHid.Proofs.Link

/-!
# `PikvmHid.Proofs.Framing`: the frames the interrupt emits

A binary frame is eight bytes that start with `'3'`. A raw frame starts with `'@'` or
`'#'` and ends at its first end-of-line byte. `commandOf` is what the task should make
of a frame: the handler its first byte selects, with the eight bytes of a binary frame,
or the bytes of a raw frame without its last.

`Collecting` is the invariant of the interrupt: the bytes collected so far are the
beginning of a frame, or of no frame. It makes every completed frame a binary or a raw
one (`completes_isFrame`). And a frame is completed by its last byte (`sendFrame_iff`).
-/

set_option autoImplicit false

namespace PikvmHid

open Lib

/-- The first byte of a raw frame does not end it. -/
theorem not_isEol_of_isRawStart {ch : U8} (h : IsRawStart ch) : ¬ IsEol ch := by
  rcases h with rfl | rfl <;> decide

/-- Nor does that of a binary frame. -/
theorem not_isEol_char3 : ¬ IsEol CHAR_3 := by decide

/-- The two are different. -/
theorem ne_char3_of_isRawStart {ch : U8} (h : IsRawStart ch) : ch ≠ CHAR_3 := by
  rcases h with rfl | rfl <;> decide

/-- A binary frame. -/
def IsBinaryFrame (f : List U8) : Prop := f.head? = some CHAR_3 ∧ f.length = 8

instance : DecidablePred IsBinaryFrame := fun f =>
  inferInstanceAs (Decidable (f.head? = some CHAR_3 ∧ f.length = 8))

/-- A raw frame: the start character, the payload, and the end-of-line byte. -/
structure IsRawFrame (f : List U8) : Prop where
  exists_eq : ∃ start payload eol, f = start :: (payload ++ [eol]) ∧ IsRawStart start ∧
    (∀ b ∈ payload, ¬ IsEol b) ∧ IsEol eol

/-- What the task should make of a frame. -/
def commandOf (f : List U8) : Handler × List U8 :=
  if f.head? = some CHAR_3 then (.pikvm, f) else (.rawkvm, f.dropLast)

/-- A binary frame is the command. -/
theorem commandOf_binary {f : List U8} (h : f.head? = some CHAR_3) :
    commandOf f = (.pikvm, f) := if_pos h

/-- A raw frame is the command and its end of line. -/
theorem commandOf_raw {f : List U8} (h : IsRawFrame f) :
    commandOf f = (.rawkvm, f.dropLast) := by
  obtain ⟨start, payload, eol, rfl, hstart, -, -⟩ := h.exists_eq
  refine if_neg fun hhead => ne_char3_of_isRawStart hstart ?_
  exact Option.some.inj hhead

/-- A raw frame does not begin as a binary one. -/
theorem IsRawFrame.head_ne {f : List U8} (h : IsRawFrame f) : f.head? ≠ some CHAR_3 := by
  obtain ⟨start, payload, eol, rfl, hstart, -, -⟩ := h.exists_eq
  exact fun hhead => ne_char3_of_isRawStart hstart (Option.some.inj hhead)

/-- It has a byte before its end of line. -/
theorem IsRawFrame.length_pos {f : List U8} (h : IsRawFrame f) : 1 < f.length := by
  obtain ⟨start, payload, eol, rfl, -, -, -⟩ := h.exists_eq
  simp

/-- A frame has a byte. -/
theorem ne_nil_of_isFrame {f : List U8} (h : IsBinaryFrame f ∨ IsRawFrame f) : f ≠ [] := by
  rintro rfl
  rcases h with h | h
  · cases h.1
  · have := h.length_pos
    simp at this

/-! ### What the interrupt has collected -/

/-- The bytes collected so far: a raw start with no end of line behind it, a `'3'` with
fewer than seven bytes behind it, or anything behind another byte. -/
def Collecting (bytes : List U8) : Prop :=
  ∀ first tail, bytes = first :: tail →
    (IsRawStart first → ∀ b ∈ tail, ¬ IsEol b) ∧ (first = CHAR_3 → tail.length < 7)

/-- Nothing collected is the beginning of a frame. -/
theorem collecting_nil : Collecting [] := fun _ _ h => by cases h

/-- The bytes that stay are the collected ones or none. -/
theorem keptBytes_cases (lastTick : U32) (collected : List U8) (tick : U32) :
    keptBytes lastTick collected tick = [] ∨
      (keptBytes lastTick collected tick = collected ∧ collected.length < UART_RX_BUF_LEN) := by
  unfold keptBytes
  split
  · exact Or.inl rfl
  · next h => exact Or.inr ⟨rfl, Nat.lt_of_not_le (not_or.mp h).2⟩

/-- So are the bytes kept after a gap. -/
theorem collecting_keptBytes {collected : List U8} (h : Collecting collected)
    (lastTick tick : U32) : Collecting (keptBytes lastTick collected tick) := by
  rcases keptBytes_cases lastTick collected tick with hk | hk
  · rw [hk]
    exact collecting_nil
  · rw [hk.1]
    exact h

/-- A byte that completes no frame keeps the invariant. -/
theorem collecting_append {bytes : List U8} (h : Collecting bytes) (ch : U8)
    (hsend : ¬ sendFrame ((bytes ++ [ch]).headD 0) (bytes ++ [ch]).length ch = true) :
    Collecting (bytes ++ [ch]) := by
  intro first tail heq
  cases bytes with
  | nil =>
      obtain ⟨rfl, rfl⟩ := List.cons.inj heq
      exact ⟨fun _ _ hb => by simp at hb, fun _ => by simp⟩
  | cons x xs =>
      obtain ⟨rfl, rfl⟩ := List.cons.inj heq
      obtain ⟨hraw, hbin⟩ := h x xs rfl
      simp only [List.cons_append, List.headD_cons, List.length_cons, List.length_append,
        List.length_nil] at hsend
      unfold sendFrame at hsend
      constructor
      · -- A raw start: the byte ends no line, or the frame would be complete.
        intro hx b hb
        rw [if_pos hx, decide_eq_true_iff] at hsend
        rcases List.mem_append.mp hb with hb | hb
        · exact hraw hx b hb
        · rw [List.mem_singleton.mp hb]
          exact hsend
      · -- A `'3'`: the byte is not the eighth.
        intro hx
        have hlt := hbin hx
        subst hx
        rw [if_neg (by decide), if_pos rfl, decide_eq_true_iff] at hsend
        show (xs ++ [ch]).length < 7
        rw [List.length_append, List.length_singleton]
        omega

/-- A byte that completes a frame completes a binary or a raw one. -/
theorem isFrame_append {bytes : List U8} (h : Collecting bytes) (ch : U8)
    (hsend : sendFrame ((bytes ++ [ch]).headD 0) (bytes ++ [ch]).length ch = true) :
    IsBinaryFrame (bytes ++ [ch]) ∨ IsRawFrame (bytes ++ [ch]) := by
  unfold sendFrame at hsend
  split at hsend
  · next hraw =>
      rw [decide_eq_true_iff] at hsend
      -- A raw start is no end of line, so the byte is not the first one.
      cases bytes with
      | nil => exact absurd hsend (not_isEol_of_isRawStart hraw)
      | cons x xs =>
          exact Or.inr ⟨x, xs, ch, rfl, hraw, (h x xs rfl).1 hraw, hsend⟩
  · split at hsend
    · next hbin =>
        rw [decide_eq_true_iff] at hsend
        cases hb : bytes ++ [ch] with
        | nil => simp at hb
        | cons x xs =>
            rw [hb] at hbin hsend
            exact Or.inl ⟨congrArg some hbin, hsend⟩
    · cases hsend

/-! ### The interrupt on a frame -/

/-- The interrupt sends the frame at its last byte, and at no other. -/
theorem sendFrame_iff {f p q : List U8} {ch : U8} (hf : IsBinaryFrame f ∨ IsRawFrame f)
    (hsplit : f = p ++ ch :: q) :
    sendFrame ((p ++ [ch]).headD 0) (p ++ [ch]).length ch = true ↔ q = [] := by
  rcases hf with ⟨hhead, hlen⟩ | hraw
  · -- A binary frame: the count decides.
    have hfirst : (p ++ [ch]).headD 0 = CHAR_3 := by
      subst hsplit
      cases p with
      | nil => exact Option.some.inj hhead
      | cons x xs => exact Option.some.inj hhead
    rw [hsplit, List.length_append, List.length_cons] at hlen
    rw [hfirst, sendFrame, if_neg (by decide), if_pos rfl, decide_eq_true_iff,
      List.length_append, List.length_singleton, ← List.length_eq_zero_iff]
    omega
  · -- A raw frame: its last byte is its only end of line.
    obtain ⟨start, payload, eol, hf, hstart, hpayload, heol⟩ := hraw.exists_eq
    have hfirst : (p ++ [ch]).headD 0 = start := by
      rw [hf] at hsplit
      cases p with
      | nil => exact (List.cons.inj hsplit).1.symm
      | cons x xs => exact (List.cons.inj hsplit).1.symm
    rw [hfirst, sendFrame, if_pos hstart, decide_eq_true_iff]
    constructor
    · intro hch
      by_contra hq
      -- With a byte behind it, `ch` is the start or in the payload.
      obtain ⟨q', z, rfl⟩ := List.eq_nil_or_concat q |>.resolve_left hq
      have hinit : start :: payload = p ++ ch :: q' := by
        have h : (start :: payload) ++ [eol] = (p ++ ch :: q') ++ [z] := by
          simpa using hf.symm.trans hsplit
        exact (List.append_inj' h rfl).1
      have hmem : ch ∈ start :: payload := by
        rw [hinit]
        simp
      rcases List.mem_cons.mp hmem with rfl | hmem
      · exact not_isEol_of_isRawStart hstart hch
      · exact hpayload ch hmem hch
    · rintro rfl
      have h : (start :: payload) ++ [eol] = p ++ [ch] := hf.symm.trans hsplit
      rw [← (List.cons.inj (List.append_inj' h rfl).2).1]
      exact heol

/-- A gap of at most 50 ticks is one for the interrupt too, also when the tick count wraps
in it. -/
theorem elapsedTicks_le {lastTick tick : U32} (h : tick - lastTick ≤ 50) :
    elapsedTicks lastTick tick ≤ 50 := by
  unfold elapsedTicks
  split
  · exact h
  · next hlt =>
      -- The interrupt counts one tick less after a wrap.
      bv_omega

/-- A byte within the gap goes behind the collected ones. -/
theorem withByte_within {lastTick tick : U32} {collected : List U8} (ch : U8)
    (hgap : tick - lastTick ≤ 50) (hlen : collected.length < UART_RX_BUF_LEN) :
    withByte lastTick collected ch tick = collected ++ [ch] := by
  have hkeep : ¬ (elapsedTicks lastTick tick > 50 ∨ collected.length ≥ UART_RX_BUF_LEN) := by
    rintro (h | h)
    · exact absurd (elapsedTicks_le hgap) (by bv_omega)
    · omega
  rw [withByte, keptBytes, if_neg hkeep]

/-- A first byte stands alone, whatever the gap. -/
theorem withByte_first (lastTick : U32) (ch : U8) (tick : U32) :
    withByte lastTick [] ch tick = [ch] := by
  unfold withByte keptBytes
  split <;> rfl

namespace Link

/-- The frames that the interrupt completes. -/
theorem completes_isFrame {l : Link} (h : Collecting l.collected) {ch : U8} {tick : U32}
    {f : List U8} (hf : l.completes ch tick = some f) : IsBinaryFrame f ∨ IsRawFrame f := by
  simp only [completes] at hf
  split at hf
  · next hsend =>
      obtain rfl := Option.some.inj hf
      exact isFrame_append (collecting_keptBytes h l.lastTick tick) ch hsend
  · cases hf

/-- A step keeps the invariant of the interrupt. -/
theorem collecting_step {l : Link} (h : Collecting l.collected) (a : Act) :
    Collecting (l.step a).1.collected := by
  cases a with
  | isr ch tick =>
      show Collecting (l.isrStep ch tick).1.collected
      unfold isrStep completes
      by_cases hsend : sendFrame ((withByte l.lastTick l.collected ch tick).headD 0)
          (withByte l.lastTick l.collected ch tick).length ch = true
      · rw [if_pos hsend]
        simp only [deliver]
        split <;> exact collecting_nil
      · rw [if_neg hsend]
        exact collecting_append (collecting_keptBytes h l.lastTick tick) ch hsend
  | task env =>
      obtain ⟨queue, cmdIn, collected, lastTick, kvm, pc⟩ := l
      cases pc with
      | transmit rest => cases rest <;> exact h
      | waitEvents | recvMsg | dispatch | yield => exact h

end Link

end PikvmHid
