import Mathlib.Data.List.TakeWhile
import PikvmHid.Proofs.Digits
import PikvmHid.Spec.Printf

/-!
# `PikvmHid.Proofs.Printf`: `buf_printf` and its callers

Each piece of a format is read back by the parser of `buf_printf` and put out as its text
(`loop_piece`). What was put out so far determines the buffer and what was sent (`Wrote`): a
prefix is in the buffer and the rest went to UART1. So `snprintf` and `dbg_printf` keep their
bounds exactly if the text is shorter than the buffer (`printf_ok_iff`), and a conversion is
padded as in C in the cases of `field_iff` only.
-/

set_option autoImplicit false

namespace PikvmHid

open Lib Lib.Numeral

/-! ### The text of a conversion -/

/-- Bytes without a terminator are the whole string. -/
theorem cstr_of_ne_zero {bytes : List U8} (h : ∀ ch ∈ bytes, ch ≠ 0) : cstr bytes = bytes := by
  rw [cstr, List.takeWhile_eq_self_iff]
  intro ch hch
  exact decide_eq_true (h ch hch)

/-- A string has no terminator in it. -/
theorem cstr_ne_zero {bytes : List U8} : ∀ ch ∈ cstr bytes, ch ≠ 0 := by
  intro ch hch
  exact of_decide_eq_true (List.mem_takeWhile_imp (p := fun ch => decide (ch ≠ 0)) hch)

/-- Nor has a number. -/
theorem NumSpec.text_ne_zero (spec : NumSpec) (v : U32) : ∀ ch ∈ spec.text v, ch ≠ 0 := by
  intro ch hch
  rcases List.mem_append.mp hch with hsign | hdigit
  · cases spec with
    | d =>
        simp only [sign] at hsign
        split at hsign
        · rw [List.mem_singleton.mp hsign]
          decide
        · exact absurd hsign List.not_mem_nil
    | u | x | X => exact absurd hsign List.not_mem_nil
  · obtain ⟨d, hd, rfl⟩ := List.mem_map.mp hdigit
    exact digitChar_ne_zero spec.ch
      (Nat.lt_of_lt_of_le (numeral_lt spec.one_lt_base hd) spec.base_le)

/-- No text has the terminator in it. -/
theorem Conv.text_ne_zero (cv : Conv) : ∀ ch ∈ cv.text, ch ≠ 0 := by
  cases cv with
  | num spec v => exact spec.text_ne_zero v
  | c v => exact cstr_ne_zero
  | s str => exact str.ne_zero
  | percent =>
      intro ch hch
      rw [List.mem_singleton.mp hch]
      decide

/-- Nor has a piece of output. -/
theorem Piece.text_ne_zero (piece : Piece) : ∀ ch ∈ piece.text, ch ≠ 0 := by
  intro ch hch
  cases piece with
  | lit lit hzero _ => rwa [List.mem_singleton.mp hch]
  | conv zero width cv =>
      rcases List.mem_append.mp hch with hpad | htext
      · rw [(List.mem_replicate.mp hpad).2]
        cases zero <;> decide
      · exact cv.text_ne_zero ch htext

/-- Nor has the output. -/
theorem formatted_ne_zero (ps : List Piece) : ∀ ch ∈ formatted ps, ch ≠ 0 := by
  intro ch hch
  obtain ⟨piece, -, hch⟩ := List.mem_flatMap.mp hch
  exact piece.text_ne_zero ch hch

/-- The switch puts the text at `p` and takes the argument. -/
theorem convert_eq (cv : Conv) (va : List VaArg) :
    convert cv.ch (cv.args ++ va) = some (cv.text, va) := by
  cases cv with
  | num spec v =>
      have hnumber : cstr (number spec.ch v) = spec.text v := by
        rw [(spec.number_eq v).2, cstr_of_ne_zero (spec.text_ne_zero v)]
      cases spec <;> exact congrArg (fun txt => some (txt, va)) hnumber
  | c v => rfl
  | s str => rfl
  | percent => rfl

/-! ### The width -/

/-- The width that is left counts down to zero. -/
theorem toNat_widthLeft (txt : List U8) :
    ∀ w : U8, (widthLeft txt w).toNat = w.toNat - txt.length := by
  induction txt with
  | nil => exact fun w => rfl
  | cons ch txt ih =>
      intro w
      rw [widthLeft, List.length_cons]
      by_cases hw : w > 0
      · have hpos : 0 < w.toNat := hw
        have hsub : (w - 1).toNat = w.toNat - 1 := BitVec.toNat_sub_of_le hpos
        rw [if_pos hw, ih, hsub]
        omega
      · have hzero : w.toNat = 0 := Nat.eq_zero_of_not_pos hw
        rw [if_neg hw, hzero, Nat.zero_sub]

/-- A digit of the width is read back. -/
theorem digitChar_digit {d : Nat} (hd : d < 10) :
    (CHAR_0 ≤ digitChar CHAR_LOWER_A d ∧ digitChar CHAR_LOWER_A d ≤ CHAR_9) ∧
      (digitChar CHAR_LOWER_A d = CHAR_0 → d = 0) ∧
      digitChar CHAR_LOWER_A d = CHAR_0 + BitVec.ofNat 8 d := by
  have hall : ∀ d : Fin 10, (CHAR_0 ≤ digitChar CHAR_LOWER_A d ∧
      digitChar CHAR_LOWER_A d ≤ CHAR_9) ∧
      (digitChar CHAR_LOWER_A d = CHAR_0 → d.val = 0) := by decide
  obtain ⟨hdigit, hzero⟩ := hall ⟨d, hd⟩
  exact ⟨hdigit, hzero, if_pos hd⟩

/-- The width counts in tens. -/
theorem widthStep (n d : Nat) :
    (((BitVec.ofNat 8 n <<< 2) + BitVec.ofNat 8 n) <<< 1) + (CHAR_0 + BitVec.ofNat 8 d) - CHAR_0
      = BitVec.ofNat 8 (n * 10 + d) := by
  rw [← BitVec.toNat_inj]
  simp [Nat.shiftLeft_eq]
  omega

/-- No character of a conversion is read as a part of the width. -/
theorem Conv.ch_not_digit (cv : Conv) : ¬ (CHAR_0 ≤ cv.ch ∧ cv.ch ≤ CHAR_9) := by
  cases cv with
  | num spec v => cases spec <;> simp [Conv.ch, NumSpec.ch]
  | c v => simp [Conv.ch]
  | s str => simp [Conv.ch]
  | percent => simp [Conv.ch]

section
variable {ch : U8} (hch : ¬ (CHAR_0 ≤ ch ∧ ch ≤ CHAR_9)) (fmt : List U8)

include hch

/-- The loop reads the digits up to a character that is none. -/
theorem widthLoop_eq (ds : List Nat) :
    ∀ n, (∀ d ∈ ds, d < 10) →
      widthLoop (ds.map (digitChar CHAR_LOWER_A) ++ ch :: fmt) (BitVec.ofNat 8 n)
        = (BitVec.ofNat 8 (ds.foldl (fun v d => v * 10 + d) n), ch :: fmt) := by
  induction ds with
  | nil =>
      intro n _
      exact if_neg hch
  | cons d ds ih =>
      intro n hds
      obtain ⟨hdigit, -, heq⟩ := digitChar_digit (hds d List.mem_cons_self)
      rw [List.map_cons, List.cons_append, widthLoop, if_pos hdigit, heq, widthStep,
        ih (n * 10 + d) fun e he => hds e (List.mem_cons_of_mem _ he), List.foldl_cons]

/-- The width is read back, modulo 256. -/
theorem fieldWidth_eq (width : Nat) :
    fieldWidth (widthChars width ++ ch :: fmt)
      = (if width = 0 then 1 else BitVec.ofNat 8 width, ch :: fmt) := by
  by_cases hwidth : width = 0
  · rw [widthChars, if_pos hwidth, if_pos hwidth]
    exact if_neg hch
  · have hlt : ∀ d ∈ numeral 10 width, d < 10 := fun d hd => numeral_lt (by decide) hd
    have hloop := widthLoop_eq hch fmt (numeral 10 width) 0 hlt
    rw [foldl_eq_value, value_numeral] at hloop
    rw [widthChars, if_neg hwidth, if_neg hwidth]
    cases hds : numeral 10 width with
    | nil => exact absurd hds (numeral_ne_nil width)
    | cons d ds =>
        rw [hds] at hloop hlt
        obtain ⟨hdigit, -, -⟩ := digitChar_digit (hlt d List.mem_cons_self)
        exact (if_pos hdigit).trans hloop

/-- The flag is read back: a width starts with no zero. -/
theorem zeroFlag_eq (zero : Bool) (width : Nat) :
    zeroFlag ((if zero then [CHAR_0] else []) ++ (widthChars width ++ ch :: fmt))
      = (zero, widthChars width ++ ch :: fmt) := by
  cases zero with
  | true => rfl
  | false =>
      by_cases hwidth : width = 0
      · have hne : ch ≠ CHAR_0 := by
          intro heq
          rw [heq] at hch
          exact hch (by decide)
        rw [widthChars, if_pos hwidth]
        exact if_neg hne
      · have hhead := head?_numeral_ne_zero (b := 10) hwidth
        rw [widthChars, if_neg hwidth]
        cases hds : numeral 10 width with
        | nil => exact absurd hds (numeral_ne_nil width)
        | cons d ds =>
            have hmem : d ∈ numeral 10 width := by rw [hds]; exact List.mem_cons_self
            obtain ⟨-, hzero, -⟩ := digitChar_digit (numeral_lt (by decide) hmem)
            have hne : digitChar CHAR_LOWER_A d ≠ CHAR_0 := by
              intro heq
              rw [hds, List.head?_cons, hzero heq] at hhead
              exact hhead rfl
            exact if_neg hne

end

/-- The padding fills what the text leaves of the width. -/
theorem paddedText_eq (zero : Bool) (width : Nat) (cv : Conv) :
    paddedText zero (if width = 0 then 1 else BitVec.ofNat 8 width) cv.text
      = (Piece.conv zero width cv).text := by
  have hw : (if width = 0 then (1 : U8) else BitVec.ofNat 8 width).toNat
      = if width = 0 then 1 else width % 256 := by
    split
    · rfl
    · exact BitVec.toNat_ofNat width 8
  rw [paddedText, toNat_widthLeft, hw]
  rfl

/-! ### Output -/

/-- What was put out is the text: its first `st` characters are in the buffer, and the others
were sent. -/
structure Wrote (st : Nat) (buf : Buffer) (txt : List U8) (o : Out) : Prop where
  sh : o.sh = min st txt.length
  bytes : o.buf.bytes o.sh = txt.take st
  uart : o.uart = txt.drop st
  rest : ∀ i, o.sh ≤ i → o.buf i = buf i

section
variable {st : Nat} {buf : Buffer} {txt : List U8} {o : Out} (h : Wrote st buf txt o)

include h

/-- A text that leaves room is in the buffer, and nothing was sent. -/
theorem Wrote.of_lt (hlt : txt.length < st) :
    o.sh = txt.length ∧ o.buf.bytes o.sh = txt ∧ o.uart = [] := by
  have hle := Nat.le_of_lt hlt
  refine ⟨?_, ?_, ?_⟩
  · rw [h.sh, Nat.min_eq_right hle]
  · rw [h.bytes, List.take_of_length_le hle]
  · rw [h.uart, List.drop_eq_nil_of_le hle]

/-- When the text is as long as the buffer the index stands at its end. -/
theorem Wrote.sh_of_le (hle : st ≤ txt.length) : o.sh = st := by
  rw [h.sh, Nat.min_eq_left hle]

/-- One more character is written, or counted only. -/
theorem Wrote.putchAt (ch : U8) : Wrote st buf (txt ++ [ch]) (putchAt st o ch) := by
  by_cases hlt : txt.length < st
  · -- There is room, and the character goes behind the others.
    obtain ⟨hsh, hbytes, huart⟩ := h.of_lt hlt
    have hsucc : (txt ++ [ch]).length ≤ st := by
      rw [List.length_append]
      exact hlt
    rw [PikvmHid.putchAt, if_pos (by omega)]
    constructor
    · show o.sh + 1 = _
      rw [Nat.min_eq_right hsucc, hsh, List.length_append]
      rfl
    · show (o.buf.set o.sh ch).bytes (o.sh + 1) = _
      rw [Buffer.bytes_set_succ, hbytes, List.take_of_length_le hsucc]
    · show o.uart = _
      rw [huart, List.drop_eq_nil_of_le hsucc]
    · intro i hi
      have hne : i ≠ o.sh := by
        have hlow : o.sh + 1 ≤ i := hi
        omega
      exact (Buffer.set_of_ne o.buf hne ch).trans (h.rest i (Nat.le_of_succ_le hi))
  · -- The buffer is full, and the character is sent.
    have hle : st ≤ txt.length := Nat.le_of_not_lt hlt
    have hsh := h.sh_of_le hle
    rw [PikvmHid.putchAt, if_neg (by omega)]
    constructor
    · show o.sh = _
      rw [List.length_append, Nat.min_eq_left (Nat.le_trans hle (Nat.le_add_right _ _)), hsh]
    · show o.buf.bytes o.sh = _
      rw [h.bytes, List.take_append_of_le_length hle]
    · show o.uart ++ [ch] = _
      rw [h.uart, List.drop_append_of_le_length hle]
    · exact h.rest

end

/-- So are many. -/
theorem Wrote.putchs {st : Nat} {buf : Buffer} (chs : List U8) :
    ∀ {txt : List U8} {o : Out}, Wrote st buf txt o →
      Wrote st buf (txt ++ chs) (putchs st o chs) := by
  induction chs with
  | nil =>
      intro txt o h
      rwa [List.append_nil]
  | cons ch chs ih =>
      intro txt o h
      rw [List.append_cons]
      exact ih (h.putchAt ch)

/-! ### The loop over the format -/

/-- Characters written in two parts. -/
theorem putchs_append (st : Nat) (o : Out) (chs chs' : List U8) :
    putchs st o (chs ++ chs') = putchs st (putchs st o chs) chs' := List.foldl_append

/-- A round of the loop: a piece is read back and put out. -/
theorem loop_piece (st fuel : Nat) (piece : Piece) (fmt : List U8) (va : List VaArg) (o : Out) :
    bufPrintf.loop st (fuel + 1) (piece.chars ++ fmt) (piece.args ++ va) o
      = bufPrintf.loop st fuel fmt va (putchs st o piece.text) := by
  cases piece with
  | lit ch _ hpercent =>
      rw [Piece.chars, List.singleton_append, bufPrintf.loop, if_pos hpercent]
      rfl
  | conv zero width cv =>
      have hflag := zeroFlag_eq cv.ch_not_digit fmt zero width
      have hwidth := fieldWidth_eq cv.ch_not_digit fmt width
      have hconvert := convert_eq cv va
      have hfmt : (if zero then [CHAR_0] else []) ++ (widthChars width ++ [cv.ch]) ++ fmt
          = (if zero then [CHAR_0] else []) ++ (widthChars width ++ cv.ch :: fmt) := by
        simp
      rw [Piece.chars, List.cons_append, hfmt, bufPrintf.loop, if_neg (by simp)]
      simp only [hflag, hwidth, Piece.args, hconvert, paddedText_eq]

/-- The whole format. -/
theorem loop_eq (st : Nat) (ps : List Piece) :
    ∀ (fuel : Nat) (o : Out), ps.length ≤ fuel →
      bufPrintf.loop st fuel (format ps).chars (formatArgs ps) o
        = some (terminate st (putchs st o (formatted ps))) := by
  induction ps with
  | nil =>
      intro fuel o _
      cases fuel <;> rfl
  | cons piece ps ih =>
      intro fuel o hfuel
      obtain ⟨fuel, rfl⟩ := Nat.exists_eq_add_one.mpr (Nat.lt_of_lt_of_le (Nat.succ_pos _) hfuel)
      have hround := loop_piece st fuel piece (format ps).chars (formatArgs ps) o
      have hrest := ih fuel (putchs st o piece.text) (Nat.le_of_succ_le_succ hfuel)
      rw [← putchs_append] at hrest
      exact hround.trans hrest

/-- The format has a character for each of its pieces. -/
theorem length_le_format (ps : List Piece) : ps.length ≤ (format ps).chars.length := by
  induction ps with
  | nil => exact Nat.le_refl 0
  | cons piece ps ih =>
      have hpiece : 0 < piece.chars.length := by cases piece <;> exact Nat.succ_pos _
      have happend : (format (piece :: ps)).chars.length
          = piece.chars.length + (format ps).chars.length := List.length_append
      rw [happend, List.length_cons]
      omega

/-- What `snprintf` leaves, before the terminator. -/
theorem snprintf_eq (buf : Buffer) (n : Nat) (ps : List Piece) :
    ∃ o, snprintf buf n (format ps) (formatArgs ps) = some (terminate n o) ∧
      Wrote n buf (formatted ps) o := by
  have hstart : Wrote n buf [] ⟨buf, 0, []⟩ := by
    constructor <;> simp
  refine ⟨putchs n ⟨buf, 0, []⟩ (formatted ps), ?_, hstart.putchs (formatted ps)⟩
  exact loop_eq n ps _ _ (length_le_format ps)

/-- Without a pointer the text is sent. -/
theorem emitted_eq (ps : List Piece) : emitted ps = some (formatted ps) := by
  have hstart : Wrote 0 .zero [] ⟨.zero, 0, []⟩ := by
    constructor <;> simp
  have hloop := loop_eq 0 ps _ ⟨.zero, 0, []⟩ (length_le_format ps)
  have huart := (hstart.putchs (formatted ps)).uart
  rw [emitted, bufPrintf, hloop]
  exact congrArg some huart

/-! ### `snprintf` and `dbg_printf` -/

/-- A byte of a buffer. -/
theorem Buffer.mem_bytes (b : Buffer) {n j : Nat} (hj : j < n) : b j ∈ b.bytes n :=
  List.mem_map_of_mem (List.mem_range.mpr hj)

/-- A full buffer has no terminator. -/
theorem Wrote.ne_zero_of_le {st : Nat} {buf : Buffer} {txt : List U8} {o : Out}
    (h : Wrote st buf txt o) (htxt : ∀ ch ∈ txt, ch ≠ 0) (hle : st ≤ txt.length) :
    ∀ j < st, o.buf j ≠ 0 := by
  intro j hj
  have hmem := o.buf.mem_bytes hj
  have hbytes := h.bytes
  rw [h.sh_of_le hle] at hbytes
  rw [hbytes] at hmem
  exact htxt _ (List.mem_of_mem_take hmem)

/-- In a buffer with room, the text is terminated. -/
theorem Wrote.terminate_of_lt {st : Nat} {buf : Buffer} {txt : List U8} {o : Out}
    (h : Wrote st buf txt o) (hlt : txt.length < st) :
    (terminate st o).buf.bytes txt.length = txt ∧ (terminate st o).buf txt.length = 0 ∧
      (terminate st o).uart = [] ∧ ∀ i, txt.length < i → (terminate st o).buf i = buf i := by
  obtain ⟨hsh, hbytes, huart⟩ := h.of_lt hlt
  rw [hsh] at hbytes
  rw [terminate, hsh, if_pos hlt]
  refine ⟨?_, Buffer.set_self _ _ _, huart, fun i hi => ?_⟩
  · rw [Buffer.bytes_set_of_le _ (Nat.le_refl _), hbytes]
  · exact (Buffer.set_of_ne _ (Nat.ne_of_gt hi) _).trans (h.rest i (by omega))

/-- No terminator is written past the end. -/
theorem Wrote.terminate_of_le {st : Nat} {buf : Buffer} {txt : List U8} {o : Out}
    (h : Wrote st buf txt o) (hle : st ≤ txt.length) : terminate st o = o := by
  rw [terminate, h.sh_of_le hle]
  exact if_neg (Nat.lt_irrefl st)

/-- `snprintf` keeps its bounds exactly if the text and its terminator fit. -/
theorem snprintfOk_iff (buf : Buffer) (n : Nat) (ps : List Piece) :
    SnprintfOk buf n ps ↔ (formatted ps).length < n := by
  obtain ⟨o, hsnprintf, hwrote⟩ := snprintf_eq buf n ps
  constructor
  · rintro ⟨o', ho', -, huart, m, hm, hzero, -⟩
    rw [hsnprintf, Option.some.injEq] at ho'
    subst ho'
    by_contra hle
    have hle : n ≤ (formatted ps).length := Nat.le_of_not_lt hle
    rw [hwrote.terminate_of_le hle] at hzero
    exact hwrote.ne_zero_of_le (formatted_ne_zero ps) hle m hm hzero
  · intro hlt
    obtain ⟨hbytes, hzero, huart, hrest⟩ := hwrote.terminate_of_lt hlt
    refine ⟨_, hsnprintf, fun i hi => hrest i (by omega), huart, _, hlt, hzero, ?_⟩
    rw [hbytes]

/-- Without a terminator `putstr` reads behind the array. -/
theorem putstrLoop_none (s : Buffer) (n : Nat) :
    ∀ i, (∀ j, i ≤ j → j < i + n → s j ≠ 0) → putstr.loop s n i = none := by
  induction n with
  | zero => exact fun i _ => rfl
  | succ n ih =>
      intro i h
      have hi : s i ≠ 0 := h i (Nat.le_refl i) (by omega)
      have hrest := ih (i + 1) fun j hj hlt => h j (by omega) (by omega)
      rw [putstr.loop, if_neg hi, hrest]
      rfl

/-- It sends the characters up to the terminator. -/
theorem putstrLoop_eq (s : Buffer) (len : Nat) :
    ∀ i n, len < n → (∀ ch ∈ (s.drop i).bytes len, ch ≠ 0) → s (i + len) = 0 →
      putstr.loop s n i = some ((s.drop i).bytes len) := by
  induction len with
  | zero =>
      intro i n hn _ hzero
      obtain ⟨n, rfl⟩ := Nat.exists_eq_add_one.mpr hn
      exact if_pos hzero
  | succ len ih =>
      intro i n hn hne hzero
      obtain ⟨n, rfl⟩ := Nat.exists_eq_add_one.mpr (Nat.lt_of_le_of_lt (Nat.zero_le _) hn)
      rw [Buffer.bytes_drop_succ] at hne ⊢
      have hi : s i ≠ 0 := hne _ List.mem_cons_self
      have hrest := ih (i + 1) n (Nat.lt_of_succ_lt_succ hn)
        (fun ch hch => hne ch (List.mem_cons_of_mem _ hch))
        (by rwa [Nat.add_right_comm, Nat.add_assoc])
      rw [putstr.loop, if_neg hi, hrest]
      rfl

/-- `dbg_printf` keeps to its buffer exactly if the text and its terminator fit. -/
theorem dbgPrintfOk_iff {level : U8} (hlevel : level ≤ DEBUG_LEVEL) (ps : List Piece) :
    DbgPrintfOk level ps ↔ (formatted ps).length < PRINTF_BUF_LEN := by
  obtain ⟨o, hsnprintf, hwrote⟩ := snprintf_eq .zero PRINTF_BUF_LEN ps
  have hdbg : dbgPrintf level (format ps) (formatArgs ps)
      = (putstr (terminate PRINTF_BUF_LEN o).buf PRINTF_BUF_LEN).map fun sent =>
          (sent.length, (terminate PRINTF_BUF_LEN o).uart ++ sent) := by
    rw [dbgPrintf, if_neg (BitVec.not_lt.mpr hlevel)]
    rw [snprintf] at hsnprintf
    rw [hsnprintf]
  constructor
  · rintro ⟨ret, sent, hsent, -⟩
    by_contra hle
    have hle : PRINTF_BUF_LEN ≤ (formatted ps).length := Nat.le_of_not_lt hle
    have hnone : putstr o.buf PRINTF_BUF_LEN = none := by
      refine putstrLoop_none o.buf PRINTF_BUF_LEN 0 fun j _ hj => ?_
      exact hwrote.ne_zero_of_le (formatted_ne_zero ps) hle j (by omega)
    rw [hdbg, hwrote.terminate_of_le hle, hnone] at hsent
    exact absurd hsent (by simp)
  · intro hlt
    obtain ⟨hbytes, hzero, huart, -⟩ := hwrote.terminate_of_lt hlt
    have hsend := putstrLoop_eq (terminate PRINTF_BUF_LEN o).buf (formatted ps).length 0
      PRINTF_BUF_LEN hlt
    rw [Buffer.drop_zero, hbytes, Nat.zero_add] at hsend
    have hsend := hsend (formatted_ne_zero ps) hzero
    refine ⟨(formatted ps).length, formatted ps, ?_, List.prefix_refl _⟩
    rw [hdbg, putstr, hsend, huart]
    rfl

/-- For every format and its arguments: `snprintf` and `dbg_printf` keep their bounds and
terminate the text exactly if it is shorter than the buffer. Otherwise there is no terminator,
and what does not fit is sent on UART1. -/
theorem printf_ok_iff (ps : List Piece) :
    (∀ (buf : Buffer) (n : Nat), SnprintfOk buf n ps ↔ (formatted ps).length < n) ∧
      ∀ level ≤ DEBUG_LEVEL, (DbgPrintfOk level ps ↔ (formatted ps).length < PRINTF_BUF_LEN) :=
  ⟨fun buf n => snprintfOk_iff buf n ps, fun _ hlevel => dbgPrintfOk_iff hlevel ps⟩

/-- The text `"A=-1"` of the format `"A=%d"` fits its buffer. -/
theorem printf_ok_short :
    let ps := [.lit 0x41 (by decide) (by decide), .lit 0x3D (by decide) (by decide),
      .conv false 0 (.num .d (-1))]
    SnprintfOk .zero 5 ps ∧ DbgPrintfOk 1 ps := by
  intro ps
  have hlen : (formatted ps).length = 4 := by decide
  constructor
  · exact ((printf_ok_iff ps).1 .zero 5).mpr (by omega)
  · exact ((printf_ok_iff ps).2 1 (by decide)).mpr (by rw [hlen]; decide)

/-- Of `"AAA"` in a buffer of two, the last character is sent and there is no terminator. So it
is in `dbg_printf` with a text of 64 characters. -/
theorem printf_over_end :
    ((snprintf .zero 2 (format (List.replicate 3 (.lit 0x41 (by decide) (by decide)))) []).map
        (·.uart) = some [0x41]) ∧
      ¬ SnprintfOk .zero 2 (List.replicate 3 (.lit 0x41 (by decide) (by decide))) ∧
      ¬ DbgPrintfOk 1 (List.replicate 64 (.lit 0x41 (by decide) (by decide))) := by
  refine ⟨rfl, ?_, ?_⟩
  · intro h
    exact absurd ((snprintfOk_iff _ _ _).mp h) (by decide)
  · intro h
    exact absurd ((dbgPrintfOk_iff (by decide) _).mp h) (by decide)

/-! ### Padding -/

/-- Zeros in front of a sign and behind it. -/
theorem replicate_sign_iff {sign : List U8} (hsign : sign = [] ∨ sign = [CHAR_MINUS])
    (k pad : Nat) (digits : List U8) :
    List.replicate k CHAR_0 ++ (sign ++ digits) = sign ++ List.replicate pad CHAR_0 ++ digits
      ↔ k = pad ∧ (pad = 0 ∨ sign = []) := by
  constructor
  · intro heq
    have hlen := congrArg List.length heq
    simp only [List.length_append, List.length_replicate] at hlen
    have hk : k = pad := by omega
    subst hk
    refine ⟨rfl, ?_⟩
    rcases hsign with rfl | rfl
    · exact .inr rfl
    · cases k with
      | zero => exact .inl rfl
      | succ k =>
          -- The first character would be a zero and the minus.
          rw [List.replicate_succ, List.cons_append, List.cons_append, List.cons_append] at heq
          exact absurd (List.cons.inj heq).1 (by decide)
  · rintro ⟨rfl, rfl | rfl⟩
    · simp
    · simp

/-- The width of the code is the one of the standard, and nothing is padded without one. -/
theorem padding_iff (width len : Nat) :
    (if width = 0 then 1 else width % 256) - len = width - len
      ↔ if width = 0 then 0 < len else width ≤ len ∨ width < 256 := by
  by_cases hwidth : width = 0
  · rw [if_pos hwidth, if_pos hwidth]
    omega
  · rw [if_neg hwidth, if_neg hwidth]
    omega

/-- Padding is on the left. -/
theorem Conv.field_false (width : Nat) (cv : Conv) :
    cv.field false width = List.replicate (width - cv.text.length) CHAR_SPACE ++ cv.text := by
  cases cv <;> rfl

/-- There is a minus or nothing. -/
theorem NumSpec.sign_cases (spec : NumSpec) (v : U32) :
    spec.sign v = [] ∨ spec.sign v = [CHAR_MINUS] := by
  cases spec with
  | d =>
      by_cases hneg : v.toInt < 0
      · exact .inr (if_pos hneg)
      · exact .inl (if_neg hneg)
  | u | x | X => exact .inl rfl

/-- A conversion with its padding is the field of the standard. -/
theorem text_eq_field_iff {zero : Bool} (width : Nat) {cv : Conv} (h : cv.IsStandard zero) :
    (Piece.conv zero width cv).text = cv.field zero width ↔ PaddedAsC zero width cv := by
  have hlen : 0 < cv.text.length ↔ cv.text ≠ [] := List.length_pos_iff
  cases zero with
  | false =>
      -- The same text behind spaces, and only their number can differ.
      have hspaces : ∀ k pad, List.replicate k CHAR_SPACE ++ cv.text
          = List.replicate pad CHAR_SPACE ++ cv.text ↔ k = pad := by
        intro k pad
        rw [List.append_cancel_right_eq]
        exact ⟨fun heq => by simpa using congrArg List.length heq, fun heq => by rw [heq]⟩
      rw [cv.field_false]
      refine (hspaces _ _).trans ((padding_iff width _).trans ?_)
      rw [PaddedAsC, hlen]
      simp
  | true =>
      cases cv with
      | num spec v =>
          refine (replicate_sign_iff (spec.sign_cases v) _ _ _).trans ?_
          refine (and_congr_left' (padding_iff width (spec.text v).length)).trans ?_
          show _ ↔ if width = 0 then spec.text v ≠ [] else width ≤ (spec.text v).length ∨
            (width < 256 ∧ ¬ (true = true ∧ spec.sign v ≠ []))
          by_cases hwidth : width = 0
          · rw [if_pos hwidth, if_pos hwidth, List.length_pos_iff]
            simp [hwidth]
          · rw [if_neg hwidth, if_neg hwidth]
            by_cases hsign : spec.sign v = []
            · simp [hsign]
            · simp only [hsign, ne_eq, not_false_eq_true, and_self, not_true_eq_false, and_false,
                or_false]
              omega
      | c v => exact absurd h.1 (by decide)
      | s str => exact absurd h (by simp [Conv.IsStandard])
      | percent => exact absurd h (by simp [Conv.IsStandard])

/-- For every conversion with its flag, width and argument, anywhere in a format: what
`buf_printf` puts out for it is the field of the C standard exactly if `PaddedAsC` holds. -/
theorem field_iff (zero : Bool) (width : Nat) (cv : Conv) (h : cv.IsStandard zero)
    (before after : List Piece) :
    emitted (before ++ .conv zero width cv :: after)
        = some (formatted before ++ cv.field zero width ++ formatted after)
      ↔ PaddedAsC zero width cv := by
  rw [← text_eq_field_iff width h, emitted_eq, Option.some.injEq]
  have htext : formatted (before ++ .conv zero width cv :: after)
      = formatted before ++ (Piece.conv zero width cv).text ++ formatted after := by
    simp [formatted]
  rw [htext, List.append_cancel_right_eq, List.append_cancel_left_eq]

/-- `"%5d"` of -42 and `"%04x"` of 190 are padded as in C. -/
theorem field_of_numbers :
    emitted [.conv false 5 (.num .d (-42))] = some [0x20, 0x20, 0x2D, 0x34, 0x32] ∧
      emitted [.conv true 4 (.num .x 190)] = some [0x30, 0x30, 0x62, 0x65] := by
  have hspaces : PaddedAsC false 5 (.num .d (-42)) := .inr ⟨by decide, by simp⟩
  have hzeros : PaddedAsC true 4 (.num .x 190) := .inr ⟨by decide, fun h => h.2 rfl⟩
  exact ⟨(field_iff false 5 (.num .d (-42)) trivial [] []).mpr hspaces,
    (field_iff true 4 (.num .x 190) trivial [] []).mpr hzeros⟩

/-- `"%04d"` of -1 is `"00-1"`, where C has `"-001"`. `"%s"` of no characters is a space, where
C has nothing. `"%256u"` of 0 is one digit, where C has 256 characters. -/
theorem field_not_as_c :
    (emitted [.conv true 4 (.num .d (-1))] = some [0x30, 0x30, 0x2D, 0x31] ∧
        (Conv.num .d (-1)).field true 4 = [0x2D, 0x30, 0x30, 0x31]) ∧
      (emitted [.conv false 0 (.s ⟨[], by simp⟩)] = some [0x20] ∧
        (Conv.s ⟨[], by simp⟩).field false 0 = []) ∧
      emitted [.conv false 256 (.num .u 0)] = some [0x30] ∧
        ((Conv.num .u 0).field false 256).length = 256 := by
  have hwide : ((Conv.num .u 0).field false 256).length = 256 := by
    rw [Conv.field_false, List.length_append, List.length_replicate]
    rfl
  refine ⟨⟨?_, ?_⟩, ⟨?_, ?_⟩, ?_, hwide⟩
  all_goals decide

end PikvmHid
