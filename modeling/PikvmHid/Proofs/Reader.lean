import PikvmHid.Proofs.Framing

/-!
# `PikvmHid.Proofs.Reader`: the read loop of `handle_command`

The loop takes the bytes of one chunk off the queue. `Reading` says how far it is: the
first `i` bytes of the chunk are in `cmd_buf`, the others are at the front of the queue.

* A raw frame of at most `MAX_CMD_LEN` bytes is a chunk whatever stands behind it. The
  loop stops at its last byte and leaves the rest of the queue alone (`raw_step`).
* Anything that starts with `'3'` is a chunk when nothing stands behind it, because then
  the loop stops at the empty queue (`binary_step`). Its bytes may be one binary frame,
  or a binary frame and more frames.

`frame_step` puts the two together for a single frame.
-/

set_option autoImplicit false

namespace PikvmHid

open Lib

/-- The loop has read the first `i` bytes of `chunk`, and the queue holds the others with
`rest` behind them. -/
structure Reading (chunk rest : List U8) (i : Nat) (cmdBuf : Buffer) (queue : List U8) :
    Prop where
  le : i ≤ chunk.length
  read : cmdBuf.bytes i = chunk.take i
  queue_eq : queue = chunk.drop i ++ rest

namespace Reading

variable {chunk rest queue : List U8} {i : Nat} {cmdBuf : Buffer}

/-- The loop at its start. -/
theorem start (chunk rest : List U8) (cmdBuf : Buffer) :
    Reading chunk rest 0 cmdBuf (chunk ++ rest) :=
  ⟨Nat.zero_le _, rfl, rfl⟩

/-- A frame that arrives during the loop goes behind the rest. -/
theorem append (h : Reading chunk rest i cmdBuf queue) (frame : List U8) :
    Reading chunk (rest ++ frame) i cmdBuf (queue ++ frame) :=
  ⟨h.le, h.read, by rw [h.queue_eq, List.append_assoc]⟩

/-- The first byte of the buffer, once there is one. -/
theorem head_eq (h : Reading chunk rest i cmdBuf queue) (hi : 0 < i) :
    chunk.head? = some (cmdBuf 0) := by
  have hget : (chunk.take i)[0]? = (cmdBuf.bytes i)[0]? := by rw [h.read]
  rw [List.getElem?_take_of_lt hi, Buffer.bytes, List.getElem?_map,
    List.getElem?_range hi] at hget
  rw [List.head?_eq_getElem?]
  exact hget

/-- With bytes of the chunk left, the next one is at the front of the queue. -/
theorem queue_cons (h : Reading chunk rest i cmdBuf queue) (hi : i < chunk.length) :
    queue = chunk[i] :: (chunk.drop (i + 1) ++ rest) := by
  rw [h.queue_eq, List.drop_eq_getElem_cons hi, List.cons_append]

/-- The loop has taken one more byte of the chunk. -/
theorem store (h : Reading chunk rest i cmdBuf queue) (hi : i < chunk.length) :
    Reading chunk rest (i + 1) (cmdBuf.set i chunk[i]) queue.tail := by
  refine ⟨hi, ?_, ?_⟩
  · rw [Buffer.bytes_set_succ, h.read, List.take_append_getElem]
  · rw [h.queue_cons hi, List.tail_cons]

/-- At the end of the chunk all of it is in the buffer. -/
theorem read_all (h : Reading chunk rest i cmdBuf queue) (hi : i = chunk.length) :
    cmdBuf.bytes i = chunk := by
  rw [h.read, hi, List.take_length]

end Reading

/-- The handler for a buffer that starts with the chunk. -/
theorem handlerOf_set {chunk rest queue : List U8} {i : Nat} {cmdBuf : Buffer}
    (h : Reading chunk rest i cmdBuf queue) (hi : 0 < i) :
    handlerOf (cmdBuf.set i 0) = if chunk.head? = some CHAR_3 then .pikvm else .rawkvm := by
  have hne : (0 : Nat) ≠ i := Nat.ne_of_lt hi
  rw [h.head_eq hi, handlerOf, Buffer.set_of_ne _ hne]
  simp only [Option.some.injEq]

/-- Storing the zero behind the read bytes does not show in them. -/
theorem bytes_terminated (cmdBuf : Buffer) (i : Nat) :
    (cmdBuf.set i 0).bytes i = cmdBuf.bytes i :=
  Buffer.bytes_set_of_le cmdBuf (Nat.le_refl i) 0

/-- One round of the loop inside a raw frame: it takes the next byte, or the last byte
ends it. Then the command is in the buffer and the rest is in the queue. -/
theorem raw_step {f rest queue : List U8} {i : Nat} {cmdBuf : Buffer} (hf : IsRawFrame f)
    (hlen : f.length ≤ MAX_CMD_LEN) (hi : i < f.length)
    (h : Reading f rest i cmdBuf queue) :
    (∃ cmdBuf', afterRecv i cmdBuf queue.head? = .recvMsg (i + 1) cmdBuf' ∧
        i + 1 < f.length ∧ Reading f rest (i + 1) cmdBuf' queue.tail) ∨
    (∃ cmdBuf', afterRecv i cmdBuf queue.head? = .dispatch i cmdBuf' ∧
        (handlerOf cmdBuf', cmdBuf'.bytes i) = commandOf f ∧ queue.tail = rest) := by
  obtain ⟨start, payload, eol, rfl, hstart, hpayload, heol⟩ := hf.exists_eq
  set f := start :: (payload ++ [eol]) with hfdef
  have hflen : f.length = payload.length + 2 := by simp [hfdef]
  have hhead : queue.head? = some f[i] := by rw [h.queue_cons hi, List.head?_cons]
  by_cases hlast : i + 1 < f.length
  · -- Not the last byte of the frame: no end of line.
    left
    have hch : ¬ IsEol f[i] := by
      cases i with
      | zero => exact not_isEol_of_isRawStart hstart
      | succ j =>
          have hj : j < payload.length := by omega
          have hget : f[j + 1] = payload[j] := by
            simp only [hfdef, List.getElem_cons_succ]
            exact List.getElem_append_left hj
          rw [hget]
          exact hpayload _ (List.getElem_mem hj)
    have hroom : i + 1 < MAX_CMD_LEN := Nat.lt_of_lt_of_le hlast hlen
    refine ⟨cmdBuf.set i f[i], ?_, hlast, h.store hi⟩
    rw [hhead, afterRecv, if_neg fun hstop => hch hstop.2, if_pos hroom]
  · -- The last byte: the end of line, and the first byte of the buffer is no `'3'`.
    right
    have hi' : i = payload.length + 1 := by omega
    have hpos : 0 < i := by omega
    have hch : f[i] = eol := by
      subst hi'
      simp only [hfdef, List.getElem_cons_succ]
      exact List.getElem_concat_length rfl _
    have hmagic : cmdBuf 0 ≠ MAGIC := by
      have hfirst : some start = some (cmdBuf 0) := h.head_eq hpos
      rw [← Option.some.inj hfirst]
      exact ne_char3_of_isRawStart hstart
    refine ⟨cmdBuf.set i 0, ?_, ?_, ?_⟩
    · rw [hhead, hch, afterRecv, if_pos ⟨hmagic, heol⟩]
    · have hraw : f.head? ≠ some CHAR_3 := hf.head_ne
      rw [handlerOf_set h hpos, bytes_terminated, h.read, if_neg hraw, commandOf_raw hf,
        List.dropLast_eq_take, hflen, hi']
      rfl
    · rw [h.queue_cons hi, List.tail_cons, List.drop_eq_nil_of_le (Nat.le_of_not_lt hlast),
        List.nil_append]

/-- One round of the loop inside a chunk that starts with `'3'`: it takes the next byte,
or gives up because the buffer is full, or finds the queue empty. -/
theorem binary_step {chunk queue : List U8} {i : Nat} {cmdBuf : Buffer}
    (hhead : chunk.head? = some CHAR_3) (hlen : chunk.length ≤ MAX_CMD_LEN)
    (h : Reading chunk [] i cmdBuf queue) :
    (∃ cmdBuf', afterRecv i cmdBuf queue.head? = .recvMsg (i + 1) cmdBuf' ∧
        Reading chunk [] (i + 1) cmdBuf' queue.tail) ∨
    (afterRecv i cmdBuf queue.head? = .yield ∧ chunk.length = MAX_CMD_LEN ∧
        queue.tail = []) ∨
    (∃ cmdBuf', afterRecv i cmdBuf queue.head? = .dispatch i cmdBuf' ∧
        (handlerOf cmdBuf', cmdBuf'.bytes i) = (.pikvm, chunk) ∧ queue.tail = []) := by
  by_cases hi : i < chunk.length
  · have hq : queue.head? = some chunk[i] := by rw [h.queue_cons hi, List.head?_cons]
    -- The first byte is no end of line, and behind it the buffer starts with `'3'`.
    have hgo : ¬ (cmdBuf 0 ≠ MAGIC ∧ IsEol chunk[i]) := by
      rintro ⟨hmagic, heol⟩
      cases i with
      | zero =>
          rw [List.head?_eq_getElem?, List.getElem?_eq_getElem hi] at hhead
          rw [Option.some.inj hhead] at heol
          exact not_isEol_char3 heol
      | succ j =>
          rw [h.head_eq (Nat.succ_pos j)] at hhead
          exact hmagic (Option.some.inj hhead)
    by_cases hroom : i + 1 < MAX_CMD_LEN
    · refine Or.inl ⟨cmdBuf.set i chunk[i], ?_, h.store hi⟩
      rw [hq, afterRecv, if_neg hgo, if_pos hroom]
    · refine Or.inr (Or.inl ⟨?_, by omega, ?_⟩)
      · rw [hq, afterRecv, if_neg hgo, if_neg hroom]
      · rw [h.queue_cons hi, List.tail_cons, List.drop_eq_nil_of_le (by omega)]
        rfl
  · have hend : i = chunk.length := Nat.le_antisymm h.le (Nat.le_of_not_lt hi)
    have hnil : queue = [] := by
      rw [h.queue_eq, hend, List.drop_length]
      rfl
    have hpos : 0 < i := by
      rw [hend]
      exact List.length_pos_of_ne_nil fun hc => by rw [hc] at hhead; cases hhead
    refine Or.inr (Or.inr ⟨cmdBuf.set i 0, ?_, ?_, by rw [hnil]; rfl⟩)
    · rw [hnil]
      rfl
    · rw [handlerOf_set h hpos, bytes_terminated, h.read_all hend, if_pos hhead]

/-- One round of the loop inside a frame: it takes the next byte, or it has the whole
command. A raw frame has a byte left, and behind a binary one nothing stands. -/
theorem frame_step {f rest queue : List U8} {i : Nat} {cmdBuf : Buffer}
    (hframe : IsBinaryFrame f ∨ IsRawFrame f) (hlen : f.length ≤ MAX_CMD_LEN)
    (hraw : IsRawFrame f → i < f.length) (hbin : IsBinaryFrame f → rest = [])
    (h : Reading f rest i cmdBuf queue) :
    (∃ cmdBuf', afterRecv i cmdBuf queue.head? = .recvMsg (i + 1) cmdBuf' ∧
        (IsRawFrame f → i + 1 < f.length) ∧ Reading f rest (i + 1) cmdBuf' queue.tail) ∨
    (∃ cmdBuf', afterRecv i cmdBuf queue.head? = .dispatch i cmdBuf' ∧
        (handlerOf cmdBuf', cmdBuf'.bytes i) = commandOf f ∧ queue.tail = rest) := by
  by_cases hisraw : IsRawFrame f
  · rcases raw_step hisraw hlen (hraw hisraw) h with
      ⟨cmdBuf', hafter, hi, hreading⟩ | hdone
    · exact Or.inl ⟨cmdBuf', hafter, fun _ => hi, hreading⟩
    · exact Or.inr hdone
  · have hisbin : IsBinaryFrame f := hframe.resolve_right hisraw
    obtain rfl := hbin hisbin
    rcases binary_step hisbin.1 hlen h with
      ⟨cmdBuf', hafter, hreading⟩ | ⟨-, hfull, -⟩ | ⟨cmdBuf', hafter, hcmd, htail⟩
    · exact Or.inl ⟨cmdBuf', hafter, fun hr => absurd hr hisraw, hreading⟩
    · -- Eight bytes do not fill the buffer.
      rw [hisbin.2] at hfull
      exact absurd hfull (by decide)
    · exact Or.inr ⟨cmdBuf', hafter, hcmd.trans (commandOf_binary hisbin.1).symm, htail⟩

end PikvmHid
