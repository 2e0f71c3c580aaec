import PikvmHid.Proofs.Answers
import PikvmHid.Proofs.Reader
import PikvmHid.Spec.Host

/-!
# `PikvmHid.Proofs.Serving`: one frame at a time

What a host keeps the device in that waits for each response. The invariant, `Serving`,
says where the last frame of the host is. Either all frames are handed over, and nothing is
under way (`Quiet`). Or the last one is in one of four phases: being written, in the queue,
being read, or handed over to its handler (`Phase`). The discipline leaves no room for a
second frame in any of the four.

* `serving_first`, `serving_next`: what a byte of the host does.
* `phase_step`, `quiet_step`: what a step of the task does.
* `servingInv_step`: the invariant is kept as long as the host keeps `StopAndWait`.
-/

set_option autoImplicit false

namespace PikvmHid

open Lib

/-- A frame the device takes: a binary one, or a raw one of at most `MAX_CMD_LEN`
bytes. -/
def WellFormed (f : List U8) : Prop :=
  IsBinaryFrame f ∨ IsRawFrame f ∧ f.length ≤ MAX_CMD_LEN

/-- A well-formed frame is a binary or a raw one. -/
theorem WellFormed.isFrame {f : List U8} (h : WellFormed f) :
    IsBinaryFrame f ∨ IsRawFrame f :=
  h.imp_right And.left

/-- It fits the command buffer. -/
theorem WellFormed.length_le {f : List U8} (h : WellFormed f) : f.length ≤ MAX_CMD_LEN := by
  rcases h with h | h
  · rw [h.2]
    decide
  · exact h.2

/-- It has at least two bytes. -/
theorem WellFormed.one_lt_length {f : List U8} (h : WellFormed f) : 1 < f.length := by
  rcases h with h | h
  · rw [h.2]
    decide
  · exact h.1.length_pos

/-! ### The invariant -/

/-- The task is between two commands, with nothing left to send. -/
def Between : Pc → Prop
  | .waitEvents | .yield | .transmit [] => True
  | _                                   => False

/-- The task is behind a handler call. -/
def Answering : Pc → Prop
  | .waitEvents | .yield | .transmit _ => True
  | _                                  => False

/-- Between two commands nothing is to be sent. -/
theorem Between.toSend_eq {pc : Pc} (h : Between pc) : toSend pc = [] := by
  match pc, h with
  | .waitEvents, _ | .yield, _ | .transmit [], _ => rfl

/-- An answer that is sent is the end of the command. -/
theorem Answering.between {pc : Pc} (h : Answering pc) (hsent : toSend pc = []) :
    Between pc := by
  match pc, h with
  | .waitEvents, _ | .yield, _ => trivial
  | .transmit [], _ => trivial
  | .transmit (b :: rest), _ => cases hsent

/-- Nothing is under way: no byte is collected or queued, the flag is clear, and the host
has written what it started. -/
structure Quiet (l : Link) (h : Host) : Prop where
  collected : l.collected = []
  queue : l.queue = []
  flag : l.cmdIn = false
  cur : h.cur = []

/-- Where the frame `f` is, from its first byte to its handler call. -/
inductive Phase (l : Link) (h : Host) (f : List U8) : Prop where
  /-- The interrupt has collected some of it, and the host has the rest. -/
  | writing (written : l.collected ++ h.cur = f) (more : h.cur ≠ [])
      (tick : l.lastTick = h.lastTick) (queue : l.queue = []) (flag : l.cmdIn = false)
      (pc : Between l.pc)
  /-- It is in the queue. -/
  | queued (collected : l.collected = []) (cur : h.cur = []) (queue : l.queue = f)
      (flag : l.cmdIn = true) (pc : Between l.pc)
  /-- The task reads it. -/
  | reading (collected : l.collected = []) (cur : h.cur = []) (flag : l.cmdIn = false)
      (i : Nat) (cmdBuf : Buffer) (pc : l.pc = .recvMsg i cmdBuf)
      (raw : IsRawFrame f → i < f.length) (reading : Reading f [] i cmdBuf l.queue)
  /-- The task has read it and is about to call its handler. -/
  | inHand (quiet : Quiet l h) (i : Nat) (cmdBuf : Buffer) (pc : l.pc = .dispatch i cmdBuf)
      (cmd : (handlerOf cmdBuf, cmdBuf.bytes i) = commandOf f)

/-- Either all frames the host has started are handed over, or all but the last one. -/
def Serving (frames : List (List U8)) (l : Link) (h : Host) (t : List Obs) : Prop :=
  (Quiet l h ∧ Answering l.pc ∧ dispatched t = (frames.take h.sent).map commandOf) ∨
  ∃ n f, h.sent = n + 1 ∧ frames[n]? = some f ∧
    dispatched t = (frames.take n).map commandOf ∧ Phase l h f

/-- The invariant of a configuration. -/
structure ServingInv (frames : List (List U8)) (c : (Link × Host) × List Obs) : Prop where
  todo : c.1.2.todo = frames.drop c.1.2.sent
  sent_le : c.1.2.sent ≤ frames.length
  transmitting : Transmitting (c.1.1, c.2)
  answers : Answers (fun _ _ => True) c.2
  serving : Serving frames c.1.1 c.1.2 c.2

/-- One response for each handler call. -/
theorem ServingInv.length_responses {frames : List (List U8)}
    {c : (Link × Host) × List Obs} (h : ServingInv frames c) :
    (responses c.2).length = (dispatched c.2).length := by
  obtain ⟨outs, houts, -, hresponses⟩ := h.answers
  rw [hresponses, List.length_map, houts.length_eq]

/-! ### The host's byte -/

section
variable {frames : List (List U8)} {l : Link} {h : Host} {t : List Obs} {ch : U8}
  {tick : U32}

/-- The first byte of a frame. The frame has more than one byte, so it is being
written. -/
theorem serving_first (tick : U32) (hwf : ∀ f ∈ frames, WellFormed f)
    (htodo : h.todo = frames.drop h.sent) (hquiet : Quiet l h) (hbetween : Between l.pc)
    (hd : dispatched t = (frames.take h.sent).map commandOf) (hnext : h.next? = some ch) :
    ∃ f, frames[h.sent]? = some f ∧ (h.write tick).sent = h.sent + 1 ∧
      (h.write tick).todo = frames.drop (h.sent + 1) ∧ (l.isrStep ch tick).2 = [] ∧
      Phase (l.isrStep ch tick).1 (h.write tick) f := by
  -- The host starts its next frame.
  obtain ⟨todo, cur, sent, lastTick⟩ := h
  obtain rfl : cur = [] := hquiet.cur
  simp only [Host.next?] at hnext
  match todo, hnext with
  | (b :: q) :: todo, hnext =>
    obtain rfl : b = ch := Option.some.inj hnext
    have hf : frames[sent]? = some (b :: q) := by
      rw [← List.head?_drop, ← htodo]
      rfl
    have hwff := hwf _ (List.mem_of_getElem? hf)
    have hq : q ≠ [] := by
      rintro rfl
      exact absurd hwff.one_lt_length (by simp)
    have hbytes : withByte l.lastTick l.collected b tick = [b] := by
      rw [hquiet.collected, withByte_first]
    have hcompletes : l.completes b tick = none := by
      unfold Link.completes
      rw [hbytes]
      exact if_neg fun hsend => hq ((sendFrame_iff hwff.isFrame (p := []) rfl).mp hsend)
    have hstep : l.isrStep b tick
        = ({ l with collected := [b], lastTick := tick }, []) := by
      unfold Link.isrStep
      rw [hcompletes, hbytes]
    refine ⟨b :: q, hf, rfl, ?_, by rw [hstep], ?_⟩
    · show todo = frames.drop (sent + 1)
      rw [← List.tail_drop, ← htodo]
      rfl
    · rw [hstep]
      exact .writing rfl hq rfl hquiet.queue hquiet.flag hbetween

/-- Any later byte of a frame: it is being written, or with its last byte in the queue. -/
theorem serving_next {f : List U8} (hwff : WellFormed f) (hwritten : l.collected ++ h.cur = f)
    (hmore : h.cur ≠ []) (htick : l.lastTick = h.lastTick)
    (hqueue : l.queue = []) (hflag : l.cmdIn = false) (hbetween : Between l.pc)
    (hnext : h.next? = some ch) (hgap : tick - h.lastTick ≤ 50) :
    (h.write tick).sent = h.sent ∧ (h.write tick).todo = h.todo ∧
      dispatched (l.isrStep ch tick).2 = [] ∧
      Phase (l.isrStep ch tick).1 (h.write tick) f := by
  obtain ⟨todo, cur, sent, lastTick⟩ := h
  match cur, hmore, hnext with
  | b :: q, _, hnext =>
    obtain rfl : b = ch := Option.some.inj hnext
    have hlen : l.collected.length < UART_RX_BUF_LEN := by
      have hle := hwff.length_le
      rw [← hwritten, List.length_append] at hle
      exact Nat.lt_of_le_of_lt (Nat.le_of_add_right_le hle) (by decide)
    have hbytes : withByte l.lastTick l.collected b tick = l.collected ++ [b] :=
      withByte_within b (htick ▸ hgap) hlen
    have hcompletes : l.completes b tick = if q = [] then some f else none := by
      unfold Link.completes
      rw [hbytes]
      have hiff := sendFrame_iff hwff.isFrame hwritten.symm
      by_cases hq : q = []
      · rw [if_pos (hiff.mpr hq), if_pos hq, ← hwritten, hq]
      · rw [if_neg fun hsend => hq (hiff.mp hsend), if_neg hq]
    refine ⟨rfl, rfl, ?_⟩
    unfold Link.isrStep
    rw [hcompletes, hbytes]
    by_cases hq : q = []
    · -- The last byte: the queue is empty, so the frame fits.
      have hfit : l.queue.length + f.length ≤ Link.capacity := by
        rw [hqueue, List.length_nil, Nat.zero_add]
        exact Nat.le_trans hwff.length_le (by decide)
      rw [if_pos hq]
      simp only [Link.deliver, if_pos hfit]
      refine ⟨rfl, .queued rfl hq ?_ rfl hbetween⟩
      rw [hqueue]
      rfl
    · rw [if_neg hq]
      refine ⟨rfl, .writing ?_ hq rfl hqueue hflag hbetween⟩
      rw [← hwritten, List.append_assoc]
      rfl

end

/-! ### The task's step -/

/-- The task between two commands: it goes on, and starts to read when the flag is set. -/
theorem between_step {l : Link} (env : TaskEnv) (hbetween : Between l.pc) :
    (l.taskStep env).2 = [] ∧
    ((∃ pc, Between pc ∧ (l.taskStep env).1 = { l with pc := pc }) ∨
      l.pc = .waitEvents ∧ (l.taskStep env).1 = { l with
        cmdIn := false, pc := if l.cmdIn then .recvMsg 0 env.cmdBuf else .yield }) := by
  unfold Link.taskStep
  match hpc : l.pc, hbetween with
  | .waitEvents, _ => exact ⟨rfl, Or.inr ⟨rfl, rfl⟩⟩
  | .yield, _ => exact ⟨rfl, Or.inl ⟨.waitEvents, trivial, rfl⟩⟩
  | .transmit [], _ => exact ⟨rfl, Or.inl ⟨.yield, trivial, rfl⟩⟩

/-- A round of the read loop takes the frame a step further. -/
theorem reading_step {l : Link} {h : Host} {f : List U8} (hwff : WellFormed f)
    (hcollected : l.collected = []) (hcur : h.cur = []) (hflag : l.cmdIn = false) {i : Nat}
    {cmdBuf : Buffer} (hraw : IsRawFrame f → i < f.length)
    (hreading : Reading f [] i cmdBuf l.queue) :
    Phase { l with queue := l.queue.tail, pc := afterRecv i cmdBuf l.queue.head? } h f ∧
      ∃ cmdBuf', afterRecv i cmdBuf l.queue.head? = .recvMsg (i + 1) cmdBuf' ∨
        afterRecv i cmdBuf l.queue.head? = .dispatch i cmdBuf' := by
  rcases frame_step (hwff.imp_right And.left) hwff.length_le hraw (fun _ => rfl) hreading with
    ⟨cmdBuf', hafter, hi, hreading'⟩ | ⟨cmdBuf', hafter, hcmd, htail⟩
  · refine ⟨?_, cmdBuf', Or.inl hafter⟩
    rw [hafter]
    exact .reading hcollected hcur hflag (i + 1) cmdBuf' rfl hi hreading'
  · refine ⟨?_, cmdBuf', Or.inr hafter⟩
    rw [hafter]
    exact .inHand ⟨hcollected, htail, hflag, hcur⟩ i cmdBuf' rfl hcmd

/-- A step of the task on the frame that is under way. -/
theorem phase_step {l : Link} {h : Host} {f : List U8} (hwff : WellFormed f)
    (hphase : Phase l h f) (env : TaskEnv) :
    Phase (l.taskStep env).1 h f ∧ dispatched (l.taskStep env).2 = [] ∨
    Quiet (l.taskStep env).1 h ∧ Answering (l.taskStep env).1.pc ∧
      dispatched (l.taskStep env).2 = [commandOf f] := by
  cases hphase with
  | writing hwritten hmore htick hqueue hflag hbetween =>
      left
      obtain ⟨hobs, ⟨pc, hpc, hstep⟩ | ⟨-, hstep⟩⟩ := between_step env hbetween
      · rw [hstep, hobs]
        exact ⟨.writing hwritten hmore htick hqueue hflag hpc, rfl⟩
      · rw [hstep, hobs, hflag]
        exact ⟨.writing hwritten hmore htick hqueue rfl trivial, rfl⟩
  | queued hcollected hcur hqueue hflag hbetween =>
      -- The flag is set, so the task starts to read when it gets to `waitEvents`.
      left
      obtain ⟨hobs, ⟨pc, hpc, hstep⟩ | ⟨-, hstep⟩⟩ := between_step env hbetween
      · rw [hstep, hobs]
        exact ⟨.queued hcollected hcur hqueue hflag hpc, rfl⟩
      · rw [hstep, hobs, hflag]
        refine ⟨.reading hcollected hcur rfl 0 env.cmdBuf rfl (fun hr => ?_) ?_, rfl⟩
        · exact Nat.lt_trans Nat.zero_lt_one hr.length_pos
        · rw [hqueue]
          simpa using Reading.start f [] env.cmdBuf
  | reading hcollected hcur hflag i cmdBuf hpc hraw hreading =>
      left
      unfold Link.taskStep
      rw [hpc]
      exact ⟨(reading_step hwff hcollected hcur hflag hraw hreading).1, rfl⟩
  | inHand hquiet i cmdBuf hpc hcmd =>
      -- The handler call: the frame has gone through all its phases.
      right
      unfold Link.taskStep
      rw [hpc]
      refine ⟨⟨hquiet.collected, hquiet.queue, hquiet.flag, hquiet.cur⟩, trivial, ?_⟩
      rw [dispatched_handled, hcmd]

/-- A step of the task with nothing under way. -/
theorem quiet_step {l : Link} {h : Host} (hquiet : Quiet l h) (hanswering : Answering l.pc)
    (env : TaskEnv) :
    Quiet (l.taskStep env).1 h ∧ Answering (l.taskStep env).1.pc ∧
      dispatched (l.taskStep env).2 = [] := by
  obtain ⟨hcollected, hqueue, hflag, hcur⟩ := hquiet
  unfold Link.taskStep
  match l.pc, hanswering with
  | .waitEvents, _ =>
      rw [hflag]
      exact ⟨⟨hcollected, hqueue, rfl, hcur⟩, trivial, rfl⟩
  | .yield, _ => exact ⟨⟨hcollected, hqueue, hflag, hcur⟩, trivial, rfl⟩
  | .transmit [], _ => exact ⟨⟨hcollected, hqueue, hflag, hcur⟩, trivial, rfl⟩
  | .transmit (b :: rest), _ => exact ⟨⟨hcollected, hqueue, hflag, hcur⟩, trivial, rfl⟩

/-! ### The run -/

/-- The frame is the next one behind those handed over. -/
theorem take_succ_map {frames : List (List U8)} {n : Nat} {f : List U8}
    (hf : frames[n]? = some f) :
    (frames.take (n + 1)).map commandOf = (frames.take n).map commandOf ++ [commandOf f] := by
  rw [List.take_add_one, hf, List.map_append]
  rfl

/-- A step of the task serves the frames on. -/
theorem servingInv_task {frames : List (List U8)} (hwf : ∀ f ∈ frames, WellFormed f)
    {l : Link} {h : Host} {t : List Obs} (hinv : ServingInv frames ((l, h), t))
    (env : TaskEnv) :
    Serving frames (l.taskStep env).1 h (t ++ (l.taskStep env).2) := by
  rcases hinv.serving with ⟨hquiet, hanswering, hd⟩ | ⟨n, f, hn, hf, hd, hphase⟩
  · obtain ⟨hquiet', hanswering', hobs⟩ := quiet_step hquiet hanswering env
    refine Or.inl ⟨hquiet', hanswering', ?_⟩
    rw [dispatched_append, hobs, hd, List.append_nil]
  · have hwff := hwf f (List.mem_of_getElem? hf)
    rcases phase_step hwff hphase env with ⟨hphase', hobs⟩ | ⟨hquiet', hanswering', hobs⟩
    · refine Or.inr ⟨n, f, hn, hf, ?_, hphase'⟩
      rw [dispatched_append, hobs, hd, List.append_nil]
    · refine Or.inl ⟨hquiet', hanswering', ?_⟩
      rw [dispatched_append, hobs, hd, hn, take_succ_map hf]

/-- So does a byte from the host that waits for its answers. -/
theorem servingInv_isr {frames : List (List U8)} (hwf : ∀ f ∈ frames, WellFormed f)
    {l : Link} {h : Host} {t : List Obs} (hinv : ServingInv frames ((l, h), t)) {ch : U8}
    {tick : U32} (hok : h.StopAndWait t (.isr ch tick)) :
    (h.write tick).todo = frames.drop (h.write tick).sent ∧
      (h.write tick).sent ≤ frames.length ∧
      Serving frames (l.isrStep ch tick).1 (h.write tick) (t ++ (l.isrStep ch tick).2) := by
  obtain ⟨hnext, hguard⟩ := hok
  have hlen := hinv.length_responses
  have htransmitting : (responses t).flatten = transmitted t ++ toSend l.pc :=
    hinv.transmitting
  -- A frame that is read or about to be read has no response yet, so the host waits.
  have hwaits : ∀ n, h.sent = n + 1 → dispatched t = (frames.take n).map commandOf →
      h.cur ≠ [] := by
    intro n hn hd hcur
    rw [if_pos hcur] at hguard
    have hcount : n + 1 ≤ n := by
      calc n + 1 = (responses t).length := by rw [hguard.1, hn]
        _ = (frames.take n).length := by rw [hlen, hd, List.length_map]
        _ ≤ n := List.length_take_le n frames
    omega
  rcases hinv.serving with ⟨hquiet, hanswering, hd⟩ | ⟨n, f, hn, hf, hd, hphase⟩
  · -- All responses are out, so the task is between two commands.
    rw [if_pos hquiet.cur] at hguard
    have hsent : toSend l.pc = [] := by
      rw [hguard.2] at htransmitting
      exact List.self_eq_append_right.mp htransmitting
    obtain ⟨f, hf, hsent', htodo', hobs, hphase⟩ := serving_first tick hwf hinv.todo
      hquiet (hanswering.between hsent) hd hnext
    obtain ⟨hbound, -⟩ := List.getElem?_eq_some_iff.mp hf
    refine ⟨by rw [htodo', hsent'], by rw [hsent']; exact hbound, Or.inr ⟨h.sent, f, hsent', hf, ?_, hphase⟩⟩
    rw [hobs, List.append_nil, hd]
  · cases hphase with
    | writing hwritten hmore htick hqueue hflag hbetween =>
        rw [if_neg hmore] at hguard
        obtain ⟨hsent', htodo', hobs, hphase'⟩ := serving_next
          (hwf f (List.mem_of_getElem? hf)) hwritten hmore htick hqueue hflag hbetween hnext hguard
        refine ⟨by rw [htodo', hsent']; exact hinv.todo, by rw [hsent']; exact hinv.sent_le,
          Or.inr ⟨n, f, by rw [hsent', hn], hf, ?_, hphase'⟩⟩
        rw [dispatched_append, hobs, hd, List.append_nil]
    | queued _ hcur => exact absurd hcur (hwaits n hn hd)
    | reading _ hcur => exact absurd hcur (hwaits n hn hd)
    | inHand hquiet => exact absurd hquiet.cur (hwaits n hn hd)

/-- A step keeps the invariant as long as the host keeps its discipline. -/
theorem servingInv_step {frames : List (List U8)} (hwf : ∀ f ∈ frames, WellFormed f)
    (c : (Link × Host) × List Obs) (a : Act) (hinv : ServingInv frames c) (hok : HostOk c a) :
    ServingInv frames (hostedLink.next c a) := by
  obtain ⟨⟨l, h⟩, t⟩ := c
  have htransmitting := transmitting_step (l, t) a hinv.transmitting
  have hanswers := answers_step (E := fun _ => True) (fun _ _ _ _ _ => trivial) (l, t) a
    hinv.answers (by cases a <;> trivial)
  cases a with
  | isr ch tick =>
      obtain ⟨htodo, hsent, hserving⟩ := servingInv_isr hwf hinv hok
      exact ⟨htodo, hsent, htransmitting, hanswers, hserving⟩
  | task env =>
      exact ⟨hinv.todo, hinv.sent_le, htransmitting, hanswers, servingInv_task hwf hinv env⟩

end PikvmHid
