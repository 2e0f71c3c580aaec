import PikvmHid.Proofs.Delivery
import PikvmHid.Proofs.StopWait

/-!
# `PikvmHid.Proofs.RawProtocol`: which payloads the raw protocol carries

`send_hid_kb_pkt` and `send_hid_ms_pkt` of `script/hid_test.py` write a start character,
the bytes of a report and a carriage return. The payload is binary and the end of the
frame is in the same band, so a payload byte that ends a line ends the frame.

`raw_transparent_iff`: on an idle device whose USB calls succeed, the message ends in one
report equal to the payload, filled up with zeros, and one `"$OK\n"`, exactly if no
payload byte ends a line. Without such a byte the message is a well-formed frame, and
`hosted_served` says what happens. With one, the first frame is shorter, and its report
differs at the place of that byte (`padded_ne`).
-/

set_option autoImplicit false

namespace PikvmHid

open Lib

/-- What `send_hid_kb_pkt` and `send_hid_ms_pkt` write. -/
def rawMessage (start : U8) (payload : List U8) : List U8 := start :: (payload ++ [CHAR_CR])

/-- The payload filled up with zeros to the size of the report. -/
def padded (size : Nat) (payload : List U8) : List U8 :=
  payload ++ List.replicate (size - payload.length) 0

/-- One report with the payload on the interface, and one `"$OK\n"`. -/
def Transparent (itf : HidIf) (size : Nat) (payload : List U8) (t : List Obs) : Prop :=
  reportIns t = [⟨itf, padded size payload, true⟩] ∧ responses t = [rawResponse 0] ∧
    transmitted t = rawResponse 0

instance (itf : HidIf) (size : Nat) (payload : List U8) :
    DecidablePred (Transparent itf size payload) :=
  fun _ => inferInstanceAs (Decidable (_ ∧ _))

/-- The USB calls of the environment succeed. -/
def UsbOk (env : TaskEnv) : Prop := ∀ n, env.handler.reportIn n = true

/-! ### The raw handler -/

/-- The report buffer holds the padded payload behind the report id. -/
theorem bytes_rawReport (rptId : U8) {cmdBuf : Buffer} {start : U8} {payload : List U8}
    {size : Nat} (hcmd : cmdBuf.bytes (payload.length + 1) = start :: payload)
    (hlen : payload.length ≤ size) :
    ((rawReport rptId (cmdBuf.drop 1) payload.length).drop 1).bytes size
      = padded size payload := by
  have hpadded : (padded size payload).length = size := by
    rw [padded, List.length_append, List.length_replicate]
    omega
  refine List.ext_getElem (by rw [Buffer.length_bytes, hpadded]) fun i hi _ => ?_
  have hi' : ¬ 1 + i = 0 := by omega
  have hsub : 1 + i - 1 = i := by omega
  simp only [Buffer.bytes, List.getElem_map, List.getElem_range, Buffer.drop, rawReport,
    if_neg hi', hsub]
  by_cases hin : i < payload.length
  · -- A byte of the payload.
    have hget : (cmdBuf.bytes (payload.length + 1))[i + 1]? = (start :: payload)[i + 1]? := by
      rw [hcmd]
    rw [Buffer.bytes, List.getElem?_map, List.getElem?_range (by omega),
      List.getElem?_cons_succ, List.getElem?_eq_getElem hin] at hget
    rw [if_pos hin, Nat.add_comm 1 i]
    simp only [padded, List.getElem_append_left hin]
    exact Option.some.inj hget
  · rw [if_neg hin]
    simp only [padded, List.getElem_append_right (Nat.le_of_not_lt hin), List.getElem_replicate]

/-- What a raw command that fits its report does when the USB calls succeed. -/
def RawOutcome (call : Handler × List U8) (out : HandlerOut) : Prop :=
  ∀ start payload itf size rptId, call = (.rawkvm, start :: payload) →
    rawTarget start = some (itf, size, rptId) → payload.length ≤ size →
      out.reportIns = [⟨itf, padded size payload, true⟩] ∧ out.response = rawResponse 0

/-- The handler of a raw command answers OK, if USB accepts its report. -/
theorem rawOutcome_handleCommandTail (env : TaskEnv) (st : KvmState) (cmdBuf : Buffer)
    (i : Nat) (henv : UsbOk env) :
    RawOutcome (handlerOf cmdBuf, cmdBuf.bytes i) (handleCommandTail env st cmdBuf i) := by
  intro start payload itf size rptId hcall htarget hlen
  obtain ⟨hhandler, hcmd⟩ := Prod.mk.inj hcall
  have hi : i = payload.length + 1 := by
    have h := congrArg List.length hcmd
    rwa [Buffer.length_bytes] at h
  subst hi
  have hfirst : cmdBuf 0 = start := by
    have h := congrArg List.head? hcmd
    rw [List.head?_cons, Buffer.bytes, List.range_succ_eq_map] at h
    exact Option.some.inj h
  -- One call goes out, and it succeeds.
  have hsend : ∀ data : Buffer, sendHidReport env.handler.reportIn itf data size 3
      = ([⟨itf, data.bytes size, true⟩], size) := by
    intro data
    simp only [sendHidReport, sendHidReport.loop, henv 0, if_true]
  have hcut : ¬ payload.length > size := Nat.not_lt_of_le hlen
  rw [handleCommandTail, hhandler]
  simp only [handleRawkvmCommand, hfirst, htarget, if_neg (Nat.succ_ne_zero payload.length),
    Nat.add_sub_cancel, if_neg hcut, hsend, if_true]
  exact ⟨congrArg (fun report => [(⟨itf, report, true⟩ : ReportIn)])
    (bytes_rawReport rptId hcmd hlen), trivial⟩

/-! ### Any message of at most ten bytes -/

/-- The host's next byte leads the bytes it has left. -/
theorem Host.write_bytes {h : Host} {ch : U8} (hnext : h.next? = some ch) (tick : U32) :
    h.cur ++ h.todo.flatten
      = ch :: ((h.write tick).cur ++ (h.write tick).todo.flatten) := by
  obtain ⟨todo, cur, sent, lastTick⟩ := h
  match cur, todo, hnext with
  | b :: rest, todo, hnext =>
      obtain rfl : b = ch := Option.some.inj hnext
      rfl
  | [], (b :: rest) :: todo, hnext =>
      obtain rfl : b = ch := Option.some.inj hnext
      rfl

/-- With one message at most, none is left to start once it has begun. -/
theorem Host.write_place {h : Host} {ch : U8} (hnext : h.next? = some ch)
    (hone : h.cur = [] ∧ h.todo.length ≤ 1 ∨ h.todo = []) (tick : U32) :
    (h.write tick).todo = [] ∧ (h.write tick).lastTick = tick := by
  obtain ⟨todo, cur, sent, lastTick⟩ := h
  match cur, todo, hnext, hone with
  | b :: rest, todo, _, hone =>
      exact ⟨hone.resolve_left fun ho => List.cons_ne_nil b rest ho.1, rfl⟩
  | [], [m], _, _ => exact ⟨rfl, rfl⟩
  | [], m :: m' :: todo, _, hone => simp at hone

/-- A completed frame is what is collected, with the byte. -/
theorem completes_eq {l : Link} {ch : U8} {tick : U32} {frame : List U8}
    (h : l.completes ch tick = some frame) :
    frame = withByte l.lastTick l.collected ch tick := by
  simp only [Link.completes] at h
  split at h
  · exact (Option.some.inj h).symm
  · cases h

/-- The queue holds at most the frames that the reader is not through with. -/
theorem Delivering.length_queue_le {l : Link} {t : List Obs} {done pend : List (List U8)}
    (h : Delivering l t done pend) : l.queue.length ≤ (accepted t).flatten.length := by
  have hpend : l.queue.length ≤ pend.flatten.length := by
    have hqueued := h.queued
    cases hpc : l.pc with
    | recvMsg i cmdBuf =>
        rw [hpc] at hqueued
        obtain ⟨f, rest, rfl, -, hreading, -⟩ := hqueued
        rw [hreading.queue_eq, List.flatten_cons, List.length_append, List.length_append,
          List.length_drop]
        omega
    | waitEvents | dispatch | transmit | yield =>
        rw [hpc] at hqueued
        rw [hqueued.1]
  rw [h.accepted_eq, List.flatten_append, List.length_append]
  omega

/-- The bytes of the message are accepted, collected or left to the host, in this order.
No byte is dropped, because the gaps are short. -/
structure Written (message : List U8) (c : (Link × Host) × List Obs) : Prop where
  delivery : Link.DeliveryInv (c.1.1, c.2)
  frames : ∀ f ∈ accepted c.2, IsBinaryFrame f ∨ IsRawFrame f
  bytes : (accepted c.2).flatten ++ c.1.1.collected ++ (c.1.2.cur ++ c.1.2.todo.flatten)
    = message
  place : c.1.1.collected = [] ∧ c.1.2.cur = [] ∧ c.1.2.todo.length ≤ 1 ∨
    c.1.2.todo = [] ∧ c.1.1.lastTick = c.1.2.lastTick

section
variable {message : List U8} {l : Link} {h : Host} {t : List Obs} {ch : U8} {tick : U32}

/-- The byte goes behind the collected ones. -/
theorem Written.withByte_eq (hw : Written message ((l, h), t)) (hmessage : message.length ≤ 10)
    (hok : h.StopAndWait t (.isr ch tick)) :
    withByte l.lastTick l.collected ch tick = l.collected ++ [ch] := by
  obtain ⟨hnext, hguard⟩ := hok
  rcases hw.place with ⟨hcollected, -, -⟩ | ⟨htodo, hlast⟩
  · have hcollected : l.collected = [] := hcollected
    rw [hcollected, withByte_first]
    rfl
  · -- The host is inside the message: it has no other one to start.
    have hcur : h.cur ≠ [] := by
      intro hcur
      have htodo : h.todo = [] := htodo
      simp only [Host.next?, hcur, htodo] at hnext
      cases hnext
    rw [if_neg hcur] at hguard
    have hlast : l.lastTick = h.lastTick := hlast
    have hlen : l.collected.length ≤ message.length := by
      rw [← hw.bytes, List.length_append, List.length_append]
      exact Nat.le_add_right_of_le (Nat.le_add_left _ _)
    exact withByte_within ch (hlast ▸ hguard) (by show _ < 32; omega)

/-- The first accepted frame is the start of the message, so it is a raw one. -/
theorem Written.first_frame (hw : Written message ((l, h), t)) {start : U8}
    (hhead : message.head? = some start) (hstart : IsRawStart start) {g : List U8}
    {gs : List (List U8)} (hacc : accepted t = g :: gs) : g <+: message ∧ IsRawFrame g := by
  have hg : g <+: message := by
    refine ⟨gs.flatten ++ l.collected ++ (h.cur ++ h.todo.flatten), ?_⟩
    rw [← hw.bytes]
    show _ = (accepted t).flatten ++ l.collected ++ (h.cur ++ h.todo.flatten)
    rw [hacc, List.flatten_cons]
    simp only [List.append_assoc]
  have hgframe : IsBinaryFrame g ∨ IsRawFrame g := by
    refine hw.frames g ?_
    show g ∈ accepted t
    rw [hacc]
    exact List.mem_cons_self ..
  have hghead : g.head? = some start := by
    obtain ⟨behind, hbehind⟩ := hg
    rw [← List.head?_append_of_ne_nil g (ne_nil_of_isFrame hgframe), hbehind, hhead]
  refine ⟨hg, hgframe.resolve_left fun hbin => ne_char3_of_isRawStart hstart ?_⟩
  exact Option.some.inj (hghead.symm.trans hbin.1)

/-- The first accepted frame is the raw one the message starts with, and behind it the
message is too short for a binary frame with anything behind. -/
theorem Written.pipelineOk (hw : Written message ((l, h), t)) (hmessage : message.length ≤ 10)
    {start : U8} (hhead : message.head? = some start) (hstart : IsRawStart start)
    (hok : h.StopAndWait t (.isr ch tick)) : Link.PipelineOk (l, t) (.isr ch tick) := by
  intro frame hframe
  have hframe_eq := completes_eq hframe
  rw [hw.withByte_eq hmessage hok] at hframe_eq
  have hbytes : (accepted t).flatten ++ l.collected ++ (h.cur ++ h.todo.flatten) = message :=
    hw.bytes
  rw [Host.write_bytes hok.1 tick, ← List.singleton_append, ← List.append_assoc,
    List.append_assoc _ l.collected, ← hframe_eq] at hbytes
  -- What is accepted and the frame are part of the message.
  have hsum : (accepted t).flatten.length + frame.length ≤ 10 := by
    refine Nat.le_trans ?_ hmessage
    rw [← hbytes, List.length_append, List.length_append]
    exact Nat.le_add_right _ _
  obtain ⟨done, pend, hdelivering⟩ := hw.delivery
  have hqueue : l.queue.length ≤ (accepted t).flatten.length := hdelivering.length_queue_le
  refine ⟨by show _ ≤ 20; omega, by show l.queue.length + _ ≤ 511; omega, fun f hf hbin => ?_⟩
  have hf : f ∈ accepted t := List.mem_of_mem_drop hf
  have hflen : f.length = 8 := by
    rcases hw.frames f hf with hframe | hraw
    · exact hframe.2
    · exact absurd hbin hraw.head_ne
  -- The first accepted frame is another one: the message starts it, so it is raw.
  obtain ⟨g, gs, hacc⟩ := List.exists_cons_of_ne_nil (List.ne_nil_of_mem hf)
  have hgraw : IsRawFrame g := (hw.first_frame hhead hstart hacc).2
  have hftail : f ∈ gs := by
    rw [hacc] at hf
    rcases List.mem_cons.mp hf with rfl | hf
    · exact absurd hbin hgraw.head_ne
    · exact hf
  -- Two bytes and eight and one more: the message is not that long.
  have hglen := hgraw.length_pos
  have hgs : 8 ≤ gs.flatten.length := by
    rw [← hflen]
    exact List.Sublist.length_le (List.sublist_flatten_of_mem hftail)
  have hfpos : 0 < frame.length := by
    rw [hframe_eq]
    simp
  rw [hacc, List.flatten_cons, List.length_append] at hsum
  omega

end

/-- The task accepts nothing and leaves the interrupt alone. -/
theorem Link.taskStep_isr (l : Link) (env : TaskEnv) :
    accepted (l.taskStep env).2 = [] ∧ (l.taskStep env).1.collected = l.collected ∧
      (l.taskStep env).1.lastTick = l.lastTick := by
  unfold Link.taskStep
  cases l.pc with
  | dispatch i cmdBuf => exact ⟨accepted_handled _ _ _, rfl, rfl⟩
  | transmit rest => cases rest <;> exact ⟨rfl, rfl, rfl⟩
  | waitEvents | recvMsg | yield => exact ⟨rfl, rfl, rfl⟩

section
variable {message : List U8} {l : Link} {h : Host} {t : List Obs}

/-- A step of the task keeps what was written. -/
theorem Written.task (hw : Written message ((l, h), t)) (env : TaskEnv) :
    Written message (hostedLink.next ((l, h), t) (.task env)) := by
  have hdelivery := Link.deliveryInv_step (l, t) (.task env) hw.delivery trivial
  obtain ⟨hacc, hcollected, hlast⟩ := l.taskStep_isr env
  have hacc' : accepted (t ++ (l.taskStep env).2) = accepted t := by
    rw [accepted_append, hacc, List.append_nil]
  refine ⟨hdelivery, ?_, ?_, ?_⟩
  · show ∀ f ∈ accepted (t ++ (l.taskStep env).2), _
    rw [hacc']
    exact hw.frames
  · show (accepted (t ++ (l.taskStep env).2)).flatten ++ (l.taskStep env).1.collected ++ _
      = message
    rw [hacc', hcollected]
    exact hw.bytes
  · show (l.taskStep env).1.collected = [] ∧ _ ∨ _ ∧ (l.taskStep env).1.lastTick = _
    rw [hcollected, hlast]
    exact hw.place

/-- So does a byte of the message. -/
theorem Written.isr (hmessage : message.length ≤ 10) {start : U8}
    (hhead : message.head? = some start) (hstart : IsRawStart start)
    (hw : Written message ((l, h), t)) {ch : U8} {tick : U32}
    (hok : h.StopAndWait t (.isr ch tick)) :
    Written message (hostedLink.next ((l, h), t) (.isr ch tick)) := by
  have hpipeline := hw.pipelineOk hmessage hhead hstart hok
  have hdelivery := Link.deliveryInv_step (l, t) (.isr ch tick) hw.delivery hpipeline
  have hwith := hw.withByte_eq hmessage hok
  have hbytes : (accepted t).flatten ++ l.collected ++ (h.cur ++ h.todo.flatten)
      = message := hw.bytes
  rw [Host.write_bytes hok.1 tick, ← List.singleton_append, ← List.append_assoc,
    List.append_assoc _ l.collected] at hbytes
  have hplace : (h.write tick).todo = [] ∧ (h.write tick).lastTick = tick :=
    Host.write_place hok.1 (hw.place.imp (fun hp => hp.2) And.left) tick
  refine ⟨hdelivery, ?_, ?_, Or.inr ⟨hplace.1, ?_⟩⟩
  · -- A new frame is a binary or a raw one.
    show ∀ f ∈ accepted (t ++ (l.isrStep ch tick).2), _
    obtain ⟨done, pend, hdelivering⟩ := hw.delivery
    rcases l.isrStep_cases ch tick with ⟨-, hstep⟩ | ⟨frame, hframe, ⟨-, hstep⟩ | ⟨-, hstep⟩⟩
    · rw [hstep, List.append_nil]
      exact hw.frames
    · rw [hstep, accepted_append]
      intro f hf
      rcases List.mem_append.mp hf with hf | hf
      · exact hw.frames f hf
      · rw [List.mem_singleton.mp hf]
        exact Link.completes_isFrame hdelivering.collecting hframe
    · rw [hstep, List.append_nil]
      exact hw.frames
  · -- The byte moves from the host to the collected bytes, or with them to the accepted.
    show (accepted (t ++ (l.isrStep ch tick).2)).flatten ++ (l.isrStep ch tick).1.collected
      ++ ((h.write tick).cur ++ (h.write tick).todo.flatten) = message
    rcases l.isrStep_cases ch tick with
      ⟨-, hstep⟩ | ⟨frame, hframe, ⟨-, hstep⟩ | ⟨hover, -⟩⟩
    · rw [hstep, List.append_nil, hwith]
      exact hbytes
    · rw [hstep, accepted_append, List.flatten_append, List.append_nil,
        completes_eq hframe, hwith]
      simpa [accepted] using hbytes
    · exact absurd (hpipeline frame hframe).2.1 (Nat.not_le_of_lt hover)
  · show (l.isrStep ch tick).1.lastTick = (h.write tick).lastTick
    rw [hplace.2]
    rcases l.isrStep_cases ch tick with ⟨-, hstep⟩ | ⟨frame, -, ⟨-, hstep⟩ | ⟨-, hstep⟩⟩ <;>
      rw [hstep]

end

/-- A step keeps the bytes of the message together. -/
theorem written_step {message : List U8} (hmessage : message.length ≤ 10) {start : U8}
    (hhead : message.head? = some start) (hstart : IsRawStart start)
    (c : (Link × Host) × List Obs) (a : Act) (hw : Written message c) (hok : HostOk c a) :
    Written message (hostedLink.next c a) := by
  obtain ⟨⟨l, h⟩, t⟩ := c
  cases a with
  | task env => exact hw.task env
  | isr ch tick => exact Written.isr hmessage hhead hstart hw hok

/-- An idle device beside a host with one message. -/
theorem written_start {d : Dev} (h : Idle d) (message : List U8) :
    Written message ((d.toLink, Host.start [message]), []) where
  delivery := by
    refine ⟨[], [], Delivering.start h.collected_eq h.queue ?_ h.pc⟩
    show decide (d.kernel.sEventFlag &&& KernelEventFlag_CmdIn ≠ 0) = false
    rw [h.event]
    rfl
  frames := fun _ hf => by cases hf
  bytes := by
    show [] ++ d.isr.collected ++ ([] ++ [message].flatten) = message
    rw [h.collected_eq]
    simp
  place := Or.inl ⟨h.collected_eq, rfl, Nat.le_refl 1⟩

/-! ### The two directions -/

/-- Reports of different payloads differ when one payload stops at an end of line of the
other. -/
theorem padded_ne {p payload : List U8} {eol : U8} {size : Nat} (heol : IsEol eol)
    (hcut : p ++ [eol] <+: payload) (hlen : payload.length ≤ size) :
    padded size p ≠ padded size payload := by
  obtain ⟨rest, rfl⟩ := hcut
  intro heq
  have hp : p.length < size := by
    rw [List.length_append, List.length_append, List.length_singleton] at hlen
    omega
  -- The byte behind `p` is zero in one report and the end of line in the other.
  have hget : (padded size p)[p.length]? = some 0 := by
    rw [padded, List.getElem?_append_right (Nat.le_refl _), Nat.sub_self,
      List.getElem?_replicate, if_pos (by omega)]
  rw [heq, padded, List.append_assoc, List.append_assoc,
    List.getElem?_append_right (Nat.le_refl _), Nat.sub_self] at hget
  have hzero : eol = 0 := Option.some.inj hget
  subst hzero
  rcases heol with h | h <;> exact absurd h (by decide)

section
variable {d : Dev} {start : U8} {itf : HidIf} {size : Nat} {rptId : U8} {payload : List U8}

/-- A raw target begins a raw frame. -/
theorem isRawStart_of_rawTarget (htarget : rawTarget start = some (itf, size, rptId)) :
    IsRawStart start := by
  unfold rawTarget at htarget
  split at htarget
  · next h => exact Or.inl h
  · split at htarget
    · next h => exact Or.inr h
    · cases htarget

/-- Its report has at most eight bytes. -/
theorem size_le_of_rawTarget (htarget : rawTarget start = some (itf, size, rptId)) :
    size ≤ 8 := by
  unfold rawTarget at htarget
  split at htarget
  · cases htarget
    decide
  · split at htarget
    · cases htarget
      decide
    · cases htarget

/-- With an end of line in the payload the first command is cut there, so the first report
is another one. -/
theorem not_transparent (htarget : rawTarget start = some (itf, size, rptId))
    (hlen : payload.length ≤ size) {b : U8} (hb : b ∈ payload) (hbeol : IsEol b)
    {c : (Link × Host) × List Obs} (hw : Written (rawMessage start payload) c)
    (hanswers : Answers RawOutcome c.2) : ¬ Transparent itf size payload c.2 := by
  rintro ⟨hreports, -, -⟩
  obtain ⟨outs, houts, houtreports, -⟩ := hanswers
  obtain ⟨done, pend, hdelivering⟩ := hw.delivery
  have hdispatched : dispatched c.2 <+: (accepted c.2).map commandOf :=
    hdelivering.dispatched_isPrefix
  -- There is a report, so there is a first handler call, and it is the first frame's.
  cases hd : dispatched c.2 with
  | nil =>
      rw [hd] at houts
      cases houts
      rw [houtreports] at hreports
      cases hreports
  | cons call calls =>
      rw [hd] at houts hdispatched
      cases hacc : accepted c.2 with
      | nil =>
          rw [hacc] at hdispatched
          exact absurd (List.prefix_nil.mp hdispatched) (List.cons_ne_nil _ _)
      | cons g gs =>
          rw [hacc] at hdispatched
          have hcall : call = commandOf g := (List.cons_prefix_cons.mp hdispatched).1
          -- The first frame is a raw one from the start of the message.
          have hstart := isRawStart_of_rawTarget htarget
          obtain ⟨hg, hgraw⟩ := Written.first_frame hw rfl hstart hacc
          have hcmd := commandOf_raw hgraw
          obtain ⟨s, p, eol, rfl, -, hp, heol⟩ := hgraw.exists_eq
          obtain ⟨rfl, hpayload⟩ := List.cons_prefix_cons.mp hg
          have hcut : p ++ [eol] <+: payload := by
            rcases List.prefix_concat_iff.mp hpayload with heq | hcut
            · rw [(List.append_inj' heq rfl).1] at hp
              exact absurd hbeol (hp b hb)
            · exact hcut
          have hplen : p.length ≤ size := by
            have h := hcut.length_le
            rw [List.length_append, List.length_singleton] at h
            omega
          -- Its report is the first one.
          have hdrop : (s :: (p ++ [eol])).dropLast = s :: p := by
            rw [← List.cons_append, List.dropLast_concat]
          rw [hdrop] at hcmd
          cases houts with
          | cons hout _ =>
              have hfirst := (hout s p itf size rptId (hcall.trans hcmd) htarget hplen).1
              rw [houtreports, List.flatMap_cons, hfirst] at hreports
              have hsame := (List.cons.inj hreports).1
              exact padded_ne heol hcut hlen (ReportIn.mk.inj hsame).2.1

/-- Without an end of line in the payload the message is a well-formed frame. -/
theorem wellFormed_rawMessage (htarget : rawTarget start = some (itf, size, rptId))
    (hlen : payload.length ≤ size) (hpayload : ∀ b ∈ payload, ¬ IsEol b) :
    WellFormed (rawMessage start payload) := by
  refine Or.inr ⟨⟨start, payload, CHAR_CR, rfl, isRawStart_of_rawTarget htarget, hpayload,
    Or.inl rfl⟩, ?_⟩
  have hsize := size_le_of_rawTarget htarget
  show (payload ++ [CHAR_CR]).length + 1 ≤ 20
  rw [List.length_append, List.length_singleton]
  omega

/-- A message that is served as one frame. -/
theorem transparent_of_served (htarget : rawTarget start = some (itf, size, rptId))
    (hlen : payload.length ≤ size) (hraw : IsRawFrame (rawMessage start payload))
    {st : KvmState} {c : (Dev × Host) × List Obs}
    (hserved : Served st [rawMessage start payload] c) (hsent : 1 ≤ c.1.2.sent)
    (hanswers : Answers RawOutcome c.2) :
    Transparent itf size payload c.2 := by
  have hcmd : commandOf (rawMessage start payload) = (.rawkvm, start :: payload) := by
    rw [commandOf_raw hraw, rawMessage, ← List.cons_append, List.dropLast_concat]
  have hd : dispatched c.2 = [(.rawkvm, start :: payload)] := by
    rw [hserved.all, List.take_of_length_le hsent, List.map_singleton, hcmd]
  obtain ⟨outs, houts, hreports, hresponses⟩ := hanswers
  rw [hd] at houts
  cases houts with
  | cons hout hrest =>
      cases hrest
      obtain ⟨hreport, hresponse⟩ := hout start payload itf size rptId rfl htarget hlen
      refine ⟨?_, ?_, ?_⟩
      · rw [hreports, List.flatMap_singleton, hreport]
      · rw [hresponses, List.map_singleton, hresponse]
      · rw [hserved.answered.2, hresponses, List.map_singleton, hresponse]
        rfl

end

/-- The raw protocol carries a payload exactly if no byte of it ends a line. The message is
written to an idle device, in any order with the steps of the task and with short gaps.
All USB calls succeed, and the task has `answerSteps` steps in the end. -/
theorem raw_transparent_iff (d : Dev) (hidle : Idle d) (start : U8) (itf : HidIf) (size : Nat)
    (rptId : U8) (htarget : rawTarget start = some (itf, size, rptId)) (payload : List U8)
    (hlen : payload.length ≤ size) (acts : List Act)
    (hok : hosted.Meets HostOk ((d, Host.start [rawMessage start payload]), []) acts)
    (husb : ∀ a ∈ acts, InEnv UsbOk a)
    (hwritten : (hosted.exec ((d, Host.start [rawMessage start payload]), []) acts).1.2.todo
        = [] ∧
      (hosted.exec ((d, Host.start [rawMessage start payload]), []) acts).1.2.cur = [])
    (envs : List TaskEnv) (henvs : answerSteps ≤ envs.length)
    (husb' : ∀ env ∈ envs, UsbOk env) :
    Transparent itf size payload
        (hosted.exec (hosted.exec ((d, Host.start [rawMessage start payload]), []) acts)
          (envs.map .task)).2
      ↔ ∀ b ∈ payload, ¬ IsEol b := by
  have hsize := size_le_of_rawTarget htarget
  have hmessage : (rawMessage start payload).length ≤ 10 := by
    show (payload ++ [CHAR_CR]).length + 1 ≤ 10
    rw [List.length_append, List.length_singleton]
    omega
  -- The whole run, with the last steps of the task.
  have hok' : hosted.Meets HostOk ((d, Host.start [rawMessage start payload]), [])
      (acts ++ envs.map .task) := by
    refine (hosted.meets_append _ _ _ _).mpr ⟨hok, ?_⟩
    refine hosted.meets_mono (fun c a ha => ?_) ((hosted.meets_forall_iff _).mpr (isTask_tasks envs))
    cases a with
    | isr ch tick => exact ha.elim
    | task env => trivial
  have husb'' : ∀ a ∈ acts ++ envs.map .task, InEnv UsbOk a := by
    intro a ha
    rcases List.mem_append.mp ha with ha | ha
    · exact husb a ha
    · obtain ⟨env, henv, rfl⟩ := List.mem_map.mp ha
      exact husb' env henv
  rw [← hosted.exec_append]
  have hanswers := hosted_answers rawOutcome_handleCommandTail
    (d, Host.start [rawMessage start payload]) husb''
  constructor
  · -- With an end of line in the payload the first frame is shorter.
    intro htransparent b hb hbeol
    have hinv := hostedLink.invariant
      (written_step hmessage rfl (isRawStart_of_rawTarget htarget)) (written_start hidle _)
      ((hosted_meets _ _).mp hok')
    have hinv : Written (rawMessage start payload) (toHostedLink
        (hosted.exec ((d, Host.start [rawMessage start payload]), []) (acts ++ envs.map .task))) := by
      rw [← hosted_exec]
      exact hinv
    exact not_transparent htarget hlen hb hbeol hinv hanswers htransparent
  · -- Without one the message is a single frame, and it is served.
    intro hpayload
    have hwff := wellFormed_rawMessage htarget hlen hpayload
    have hraw : IsRawFrame (rawMessage start payload) := by
      refine (hwff.resolve_left fun hbin => ?_).1
      exact ne_char3_of_isRawStart (isRawStart_of_rawTarget htarget) (Option.some.inj hbin.1)
    have hwf : ∀ f ∈ [rawMessage start payload], WellFormed f := fun f hf => by
      rw [List.mem_singleton.mp hf]
      exact hwff
    have hinOrder := hosted_inOrder hidle hwf hok
    -- The host has no message left, so it has started this one.
    have hsent : 1 ≤ (hosted.exec ((d, Host.start [rawMessage start payload]), [])
        acts).1.2.sent := by
      have htodo := hinOrder.started
      rw [hwritten.1] at htodo
      exact List.drop_eq_nil_iff.mp htodo.symm
    have hend := hosted_served hidle hwf hok hwritten.2 henvs
    have hhost := host_tasks (hosted.exec ((d, Host.start [rawMessage start payload]), []) acts)
      envs
    rw [← hosted.exec_append] at hend hhost
    exact transparent_of_served htarget hlen hraw hend (by rw [hhost]; exact hsent) hanswers

/-- The keyboard report of the key K. -/
theorem raw_transparent_key_k :
    Transparent .hidKbIf 8 [0, 0, KEY_K]
        (hosted.exec (hosted.exec
          ((Dev.boot, Host.start [rawMessage CHAR_AT [0, 0, KEY_K]]), [])
          (received (rawMessage CHAR_AT [0, 0, KEY_K]) 0))
          ((List.replicate 34 TaskEnv.ok).map .task)).2
      ↔ ∀ b ∈ [0, 0, KEY_K], ¬ IsEol b := by
  have hbytes : ∀ a ∈ received (rawMessage CHAR_AT [0, 0, KEY_K]) 0, InEnv UsbOk a := by
    intro a ha
    obtain ⟨b, -, rfl⟩ := List.mem_map.mp ha
    trivial
  have hsteps : ∀ env ∈ List.replicate 34 TaskEnv.ok, UsbOk env := by
    intro env henv
    rw [List.eq_of_mem_replicate henv]
    exact fun _ => rfl
  exact raw_transparent_iff Dev.boot Idle.boot CHAR_AT .hidKbIf 8 1 rfl [0, 0, KEY_K] (by decide)
    (received (rawMessage CHAR_AT [0, 0, KEY_K]) 0) (by decide +kernel) hbytes
    (by decide +kernel) (List.replicate 34 TaskEnv.ok) (by decide) hsteps

/-- The keyboard report of the key G, whose code is a line feed. -/
theorem key_g_not_transparent :
    ¬ Transparent .hidKbIf 8 [0, 0, KEY_G]
        (hosted.exec (hosted.exec
          ((Dev.boot, Host.start [rawMessage CHAR_AT [0, 0, KEY_G]]), [])
          (received (rawMessage CHAR_AT [0, 0, KEY_G]) 0))
          ((List.replicate 34 TaskEnv.ok).map .task)).2 := by
  decide +kernel

end PikvmHid
