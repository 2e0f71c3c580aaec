import PikvmHid.Proofs.Serving

/-!
# `PikvmHid.Proofs.StopWait`: a host that waits for each response

A host that sends well-formed frames and keeps the discipline `StopAndWait` is served
frame by frame (`stop_and_wait`). Its bytes may fall anywhere among the steps of the
task. That the frames are handed over in their order is the invariant of
`PikvmHid.Proofs.Serving`.

The task comes closer to the response with each of its steps (`Pc.rank`), so a frame that
is written is answered after `answerSteps` more steps of the task.
-/

set_option autoImplicit false

namespace PikvmHid

open Lib

/-! ### Progress -/

/-- A bound on the task's steps until the frame under way is answered. -/
def Pc.rank : Pc → Nat
  | .transmit []         => 33
  | .yield               => 32
  | .waitEvents          => 31
  | .recvMsg i _         => 30 - i
  | .dispatch _ _        => 9
  | .transmit (_ :: rest) => rest.length + 1

/-- The task answers within as many steps. -/
abbrev answerSteps : Nat := 34

/-- An answer takes a bounded number of steps. -/
theorem rank_lt {pc : Pc} (hresponse : (toSend pc).length ≤ 8) : pc.rank < answerSteps := by
  match pc, hresponse with
  | .transmit [], _ | .yield, _ | .waitEvents, _ => decide
  | .dispatch _ _, _ => exact (by decide : 9 < answerSteps)
  | .recvMsg i _, _ => exact Nat.lt_of_le_of_lt (Nat.sub_le 30 i) (by decide)
  | .transmit (_ :: rest), hresponse => exact Nat.lt_of_le_of_lt hresponse (by decide)

/-- The response under way has at most eight bytes. -/
def ShortResponse (c : (Link × Host) × List Obs) : Prop := (toSend c.1.1.pc).length ≤ 8

/-- Every step keeps the response to eight bytes. -/
theorem shortResponse_step (c : (Link × Host) × List Obs) (a : Act) (h : ShortResponse c) :
    ShortResponse (hostedLink.next c a) := by
  obtain ⟨⟨l, host⟩, t⟩ := c
  cases a with
  | isr ch tick =>
      show (toSend (l.isrStep ch tick).1.pc).length ≤ 8
      rcases l.isrStep_cases ch tick with ⟨-, hstep⟩ | ⟨frame, -, ⟨-, hstep⟩ | ⟨-, hstep⟩⟩ <;>
        rw [hstep] <;> exact h
  | task env =>
      have h : (toSend l.pc).length ≤ 8 := h
      show (toSend (l.taskStep env).1.pc).length ≤ 8
      unfold Link.taskStep
      match hpc : l.pc with
      | .waitEvents => cases l.cmdIn <;> exact Nat.zero_le 8
      | .recvMsg i cmdBuf =>
          simp only [toSend_afterRecv]
          exact Nat.zero_le 8
      | .dispatch i cmdBuf => exact length_response_le env l.kvm cmdBuf i
      | .transmit [] => exact Nat.zero_le 8
      | .transmit (b :: rest) =>
          rw [hpc] at h
          exact Nat.le_trans (Nat.le_succ rest.length) h
      | .yield => exact Nat.zero_le 8

/-- All frames of the host are answered, and nothing is under way. -/
def Done (frames : List (List U8)) (c : (Link × Host) × List Obs) : Prop :=
  ServingInv frames c ∧ Quiet c.1.1 c.1.2 ∧ Between c.1.1.pc

/-- A label of the task. -/
def IsTask : Act → Prop
  | .isr _ _ => False
  | .task _  => True

/-- Steps of the task are such. -/
theorem isTask_tasks (envs : List TaskEnv) : ∀ a ∈ envs.map Act.task, IsTask a := by
  intro a ha
  obtain ⟨env, -, rfl⟩ := List.mem_map.mp ha
  trivial

/-- What is served stays served. -/
theorem done_step {frames : List (List U8)} (hwf : ∀ f ∈ frames, WellFormed f)
    (c : (Link × Host) × List Obs) (a : Act) (h : Done frames c) (htask : IsTask a) :
    Done frames (hostedLink.next c a) := by
  obtain ⟨⟨l, host⟩, t⟩ := c
  obtain ⟨hinv, hquiet, hbetween⟩ := h
  cases a with
  | isr ch tick => exact htask.elim
  | task env =>
      have hinv' := servingInv_step hwf _ (.task env) hinv trivial
      obtain ⟨-, ⟨pc, hpc, hstep⟩ | ⟨-, hstep⟩⟩ := between_step env hbetween
      · have hnext : (hostedLink.next ((l, host), t) (.task env)).1
            = ({ l with pc := pc }, host) := congrArg (·, host) hstep
        refine ⟨hinv', ?_⟩
        rw [hnext]
        exact ⟨⟨hquiet.collected, hquiet.queue, hquiet.flag, hquiet.cur⟩, hpc⟩
      · have hnext : (hostedLink.next ((l, host), t) (.task env)).1
            = ({ l with cmdIn := false, pc := .yield }, host) := by
          have hflag : l.cmdIn = false := hquiet.flag
          rw [hflag] at hstep
          exact congrArg (·, host) hstep
        refine ⟨hinv', ?_⟩
        rw [hnext]
        exact ⟨⟨hquiet.collected, hquiet.queue, rfl, hquiet.cur⟩, trivial⟩

/-- With the frame written, a step of the task comes closer to the response. -/
theorem phase_closer {l : Link} {h : Host} {f : List U8} (hwff : WellFormed f)
    (hphase : Phase l h f) (hcur : h.cur = []) (env : TaskEnv) :
    Quiet (l.taskStep env).1 h ∧ Between (l.taskStep env).1.pc ∨
      (l.taskStep env).1.pc.rank < l.pc.rank := by
  cases hphase with
  | writing _ hmore => exact absurd hcur hmore
  | queued _ _ _ hflag hbetween =>
      right
      unfold Link.taskStep
      match l.pc, hbetween with
      | .waitEvents, _ =>
          rw [hflag]
          show 30 - 0 < 31
          decide
      | .yield, _ => exact (by decide : 31 < 32)
      | .transmit [], _ => exact (by decide : 32 < 33)
  | reading hcollected _ hflag i cmdBuf hpc hraw hreading =>
      right
      obtain ⟨-, cmdBuf', hafter⟩ := reading_step hwff hcollected hcur hflag hraw hreading
      have hi : i ≤ 20 := Nat.le_trans hreading.le hwff.length_le
      unfold Link.taskStep
      rw [hpc]
      rcases hafter with hafter | hafter <;> simp only [hafter]
      · show 30 - (i + 1) < 30 - i
        omega
      · show 9 < 30 - i
        omega
  | inHand hquiet i cmdBuf hpc =>
      obtain ⟨hcollected, hqueue, hflag, -⟩ := hquiet
      have hshort := length_response_le env l.kvm cmdBuf i
      unfold Link.taskStep
      rw [hpc]
      -- A response without a byte would end here; any other one has at most eight.
      cases hresponse : (handleCommandTail env l.kvm cmdBuf i).response with
      | nil =>
          left
          refine ⟨⟨hcollected, hqueue, hflag, hcur⟩, ?_⟩
          simp only [hresponse]
          trivial
      | cons b rest =>
          right
          rw [hresponse] at hshort
          simp only [hresponse]
          exact Nat.lt_of_le_of_lt hshort (by decide : 8 < 9)

/-- With nothing under way, a step of the task sends a byte of the last response. -/
theorem quiet_closer {l : Link} {h : Host} (hquiet : Quiet l h) (hanswering : Answering l.pc)
    (hbusy : ¬ Between l.pc) (env : TaskEnv) :
    Quiet (l.taskStep env).1 h ∧ Between (l.taskStep env).1.pc ∨
      (l.taskStep env).1.pc.rank < l.pc.rank := by
  obtain ⟨hcollected, hqueue, hflag, hcur⟩ := hquiet
  unfold Link.taskStep
  match l.pc, hanswering, hbusy with
  | .waitEvents, _, hbusy | .yield, _, hbusy | .transmit [], _, hbusy =>
      exact absurd trivial hbusy
  | .transmit [b], _, _ => exact Or.inl ⟨⟨hcollected, hqueue, hflag, hcur⟩, trivial⟩
  | .transmit (b :: r :: rest), _, _ => exact Or.inr (Nat.lt_succ_self (rest.length + 1))

/-- With no frame left to write, a step of the task gets to the end or comes closer. -/
theorem progress_step {frames : List (List U8)} (hwf : ∀ f ∈ frames, WellFormed f)
    (c : (Link × Host) × List Obs) (a : Act) (h : ServingInv frames c ∧ c.1.2.cur = [])
    (htask : IsTask a) (hdone : ¬ Done frames c) :
    Done frames (hostedLink.next c a) ∨
      (ServingInv frames (hostedLink.next c a) ∧ (hostedLink.next c a).1.2.cur = []) ∧
        (hostedLink.next c a).1.1.pc.rank < c.1.1.pc.rank := by
  obtain ⟨⟨l, host⟩, t⟩ := c
  obtain ⟨hinv, hcur⟩ := h
  cases a with
  | isr ch tick => exact htask.elim
  | task env =>
      have hinv' := servingInv_step hwf _ (.task env) hinv trivial
      -- With nothing under way a byte of the response goes out, and otherwise the frame
      -- gets to its next phase.
      have hcloser : Quiet (l.taskStep env).1 host ∧ Between (l.taskStep env).1.pc ∨
          (l.taskStep env).1.pc.rank < l.pc.rank := by
        rcases hinv.serving with ⟨hquiet, hanswering, -⟩ | ⟨n, f, -, hf, -, hphase⟩
        · exact quiet_closer hquiet hanswering (fun hb => hdone ⟨hinv, hquiet, hb⟩) env
        · exact phase_closer (hwf f (List.mem_of_getElem? hf)) hphase hcur env
      rcases hcloser with hend | hlt
      · exact Or.inl ⟨hinv', hend⟩
      · exact Or.inr ⟨⟨hinv', hcur⟩, hlt⟩

/-! ### The device -/

/-- The frames of the host are handed over in their order, to the handlers their first
bytes select. Each has one response, which is not empty and is what the handler leaves, and the
queue is empty when it starts. The run started in the state `st`. -/
structure InOrder (st : KvmState) (frames : List (List U8)) (c : (Dev × Host) × List Obs) :
    Prop where
  started : c.1.2.todo = frames.drop c.1.2.sent
  handed : dispatched c.2 <+: frames.map commandOf
  handlers : ByHandlers st c.1.1.kvm c.2
  oneResponse : (responses c.2).length = (dispatched c.2).length
  replies : ∀ r ∈ responses c.2, r ≠ []
  sent : transmitted c.2 <+: (responses c.2).flatten
  queue_dispatch : ∀ i cmdBuf, c.1.1.pc = .dispatch i cmdBuf →
    c.1.1.kernel.contents KernelMsgQ_DebugCmd = []
  queue_transmit : ∀ b rest, c.1.1.pc = .transmit (b :: rest) →
    c.1.1.kernel.contents KernelMsgQ_DebugCmd = []

/-- Besides, every frame that the host has started is handed over and answered, and the bytes of
the responses are out. -/
structure Served (st : KvmState) (frames : List (List U8)) (c : (Dev × Host) × List Obs) : Prop
    extends InOrder st frames c where
  all : dispatched c.2 = (frames.take c.1.2.sent).map commandOf
  answered : c.1.2.Answered c.2

/-- An idle device beside a host at its start. -/
theorem servingInv_start {d : Dev} (h : Idle d) (frames : List (List U8)) :
    ServingInv frames ((d.toLink, Host.start frames), []) := by
  have hbetween : Between d.pc := by
    rcases h.pc with hpc | hpc <;> rw [hpc] <;> trivial
  have hanswering : Answering d.pc := by
    rcases h.pc with hpc | hpc <;> rw [hpc] <;> trivial
  refine ⟨rfl, Nat.zero_le _, ?_, ⟨[], .nil, rfl, rfl⟩,
    Or.inl ⟨⟨h.collected_eq, h.queue, ?_, rfl⟩, hanswering, ?_⟩⟩
  · exact hbetween.toSend_eq.symm
  · show decide (d.kernel.sEventFlag &&& KernelEventFlag_CmdIn ≠ 0) = false
    rw [h.event]
    rfl
  · rfl

/-- The image of a configuration of the hosted device. -/
def toHostedLink (c : (Dev × Host) × List Obs) : (Link × Host) × List Obs :=
  ((c.1.1.toLink, c.1.2), c.2)

/-- The hosted device and the hosted link make the same observations. -/
theorem hosted_exec (c : (Dev × Host) × List Obs) (acts : List Act) :
    hostedLink.exec (toHostedLink c) acts = toHostedLink (hosted.exec c acts) :=
  (device_simulates_link.withParty Host.follow).exec_map c acts

/-- The condition on the run is the same on the kernel's state and on the link's. -/
theorem hosted_meets (c : (Dev × Host) × List Obs) (acts : List Act) :
    hosted.Meets HostOk c acts ↔ hostedLink.Meets HostOk (toHostedLink c) acts :=
  (device_simulates_link.withParty Host.follow).meets_map HostOk c acts

/-- The host stays where it is while only the task takes steps. -/
theorem host_tasks (c : (Dev × Host) × List Obs) (envs : List TaskEnv) :
    (hosted.exec c (envs.map .task)).1.2 = c.1.2 := by
  induction envs generalizing c with
  | nil => rfl
  | cons env envs ih => exact ih (hosted.next c (.task env))

/-- What is known of every handler call is known along a run of the hosted device. -/
theorem hosted_answers {E : TaskEnv → Prop} {R : Handler × List U8 → HandlerOut → Prop}
    (hR : ∀ env st cmdBuf i, E env →
      R (handlerOf cmdBuf, cmdBuf.bytes i) (handleCommandTail env st cmdBuf i))
    (s : Dev × Host) {acts : List Act} (hE : ∀ a ∈ acts, InEnv E a) :
    Answers R (hosted.exec (s, []) acts).2 := by
  have h := hostedLink.invariant (I := fun c => Answers R c.2) (c := toHostedLink (s, []))
    (fun c a h ha => answers_step hR (c.1.1, c.2) a h ha) ⟨[], .nil, rfl, rfl⟩
    ((hostedLink.meets_forall_iff (toHostedLink (s, []))).mpr hE)
  rw [hosted_exec] at h
  exact h

/-- Along a run of the hosted device the outcomes are those of the handlers. -/
theorem hosted_byHandlers (d : Dev) (host : Host) (acts : List Act) :
    ByHandlers d.kvm (hosted.exec ((d, host), []) acts).1.1.kvm
      (hosted.exec ((d, host), []) acts).2 := by
  have h := hostedLink.invariant_all (I := fun c => ByHandlers d.kvm c.1.1.kvm c.2)
    (c := toHostedLink ((d, host), [])) (fun c a h => byHandlers_step (c.1.1, c.2) a h)
    ⟨[], .nil, rfl, rfl⟩ acts
  rw [hosted_exec] at h
  exact h

/-- The frames are served in order. -/
theorem ServingInv.inOrder {st : KvmState} {frames : List (List U8)}
    {c : (Dev × Host) × List Obs} (h : ServingInv frames (toHostedLink c))
    (hby : ByHandlers st c.1.1.kvm c.2) : InOrder st frames c := by
  obtain ⟨⟨d, host⟩, t⟩ := c
  have hserving : Serving frames d.toLink host t := h.serving
  refine ⟨h.todo, ?_, hby, hby.length_responses, hby.replies,
    h.transmitting.isPrefix, ?_, ?_⟩
  · show dispatched t <+: frames.map commandOf
    rcases hserving with ⟨-, -, hd⟩ | ⟨n, f, -, -, hd, -⟩ <;> rw [hd]
    · exact (List.take_prefix _ frames).map commandOf
    · exact (List.take_prefix _ frames).map commandOf
  · intro i cmdBuf hpc
    have hpc : d.toLink.pc = .dispatch i cmdBuf := hpc
    rcases hserving with ⟨-, hanswering, -⟩ | ⟨n, f, -, -, -, hphase⟩
    · rw [hpc] at hanswering
      exact hanswering.elim
    · -- Only in hand is a command dispatched.
      cases hphase with
      | writing _ _ _ _ _ hb | queued _ _ _ _ hb =>
          rw [hpc] at hb
          exact hb.elim
      | reading _ _ _ _ _ hpc' =>
          rw [hpc] at hpc'
          cases hpc'
      | inHand hquiet => exact hquiet.queue
  · intro b rest hpc
    have hpc : d.toLink.pc = .transmit (b :: rest) := hpc
    rcases hserving with ⟨hquiet, -, -⟩ | ⟨n, f, -, -, -, hphase⟩
    · exact hquiet.queue
    · cases hphase with
      | writing _ _ _ _ _ hb | queued _ _ _ _ hb =>
          rw [hpc] at hb
          exact hb.elim
      | reading _ _ _ _ _ hpc' | inHand _ _ _ hpc' =>
          rw [hpc] at hpc'
          cases hpc'

/-- And served to the end. -/
theorem Done.served {st : KvmState} {frames : List (List U8)} {c : (Dev × Host) × List Obs}
    (h : Done frames (toHostedLink c)) (hby : ByHandlers st c.1.1.kvm c.2) :
    Served st frames c := by
  have hinOrder := h.1.inOrder hby
  obtain ⟨⟨d, host⟩, t⟩ := c
  obtain ⟨hinv, hquiet, hbetween⟩ := h
  have hd : dispatched t = (frames.take host.sent).map commandOf := by
    rcases hinv.serving with ⟨-, -, hd⟩ | ⟨n, f, -, -, -, hphase⟩
    · exact hd
    · -- No frame is in a phase: nothing is under way.
      cases hphase with
      | writing _ hmore => exact absurd hquiet.cur hmore
      | queued _ _ _ hflag => exact absurd (hquiet.flag.symm.trans hflag) (by decide)
      | reading _ _ _ _ _ hpc | inHand _ _ _ hpc =>
          rw [hpc] at hbetween
          exact hbetween.elim
  refine ⟨hinOrder, hd, ?_, ?_⟩
  · have hlen : (responses t).length = (dispatched t).length := hinv.length_responses
    have hsent : host.sent ≤ frames.length := hinv.sent_le
    show (responses t).length = host.sent
    rw [hlen, hd, List.length_map, List.length_take, Nat.min_eq_left hsent]
  · have htransmitting : (responses t).flatten = transmitted t ++ toSend d.toLink.pc :=
      hinv.transmitting
    have hsend : toSend d.toLink.pc = [] := hbetween.toSend_eq
    show transmitted t = (responses t).flatten
    rw [htransmitting, hsend, List.append_nil]

section
variable {d : Dev} {frames : List (List U8)} {acts : List Act}

/-- The invariant at the end of a run from an idle device. -/
theorem hosted_serving (hidle : Idle d) (hwf : ∀ f ∈ frames, WellFormed f)
    (hok : hosted.Meets HostOk ((d, Host.start frames), []) acts) :
    ServingInv frames (toHostedLink (hosted.exec ((d, Host.start frames), []) acts)) := by
  rw [← hosted_exec]
  exact hostedLink.invariant (servingInv_step hwf) (servingInv_start hidle frames)
    ((hosted_meets _ acts).mp hok)

/-- In every run of a host that waits for its answers. -/
theorem hosted_inOrder (hidle : Idle d) (hwf : ∀ f ∈ frames, WellFormed f)
    (hok : hosted.Meets HostOk ((d, Host.start frames), []) acts) :
    InOrder d.kvm frames (hosted.exec ((d, Host.start frames), []) acts) :=
  (hosted_serving hidle hwf hok).inOrder (hosted_byHandlers d (Host.start frames) acts)

/-- With the started frames written, the task answers within `answerSteps` steps. -/
theorem hosted_served (hidle : Idle d) (hwf : ∀ f ∈ frames, WellFormed f)
    (hok : hosted.Meets HostOk ((d, Host.start frames), []) acts)
    (hcur : (hosted.exec ((d, Host.start frames), []) acts).1.2.cur = []) {envs : List TaskEnv}
    (henvs : answerSteps ≤ envs.length) :
    Served d.kvm frames (hosted.exec (hosted.exec ((d, Host.start frames), []) acts)
      (envs.map .task)) := by
  -- A response has eight bytes at most, which bounds the steps still to come.
  have hshort : ShortResponse (toHostedLink (hosted.exec ((d, Host.start frames), []) acts)) := by
    rw [← hosted_exec]
    refine hostedLink.invariant_all shortResponse_step ?_ acts
    have hsend : toSend d.pc = [] := by
      rcases hidle.pc with hpc | hpc <;> rw [hpc] <;> rfl
    show (toSend d.pc).length ≤ 8
    rw [hsend]
    exact Nat.zero_le 8
  have htasks := (hostedLink.meets_forall_iff
    (toHostedLink (hosted.exec ((d, Host.start frames), []) acts))).mpr (isTask_tasks envs)
  have hdone := hostedLink.reaches (fun s => s.1.pc.rank) (progress_step hwf) (done_step hwf)
    htasks (Or.inr ⟨hosted_serving hidle hwf hok, hcur⟩)
    (by rw [List.length_map]; exact Nat.lt_of_lt_of_le (rank_lt hshort) henvs)
  rw [hosted_exec] at hdone
  have hby := hosted_byHandlers d (Host.start frames) (acts ++ envs.map .task)
  rw [hosted.exec_append] at hby
  exact hdone.served hby

end

/-- An idle device serves a host that sends well-formed frames and waits for each response.
In every run the frames are handed over in their order, each to the handler its first byte
selects, and each has one response, the one of that handler, which is not empty. When the host
has written the frames it started, and the task takes `answerSteps` more steps, all of
them are answered. -/
theorem stop_and_wait (d : Dev) (hidle : Idle d) (frames : List (List U8))
    (hwf : ∀ f ∈ frames, WellFormed f) (acts : List Act)
    (hok : hosted.Meets HostOk ((d, Host.start frames), []) acts) :
    InOrder d.kvm frames (hosted.exec ((d, Host.start frames), []) acts) ∧
    ((hosted.exec ((d, Host.start frames), []) acts).1.2.cur = [] →
      ∀ envs : List TaskEnv, answerSteps ≤ envs.length →
        Served d.kvm frames (hosted.exec (hosted.exec ((d, Host.start frames), []) acts)
          (envs.map .task))) :=
  ⟨hosted_inOrder hidle hwf hok, fun hcur _ henvs => hosted_served hidle hwf hok hcur henvs⟩

/-- A ping across a wrap of the tick count, and a raw frame that contains a `'3'`. -/
theorem stop_and_wait_two_frames :
    Served .boot [pingFrame, [CHAR_AT, CHAR_3, CHAR_CR]]
      (hosted.exec (hosted.exec
        ((Dev.boot, Host.start [pingFrame, [CHAR_AT, CHAR_3, CHAR_CR]]), [])
        (received (pingFrame.take 3) 0xFFFFFFF0 ++ taskSteps 3 .ok
          ++ received (pingFrame.drop 3) 0x10 ++ taskSteps 34 .ok
          ++ received [CHAR_AT, CHAR_3, CHAR_CR] 0x9000))
        ((List.replicate 34 TaskEnv.ok).map .task)) := by
  have hwf : ∀ f ∈ [pingFrame, [CHAR_AT, CHAR_3, CHAR_CR]], WellFormed f := by
    intro f hf
    rcases List.mem_cons.mp hf with rfl | hf
    · exact Or.inl (by decide +kernel)
    · rw [List.mem_singleton.mp hf]
      exact Or.inr ⟨⟨CHAR_AT, [CHAR_3], CHAR_CR, rfl, Or.inl rfl, by decide, Or.inl rfl⟩,
        by decide⟩
  exact (stop_and_wait Dev.boot Idle.boot _ hwf _ (by decide +kernel)).2 (by decide +kernel)
    _ (by decide)

end PikvmHid
