import Mathlib.Data.List.GetD
import PikvmHid.Proofs.Crc
import PikvmHid.Proofs.Queues
import PikvmHid.Spec.StaleBytes

/-!
# `PikvmHid.Proofs.StaleBytes`: where the stack shows

From its second byte on, the reader looks at bytes it has stored: `loop_result` gives the
bytes it takes without the stack. Its first test reads `cmd_buf[0]` before, so an end of line
in front of the queue ends the command or not. And the checksum of a command with fewer than
seven bytes is read from the stack behind it. `stale_independent_iff` says that these are the
only two.
-/

set_option autoImplicit false

namespace PikvmHid

open Lib Lib.Machine

/-! ### Buffers -/

/-- A byte stored behind a list extends it. -/
theorem Buffer.ofList_set (l : List U8) (rest : Buffer) (x : U8) :
    (Buffer.ofList l rest).set l.length x = Buffer.ofList (l ++ [x]) rest := by
  funext i
  rcases Nat.lt_trichotomy i l.length with hlt | heq | hgt
  · rw [Buffer.set_of_ne _ (Nat.ne_of_lt hlt), Buffer.ofList_apply l rest hlt,
      Buffer.ofList_apply _ rest (by simp; omega), List.getElem_append_left hlt]
  · subst heq
    rw [Buffer.set_self, Buffer.ofList_apply _ rest (by simp), List.getElem_concat_length rfl]
  · rw [Buffer.set_of_ne _ (Nat.ne_of_gt hgt), Buffer.ofList, Buffer.ofList,
      List.getD_eq_default _ _ (Nat.le_of_lt hgt), List.getD_eq_default _ _ (by simp; omega)]

/-- Behind the list the buffer is the rest, and before its end the rest does not show. -/
theorem Buffer.ofList_congr (l : List U8) (rest rest' : Buffer) {i : Nat} (h : i < l.length) :
    Buffer.ofList l rest i = Buffer.ofList l rest' i := by
  rw [Buffer.ofList_apply l rest h, Buffer.ofList_apply l rest' h]

/-! ### The call and the task -/

/-- Where a round of the reader leads. -/
theorem afterRecv_cases (i : Nat) (cmdBuf : Buffer) (ch : Option U8) :
    (∃ cmdBuf', afterRecv i cmdBuf ch = .dispatch i cmdBuf') ∨
      (∃ cmdBuf', afterRecv i cmdBuf ch = .recvMsg (i + 1) cmdBuf' ∧ i + 1 < MAX_CMD_LEN) ∨
      afterRecv i cmdBuf ch = .yield := by
  cases ch with
  | none => exact Or.inl ⟨_, rfl⟩
  | some b =>
      rw [afterRecv]
      split
      · exact Or.inl ⟨_, rfl⟩
      · split
        · next hroom => exact Or.inr (Or.inl ⟨_, rfl, hroom⟩)
        · exact Or.inr (Or.inr rfl)

/-- The steps of the task through the loop, with no interrupt in between. -/
theorem taskSteps_loop (env : TaskEnv) (n : Nat) :
    ∀ (d : Dev) (t : List Obs) (i : Nat) (cmdBuf : Buffer), i < MAX_CMD_LEN →
      i + n = MAX_CMD_LEN → d.pc = .recvMsg i cmdBuf →
      ∃ m, device.exec (d, t) (taskSteps m env)
        = ({ d with
            kernel := (handleCommand.loop n d.kernel i cmdBuf).1
            pc := (handleCommand.loop n d.kernel i cmdBuf).2.elim .yield
              fun r => .dispatch r.1 r.2 }, t) := by
  induction n with
  | zero => exact fun _ _ _ _ hlt hi => absurd hi (Nat.ne_of_lt hlt)
  | succ n ih =>
      intro d t i cmdBuf _ hi hpc
      let r := kernelRecvMsg d.kernel KernelMsgQ_DebugCmd 1
      have hstep : ∀ pc, afterRecv i cmdBuf r.1.head? = pc →
          device.next (d, t) (.task env) = ({ d with kernel := r.2, pc := pc }, t) := by
        rintro _ rfl
        simp only [next, device, Dev.step, cliTaskStep, hpc, List.append_nil]
        rfl
      -- The queue is empty or the command is complete, more bytes fit, or the buffer is full.
      rcases afterRecv_cases i cmdBuf r.1.head? with ⟨_, h⟩ | ⟨_, h, hlt⟩ | h
      · refine ⟨1, ?_⟩
        simp only [taskSteps, List.replicate_one, exec_cons, exec_nil, hstep _ h,
          handleCommand.loop, show afterRecv i cmdBuf
            (kernelRecvMsg d.kernel KernelMsgQ_DebugCmd 1).1.head? = _ from h]
        rfl
      · obtain ⟨m, hm⟩ := ih { d with kernel := r.2, pc := _ } t (i + 1) _ hlt (by omega) rfl
        refine ⟨m + 1, ?_⟩
        rw [taskSteps, List.replicate_succ, exec_cons, hstep _ h]
        simp only [handleCommand.loop, show afterRecv i cmdBuf
            (kernelRecvMsg d.kernel KernelMsgQ_DebugCmd 1).1.head? = _ from h]
        exact hm
      · refine ⟨1, ?_⟩
        simp only [taskSteps, List.replicate_one, exec_cons, exec_nil, hstep _ h,
          handleCommand.loop, show afterRecv i cmdBuf
            (kernelRecvMsg d.kernel KernelMsgQ_DebugCmd 1).1.head? = _ from h]
        rfl

/-- The call is what the task does from `Kernel_wait_events` to the start of the response, if
no interrupt comes in between. -/
theorem handleCommand_taskSteps (env : TaskEnv) (d : Dev) (hpc : d.pc = .recvMsg 0 env.cmdBuf) :
    let out := handleCommand env d.kernel d.kvm
    ∃ m t, device.exec (d, []) (taskSteps m env)
        = ({ d with
            kernel := out.kernel
            kvm := out.state
            pc := if out.called = none then .yield else .transmit out.response }, t) ∧
      (dispatched t).map (fun c => (c.1, c.2.length)) = out.called.toList ∧
      reportIns t = out.reportIns ∧
      responses t = if out.called = none then [] else [out.response] := by
  intro out
  obtain ⟨m, hm⟩ := taskSteps_loop env MAX_CMD_LEN d [] 0 env.cmdBuf (by decide) rfl hpc
  cases hr : (handleCommand.loop MAX_CMD_LEN d.kernel 0 env.cmdBuf).2 with
  | none =>
      have hout : out = ⟨(handleCommand.loop MAX_CMD_LEN d.kernel 0 env.cmdBuf).1, none, d.kvm,
          [], []⟩ := by
        simp only [out, handleCommand, hr]
      rw [hr] at hm
      rw [hout]
      exact ⟨m, [], hm, rfl, rfl, rfl⟩
  | some r =>
      obtain ⟨i, cmdBuf⟩ := r
      have hout : out = ⟨(handleCommand.loop MAX_CMD_LEN d.kernel 0 env.cmdBuf).1,
          some (handlerOf cmdBuf, i), (handleCommandTail env d.kvm cmdBuf i).state,
          (handleCommandTail env d.kvm cmdBuf i).reportIns,
          (handleCommandTail env d.kvm cmdBuf i).response⟩ := by
        simp only [out, handleCommand, hr]
      rw [hr] at hm
      rw [hout]
      -- One more step calls the handler.
      refine ⟨m + 1, handled (handlerOf cmdBuf) (cmdBuf.bytes i)
        (handleCommandTail env d.kvm cmdBuf i), ?_, ?_, ?_, ?_⟩
      · rw [taskSteps, List.replicate_succ', exec_append,
          show device.exec (d, []) (List.replicate m (.task env)) = _ from hm]
        rfl
      · simp
      · simp
      · simp

/-! ### The reader -/

section
variable {k k' : Kernel} {b : U8} (pre : List U8) (stale : Buffer) (n : Nat)

/-- A round on an empty queue ends the command. -/
theorem loop_round_empty (hrecv : kernelRecvMsg k KernelMsgQ_DebugCmd 1 = ([], k)) :
    handleCommand.loop (n + 1) k pre.length (.ofList pre stale)
      = (k, some (pre.length, .ofList (pre ++ [0]) stale)) := by
  simp only [handleCommand.loop, hrecv, List.head?_nil, afterRecv, Buffer.ofList_set]

/-- So does an end of line, unless the buffer starts with `MAGIC`. -/
theorem loop_round_eol (hrecv : kernelRecvMsg k KernelMsgQ_DebugCmd 1 = ([b], k'))
    (heol : Buffer.ofList pre stale 0 ≠ MAGIC ∧ IsEol b) :
    handleCommand.loop (n + 1) k pre.length (.ofList pre stale)
      = (k', some (pre.length, .ofList (pre ++ [0]) stale)) := by
  simp only [handleCommand.loop, hrecv, List.head?_cons, afterRecv, if_pos heol,
    Buffer.ofList_set]

/-- Any other byte is stored, if there is room for one more. -/
theorem loop_round_store (hrecv : kernelRecvMsg k KernelMsgQ_DebugCmd 1 = ([b], k'))
    (hstore : ¬ (Buffer.ofList pre stale 0 ≠ MAGIC ∧ IsEol b)) :
    handleCommand.loop (n + 1) k pre.length (.ofList pre stale)
      = if pre.length + 1 < MAX_CMD_LEN then
          handleCommand.loop n k' (pre ++ [b]).length (.ofList (pre ++ [b]) stale)
        else (k', none) := by
  simp only [handleCommand.loop, hrecv, List.head?_cons, afterRecv, if_neg hstore,
    Buffer.ofList_set, List.length_append, List.length_singleton]
  by_cases hroom : pre.length + 1 < MAX_CMD_LEN
  · simp only [if_pos hroom]
  · simp only [if_neg hroom]

end

/-- The reader behind its first byte: it takes the same bytes, or gives up, whatever the
stack holds. A command that starts with `MAGIC` is all that is queued. -/
theorem loop_result (n : Nat) :
    ∀ (k : Kernel) (x : U8) (pre : List U8), (x :: pre).length + n = MAX_CMD_LEN →
      ∃ k' r, (∀ stale, handleCommand.loop n k (x :: pre).length (.ofList (x :: pre) stale)
          = (k', r.map fun l => (l.length, .ofList (l ++ [0]) stale))) ∧
        (∀ l ∈ r, (x :: pre) <+: l) ∧
        (x = MAGIC → r =
          if (x :: pre ++ k.contents KernelMsgQ_DebugCmd).length < MAX_CMD_LEN then
            some (x :: pre ++ k.contents KernelMsgQ_DebugCmd) else none) := by
  induction n with
  | zero =>
      intro k x pre hlen
      refine ⟨k, none, fun _ => rfl, nofun, fun _ => ?_⟩
      rw [if_neg (by rw [List.length_append]; omega)]
  | succ n ih =>
      intro k x pre hlen
      have hrecv := kernelRecvMsg_one k (by decide : KernelMsgQ_DebugCmd < KernelMsgQ_Num)
      cases hc : k.contents KernelMsgQ_DebugCmd with
      | nil =>
          rw [hc] at hrecv
          refine ⟨k, some (x :: pre), fun stale => loop_round_empty _ stale n hrecv, ?_, ?_⟩
          · rintro l ⟨rfl⟩
            exact List.prefix_refl _
          · intro _
            rw [List.append_nil, if_pos (by omega)]
      | cons b rest =>
          rw [hc] at hrecv
          obtain ⟨k', hk', hrest, -⟩ := hrecv
          by_cases heol : x ≠ MAGIC ∧ IsEol b
          · refine ⟨k', some (x :: pre), fun stale => loop_round_eol _ stale n hk' heol, ?_,
              fun hx => absurd hx heol.1⟩
            rintro l ⟨rfl⟩
            exact List.prefix_refl _
          · by_cases hroom : (x :: pre).length + 1 < MAX_CMD_LEN
            · -- The byte is stored, and the induction hypothesis is about the others.
              obtain ⟨k'', r, hrun, hstart, hmagic⟩ := ih k' x (pre ++ [b]) (by
                rw [← List.cons_append, List.length_append, List.length_singleton]
                omega)
              refine ⟨k'', r, fun stale => ?_, fun l hl => ?_, fun hx => ?_⟩
              · rw [loop_round_store (x :: pre) stale n hk' heol, if_pos hroom]
                exact hrun stale
              · exact (List.prefix_append (x :: pre) [b]).trans (hstart l hl)
              · rw [hmagic hx, hrest, ← List.cons_append, List.append_assoc]
                rfl
            · refine ⟨k', none, fun stale => ?_, nofun, fun _ => ?_⟩
              · rw [loop_round_store (x :: pre) stale n hk' heol, if_neg hroom]
                rfl
              · rw [if_neg (by simp only [List.length_append, List.length_cons] at hroom ⊢; omega)]

/-- The reader on a queue that starts with no end of line: the bytes it takes, or that it
gives up, whatever the stack holds. -/
theorem loop_start (k : Kernel)
    (hhead : ∀ ch ∈ (k.contents KernelMsgQ_DebugCmd).head?, ¬ IsEol ch) :
    ∃ k' r, (∀ stale, handleCommand.loop MAX_CMD_LEN k 0 stale
        = (k', r.map fun l => (l.length, .ofList (l ++ [0]) stale))) ∧
      (∀ l ∈ r, l.head? = some MAGIC →
        l = k.contents KernelMsgQ_DebugCmd) ∧
      ((k.contents KernelMsgQ_DebugCmd).head? = some MAGIC →
        (k.contents KernelMsgQ_DebugCmd).length < MAX_CMD_LEN →
        r = some (k.contents KernelMsgQ_DebugCmd)) := by
  have hrecv := kernelRecvMsg_one k (by decide : KernelMsgQ_DebugCmd < KernelMsgQ_Num)
  -- Whether the first read gets a byte.
  cases hc : k.contents KernelMsgQ_DebugCmd with
  | nil =>
      rw [hc] at hrecv
      refine ⟨k, some [], fun stale => loop_round_empty [] stale 19 hrecv, ?_, nofun⟩
      rintro l ⟨rfl⟩ hl
      cases hl
  | cons b rest =>
      rw [hc] at hrecv hhead
      obtain ⟨k', hk', hrest, -⟩ := hrecv
      have heol : ¬ IsEol b := hhead b rfl
      obtain ⟨k'', r, hrun, hstart, hmagic⟩ := loop_result 19 k' b [] rfl
      refine ⟨k'', r, fun stale => ?_, ?_, ?_⟩
      · have hround := loop_round_store [] stale 19 hk' fun h => heol h.2
        rw [if_pos (by decide)] at hround
        exact hround.trans (hrun stale)
      · intro l hl hlmagic
        obtain ⟨rest', rfl⟩ := hstart l hl
        rw [hmagic (Option.some.inj hlmagic), hrest] at hl
        split at hl
        · exact (Option.some.inj hl).symm
        · cases hl
      · intro hb hlen
        rw [hmagic (Option.some.inj hb), hrest]
        exact if_pos hlen

/-! ### The handlers -/

/-- The binary handler reads the first eight bytes of its buffer. -/
theorem handlePikvmCommand_congr (env : HandlerEnv) (st : KvmState) {a b : Buffer}
    (h : ∀ i, i < 8 → a i = b i) (cmdLen : Nat) :
    handlePikvmCommand env st a cmdLen = handlePikvmCommand env st b cmdLen := by
  have hcrc : crc16 a 6 = crc16 b 6 := by
    rw [crc16, crc16, Buffer.bytes_congr fun i hi => h i (by omega)]
  have h0 := h 0 (by decide)
  have h1 := h 1 (by decide)
  have h2 := h 2 (by decide)
  have h3 := h 3 (by decide)
  have h4 := h 4 (by decide)
  have h5 := h 5 (by decide)
  have h6 := h 6 (by decide)
  have h7 := h 7 (by decide)
  simp only [handlePikvmCommand, headerCheck, commandSwitch, cmdWheel, cmdButtonMove, cmdKey,
    cmdKeyBuild, hcrc, h0, h1, h2, h3, h4, h5, h6, h7]

/-- The raw handler reads the first byte of its buffer, and the bytes of the command. -/
theorem handleRawkvmCommand_congr (env : HandlerEnv) (st : KvmState) {a b : Buffer}
    (hfirst : a 0 = b 0) {cmdLen : Nat} (h : ∀ i, i < cmdLen → a i = b i) :
    handleRawkvmCommand env st a cmdLen = handleRawkvmCommand env st b cmdLen := by
  have hreport : ∀ rptId n, n ≤ cmdLen - 1 →
      rawReport rptId (a.drop 1) n = rawReport rptId (b.drop 1) n := by
    intro rptId n hn
    funext i
    unfold rawReport
    by_cases hzero : i = 0
    · rw [if_pos hzero, if_pos hzero]
    · rw [if_neg hzero, if_neg hzero]
      by_cases hin : i - 1 < n
      · rw [if_pos hin, if_pos hin]
        exact h _ (by omega)
      · rw [if_neg hin, if_neg hin]
  rw [handleRawkvmCommand, handleRawkvmCommand, hfirst]
  cases rawTarget (b 0) with
  | none => rfl
  | some target =>
      obtain ⟨itf, rptLen, rptId⟩ := target
      simp only
      rw [hreport rptId _ (by split <;> omega)]

/-- A command that fails its checksum is answered so, and nothing else is done. -/
theorem handlePikvmCommand_crcError (env : HandlerEnv) (st : KvmState) {cmdBuf : Buffer}
    (cmdLen : Nat) (h : crc16 cmdBuf 6 ≠ cmdBuf 6 ++ cmdBuf 7) :
    handlePikvmCommand env st cmdBuf cmdLen
      = ⟨(sendUartRsp st RESP_CRC_ERROR).1, [], (sendUartRsp st RESP_CRC_ERROR).2⟩ := by
  have hcheck := (headerCheck_eq_crcError_iff cmdBuf cmdLen).mpr h
  simp only [handlePikvmCommand, hcheck]
  rfl

/-- A command with a checksum and the wrong length is answered as invalid. -/
theorem handlePikvmCommand_invalid (env : HandlerEnv) (st : KvmState) {cmdBuf : Buffer}
    {cmdLen : Nat} (h : crc16 cmdBuf 6 = cmdBuf 6 ++ cmdBuf 7) (hlen : cmdLen ≠ 8) :
    handlePikvmCommand env st cmdBuf cmdLen
      = ⟨(sendUartRsp st RESP_INVALID_ERROR).1, [], (sendUartRsp st RESP_INVALID_ERROR).2⟩ := by
  have hcheck := headerCheck_of_crc h cmdLen
  rw [if_pos (Or.inr hlen)] at hcheck
  simp only [handlePikvmCommand, hcheck]
  rfl

/-- The first byte of a command picks its handler, whatever is behind it. -/
theorem handlerOf_ofList (l : List U8) (stale : Buffer) :
    handlerOf (.ofList (l ++ [0]) stale)
      = if l.head? = some MAGIC then .pikvm else .rawkvm := by
  cases l with
  | nil => rfl
  | cons x rest =>
      show (if x = MAGIC then Handler.pikvm else .rawkvm) = _
      simp

/-- The handler call on the bytes `l`, with a zero stored behind them. The stack does not show
in it if it does not show in the checksum. -/
theorem handleCommandTail_congr (env : TaskEnv) (st : KvmState) {l : List U8}
    (hshort : l.head? = some MAGIC → l.length < 7 →
      l.length = 6 ∧ highByte (crc16 (.ofList l .zero) 6) ≠ 0) (stale stale' : Buffer) :
    handleCommandTail env st (.ofList (l ++ [0]) stale) l.length
      = handleCommandTail env st (.ofList (l ++ [0]) stale') l.length := by
  have hsame : ∀ i, i < l.length + 1 →
      Buffer.ofList (l ++ [0]) stale i = Buffer.ofList (l ++ [0]) stale' i :=
    fun i hi => Buffer.ofList_congr _ stale stale' (by rwa [List.length_append])
  by_cases hmagic : l.head? = some MAGIC
  · simp only [handleCommandTail, handlerOf_ofList, if_pos hmagic]
    by_cases hlen : l.length < 7
    · -- Six bytes: the checksum fails at the zero behind them.
      obtain ⟨hsix, hhigh⟩ := hshort hmagic hlen
      have hfail : ∀ stale, crc16 (.ofList (l ++ [0]) stale) 6
          ≠ Buffer.ofList (l ++ [0]) stale 6 ++ Buffer.ofList (l ++ [0]) stale 7 := by
        intro stale heq
        have hcrc : crc16 (.ofList (l ++ [0]) stale) 6 = crc16 (.ofList l .zero) 6 := by
          rw [crc16, crc16, Buffer.bytes_congr fun i hi => ?_]
          rw [Buffer.ofList_apply l _ (by omega), Buffer.ofList_apply _ _ (by simp; omega),
            List.getElem_append_left (by omega)]
        have hzero : Buffer.ofList (l ++ [0]) stale 6 = 0 := by
          rw [← hsix, ← Buffer.ofList_set, Buffer.set_self]
        refine hhigh ?_
        rw [← hcrc, heq, hzero, highByte_append]
      rw [handlePikvmCommand_crcError _ _ _ (hfail stale),
        handlePikvmCommand_crcError _ _ _ (hfail stale')]
    · exact handlePikvmCommand_congr _ _ (fun i hi => hsame i (by omega)) _
  · simp only [handleCommandTail, handlerOf_ofList, if_neg hmagic]
    exact handleRawkvmCommand_congr _ _ (hsame 0 (by omega)) fun i hi => hsame i (by omega)

/-! ### The two calls -/

/-- The stack that makes the checksum of a short command come out right, if `x` is its low
byte, and wrong if not. -/
def staleCrc (crc : U16) (x : U8) : Buffer := Buffer.zero |>.set 6 (highByte crc) |>.set 7 x

/-- A command of fewer than seven bytes on that stack: its own bytes count for the checksum
with zeros behind them, and what it is compared with comes from the stack. -/
theorem crc_staleCrc {l : List U8} (hlen : l.length < 7)
    (hsix : l.length = 6 → highByte (crc16 (.ofList l .zero) 6) = 0) (x : U8) :
    let crc := crc16 (.ofList l .zero) 6
    let cmdBuf := Buffer.ofList (l ++ [0]) (staleCrc crc x)
    crc16 cmdBuf 6 = crc ∧ cmdBuf 6 = highByte crc ∧ cmdBuf 7 = x := by
  intro crc cmdBuf
  have hcmdBuf : cmdBuf = (Buffer.ofList l (staleCrc crc x)).set l.length 0 :=
    (Buffer.ofList_set l _ 0).symm
  have hbehind : ∀ i, l.length < i → cmdBuf i = staleCrc crc x i := by
    intro i hi
    rw [hcmdBuf, Buffer.set_of_ne _ (Nat.ne_of_gt hi), Buffer.ofList,
      List.getD_eq_default _ _ (Nat.le_of_lt hi)]
  refine ⟨?_, ?_, ?_⟩
  · show crc16 cmdBuf 6 = crc16 (.ofList l .zero) 6
    rw [crc16, crc16, Buffer.bytes_congr fun i hi => ?_]
    -- The bytes of the command, the terminator, and what an earlier command left behind it.
    rcases Nat.lt_trichotomy i l.length with hlt | heq | hgt
    · rw [hcmdBuf, Buffer.set_of_ne _ (Nat.ne_of_lt hlt), Buffer.ofList_congr l _ .zero hlt]
    · rw [hcmdBuf, heq, Buffer.set_self, Buffer.ofList, List.getD_eq_default _ _ (Nat.le_refl _)]
      rfl
    · rw [hbehind i hgt, Buffer.ofList, List.getD_eq_default _ _ (Nat.le_of_lt hgt), staleCrc,
        Buffer.set_of_ne _ (by omega), Buffer.set_of_ne _ (by omega)]
  · by_cases h : l.length = 6
    · rw [hcmdBuf, h, Buffer.set_self]
      exact (hsix h).symm
    · rw [hbehind 6 (by omega), staleCrc, Buffer.set_of_ne _ (by decide), Buffer.set_self]
  · rw [hbehind 7 (by omega), staleCrc, Buffer.set_self]

/-- The two answers to a short command differ. -/
theorem sendUartRsp_ne (st st' : KvmState) :
    (sendUartRsp st RESP_INVALID_ERROR).2 ≠ (sendUartRsp st' RESP_CRC_ERROR).2 := by
  intro h
  have hcode : some RESP_INVALID_ERROR = some RESP_CRC_ERROR := congrArg (fun l => l[1]?) h
  exact absurd hcode (by decide)

/-- An end of line in front of the queue ends the command, or is stored if the stack starts
with `MAGIC`. -/
theorem not_staleIndependent_of_eol {env : TaskEnv} {k : Kernel} {st : KvmState} {ch : U8}
    {rest : List U8} (hqueue : k.contents KernelMsgQ_DebugCmd = ch :: rest) (heol : IsEol ch) :
    ¬ StaleIndependent env k st := by
  intro h
  have hrecv := kernelRecvMsg_one k (by decide : KernelMsgQ_DebugCmd < KernelMsgQ_Num)
  rw [hqueue] at hrecv
  obtain ⟨k', hk', -, -⟩ := hrecv
  have hends := loop_round_eol [] .zero 19 hk' ⟨by decide, heol⟩
  have hstores := loop_round_store [] (fun _ => MAGIC) 19 hk' fun hne => hne.1 rfl
  obtain ⟨k'', r, hrun, hstart, -⟩ := loop_result 19 k' ch [] rfl
  rw [if_pos (by decide)] at hstores
  have hcalled := congrArg CommandOut.called (h .zero fun _ => MAGIC)
  simp only [handleCommand, MAX_CMD_LEN] at hcalled
  rw [show handleCommand.loop 20 k 0 .zero = _ from hends,
    show handleCommand.loop 20 k 0 (fun _ => MAGIC) = _ from hstores.trans (hrun _)] at hcalled
  cases r with
  | none => cases hcalled
  | some l =>
      -- The second call has at least the one byte.
      have hlen : 0 = l.length := congrArg Prod.snd (Option.some.inj hcalled)
      have hle := (hstart l rfl).length_le
      simp only [List.length_cons] at hle
      omega

/-- A binary command that is cut short is answered as invalid, or as one with a wrong checksum
if the stack says so. -/
theorem not_staleIndependent_of_short {env : TaskEnv} {k : Kernel} {st : KvmState}
    (hhead : ∀ ch ∈ (k.contents KernelMsgQ_DebugCmd).head?, ¬ IsEol ch)
    (hmagic : (k.contents KernelMsgQ_DebugCmd).head? = some MAGIC)
    (hlen : (k.contents KernelMsgQ_DebugCmd).length < 7)
    (hsix : (k.contents KernelMsgQ_DebugCmd).length = 6 →
      highByte (crc16 (.ofList (k.contents KernelMsgQ_DebugCmd) .zero) 6) = 0) :
    ¬ StaleIndependent env k st := by
  intro h
  obtain ⟨k', r, hrun, -, hr⟩ := loop_start k hhead
  rw [hr hmagic (Nat.lt_trans hlen (by decide))] at hrun
  let q := k.contents KernelMsgQ_DebugCmd
  let crc := crc16 (.ofList q .zero) 6
  let st' := trackLock st env.fnr
  have hresponse : ∀ x, (handleCommand { env with cmdBuf := staleCrc crc x } k st).response
      = (handlePikvmCommand env.handler st' (.ofList (q ++ [0]) (staleCrc crc x))
          q.length).response := by
    intro x
    simp only [handleCommand, hrun, Option.map_some, handleCommandTail, handlerOf_ofList,
      if_pos hmagic]
    rfl
  have hgood : (handleCommand { env with cmdBuf := staleCrc crc (lowByte crc) } k st).response
      = (sendUartRsp st' RESP_INVALID_ERROR).2 := by
    obtain ⟨hcrc, h6, h7⟩ := crc_staleCrc hlen hsix (lowByte crc)
    rw [hresponse, handlePikvmCommand_invalid _ _ (by
      rw [hcrc, h6, h7]
      exact (highByte_append_lowByte _).symm) (Nat.ne_of_lt (Nat.lt_trans hlen (by decide)))]
  have hbad : (handleCommand { env with cmdBuf := staleCrc crc (lowByte crc + 1) } k st).response
      = (sendUartRsp st' RESP_CRC_ERROR).2 := by
    obtain ⟨hcrc, h6, h7⟩ := crc_staleCrc hlen hsix (lowByte crc + 1)
    have hne : lowByte crc ≠ lowByte crc + 1 := by bv_omega
    rw [hresponse, handlePikvmCommand_crcError _ _ _ (by
      rw [hcrc, h6, h7]
      exact fun heq => hne ((congrArg lowByte heq).trans (lowByte_append _ _)))]
  refine sendUartRsp_ne st' st' ?_
  rw [← hgood, ← hbad, h]

/-- The calls with the same queue and the same statics leave the same behind, whatever the
stack holds, exactly if the queue does not start with an end of line, and a binary command
that is cut short ends behind byte 6, or at byte 5 with a checksum whose high byte is not
zero. -/
theorem stale_independent_iff (env : TaskEnv) (k : Kernel) (st : KvmState) :
    StaleIndependent env k st ↔ ReadsOwnBytes (k.contents KernelMsgQ_DebugCmd) := by
  constructor
  · intro h
    have hhead : ∀ ch ∈ (k.contents KernelMsgQ_DebugCmd).head?, ¬ IsEol ch := by
      intro ch hch heol
      obtain ⟨rest, hqueue⟩ := List.head?_eq_some_iff.mp hch
      exact not_staleIndependent_of_eol hqueue heol h
    refine ⟨hhead, fun hmagic hlen => ?_⟩
    by_contra hsix
    exact not_staleIndependent_of_short hhead hmagic hlen
      (fun hlen' => by_contra fun hhigh => hsix ⟨hlen', hhigh⟩) h
  · rintro ⟨hhead, hshort⟩ stale stale'
    obtain ⟨k', r, hrun, hr, -⟩ := loop_start k hhead
    cases r with
    | none => simp only [handleCommand, hrun, Option.map_none]
    | some l =>
        have htail := handleCommandTail_congr env st (l := l)
          (fun hmagic => hr l rfl hmagic ▸ hshort (hr l rfl hmagic ▸ hmagic)) stale stale'
        have hout : ∀ stale'', handleCommandTail { env with cmdBuf := stale'' } st
          = handleCommandTail env st := fun _ => rfl
        simp only [handleCommand, hrun, Option.map_some, handlerOf_ofList, hout, htail]

/-- The first two bytes of a ping are answered as invalid or as one with a wrong checksum, and
a carriage return in front of a line is a command of its own or not. -/
theorem stack_shows :
    ¬ StaleIndependent .ok (kernelSendMsg .boot KernelMsgQ_DebugCmd [MAGIC, CMD_PING]).2 .boot ∧
      ¬ StaleIndependent .ok
        (kernelSendMsg .boot KernelMsgQ_DebugCmd [CHAR_CR, CHAR_AT, CHAR_CR]).2 .boot := by
  have hq : KernelMsgQ_DebugCmd < KernelMsgQ_Num := by decide
  have hping := contents_sendMsg_boot hq [MAGIC, CMD_PING] (by decide)
  have hline := contents_sendMsg_boot hq [CHAR_CR, CHAR_AT, CHAR_CR] (by decide)
  constructor
  · apply not_staleIndependent_of_short
    · rw [hping]
      rintro ch ⟨rfl⟩
      decide
    · rw [hping]
      rfl
    · rw [hping]
      decide
    · rw [hping]
      intro hsix
      exact absurd hsix (by decide)
  · exact not_staleIndependent_of_eol hline (Or.inl rfl)

end PikvmHid
