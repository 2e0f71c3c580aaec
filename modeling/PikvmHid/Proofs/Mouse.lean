import PikvmHid.Proofs.Commands
import PikvmHid.Spec.Mouse

/-!
# `PikvmHid.Proofs.Mouse`: position, buttons and wheel

The three mouse commands share the statics `posx`, `posy`, `button` and the local array
`hid_rpt`. `MouseCommand.handle_eq` says once what they do: `moved` is what they leave in the
statics, and `reported` what they send.

* `mouse_conforms_iff`: every report shows the latest position and buttons exactly if every
  `CMD_WHEEL` comes while the pointer is in the corner and no button is down. A `CMD_WHEEL`
  reports the corner and forgets the buttons.
* `no_uncommanded_scroll_iff`: the wheel moves by the `CMD_WHEEL` commands alone exactly if
  byte 6 of the stack is zero at each of the others. They send that byte unwritten.
-/

set_option autoImplicit false

namespace PikvmHid

open Lib

/-! ### Reports -/

/-- A mouse report. -/
def mouseReport (button : U8) (x y : U16) (wheel : U8) : List U8 :=
  [button, lowByte x, highByte x, lowByte y, highByte y, wheel]

section
variable (button : U8) (x y : U16) (wheel : U8)

/-- The buttons of a report. -/
@[simp] theorem reportButton_mouseReport :
    reportButton (mouseReport button x y wheel) = button := rfl

/-- Its X. -/
@[simp] theorem reportX_mouseReport :
    reportX (mouseReport button x y wheel) = (x.toNat : Int) :=
  congrArg (fun v : U16 => (v.toNat : Int)) (highByte_append_lowByte x)

/-- Its Y. -/
@[simp] theorem reportY_mouseReport :
    reportY (mouseReport button x y wheel) = (y.toNat : Int) :=
  congrArg (fun v : U16 => (v.toNat : Int)) (highByte_append_lowByte y)

/-- Its wheel. -/
@[simp] theorem reportWheel_mouseReport :
    reportWheel (mouseReport button x y wheel) = wheel.toInt := rfl

end

/-- The two bytes of a coordinate are its 16 bits. -/
theorem coordinate_eq (hi lo : U8) : coordinate hi lo = (hi ++ lo : U16).toInt := by
  have hword : BitVec.ofNat 16 ((hi.toNat <<< 8) + lo.toNat) = hi ++ lo := by
    have hhi := hi.isLt
    have hlo := lo.isLt
    rw [← BitVec.toNat_inj, toNat_bytes, BitVec.toNat_ofNat, Nat.shiftLeft_eq]
    omega
  rw [coordinate, hword]

/-- The division of `handle_pikvm_command` rounds down and stays within 15 bits. -/
theorem toNat_position (v : U16) : ((position v.toInt).toNat : Int) = scale v.toInt := by
  have hlt : v.toInt < 32768 := BitVec.toInt_lt (x := v)
  have hle : -32768 ≤ v.toInt := BitVec.le_toInt (x := v)
  have hdiv : (v.toInt + 32768).tdiv 2 = (v.toInt + 32768) / 2 :=
    Int.tdiv_eq_ediv_of_nonneg (by omega)
  rw [position, scale, hdiv, BitVec.toNat_ofInt]
  omega

/-! ### The three commands -/

namespace MouseCommand

variable (st : KvmState) (c : MouseCommand)

/-- `hid_rpt` goes out from its second byte, in one attempt. The outcome is noted in
`hid_state`, and nothing else changes. -/
theorem sendMouseReport_eq (env : HandlerEnv) (hidRpt : Buffer) :
    ∃ failed sent,
      sendMouseReport env st hidRpt
        = ({ st with hidState := setHidState st.hidState HID_DEV_MOUSE sent },
          attempt .hidMsIf ((hidRpt.drop (1 - HID_KB_MS_COMB)).bytes HID_MS_REPORT_BYTE) failed
            sent) := by
  obtain ⟨failed, sent, hcalls, hsent, -⟩ := sendHidReport_calls env.reportIn .hidMsIf
    (hidRpt.drop (1 - HID_KB_MS_COMB)) (show HID_MS_REPORT_BYTE ≠ 0 by decide) 3
  refine ⟨failed, sent, ?_⟩
  simp only [sendMouseReport, hsent]
  exact congrArg (Prod.mk _) hcalls

/-- The branch of the switch. -/
theorem commandSwitch_wheel (h : c.code = CMD_WHEEL) :
    commandSwitch c.env st c.cmdBuf = (cmdWheel c.env st c.cmdBuf, PONG_OK) := by
  simp only [commandSwitch, show c.cmdBuf 1 = CMD_WHEEL from h]
  rfl

/-- `CMD_MOVE` and `CMD_BUTTON` share a case. -/
theorem commandSwitch_buttonMove (h : c.code = CMD_MOVE ∨ c.code = CMD_BUTTON) :
    commandSwitch c.env st c.cmdBuf = (cmdButtonMove c.env st c.cmdBuf, PONG_OK) := by
  rcases h with h | h
  · simp only [commandSwitch, show c.cmdBuf 1 = CMD_MOVE from h]
    rfl
  · simp only [commandSwitch, show c.cmdBuf 1 = CMD_BUTTON from h]
    rfl

/-- The statics of the mouse behind the command. -/
def moved (st : KvmState) (c : MouseCommand) : KvmState :=
  if c.code = CMD_WHEEL then { st with button := 0 }
  else if c.code = CMD_MOVE then
    { st with
        posx := position (coordinate (c.cmdBuf 2) (c.cmdBuf 3))
        posy := position (coordinate (c.cmdBuf 4) (c.cmdBuf 5)) }
  else { st with button := buttonMask (c.cmdBuf 2) }

/-- The report of the command. A `CMD_WHEEL` reports the corner and no button. The others
report the statics, and their wheel byte is what the stack holds. -/
def reported (st : KvmState) (c : MouseCommand) : List U8 :=
  if c.code = CMD_WHEEL then mouseReport 0 0 0 (c.cmdBuf 3)
  else mouseReport (c.moved st).button (c.moved st).posx (c.moved st).posy (c.env.hidRpt 6)

/-- The statics of the keyboard and `hid_state` stay. -/
theorem moved_frame : (c.moved st).modifier = st.modifier ∧
    (c.moved st).lastCrc = st.lastCrc ∧ (c.moved st).hidState = st.hidState := by
  unfold moved
  split
  · exact ⟨rfl, rfl, rfl⟩
  · split
    · exact ⟨rfl, rfl, rfl⟩
    · exact ⟨rfl, rfl, rfl⟩

/-- What a mouse command does: one attempt to send its report, and a note of the outcome. -/
theorem handle_eq : ∃ code failed sent,
    c.calls st = attempt .hidMsIf (c.reported st) failed sent ∧
      (c.handle st).state = { c.moved st with
        hidState := setHidState st.hidState HID_DEV_MOUSE sent, prevCode := code } := by
  obtain ⟨code, hstate⟩ := c.handle_state st
  rw [calls, c.handle_reportIns, hstate, ← (c.moved_frame st).2.2]
  by_cases h : c.code = CMD_WHEEL
  · -- A turn of the wheel.
    let hidRpt := c.env.hidRpt |>.set 0 2 |>.set 1 0 |>.set 2 0 |>.set 3 0 |>.set 4 0
      |>.set 5 0 |>.set 6 (c.cmdBuf 3)
    have hbranch : cmdWheel c.env st c.cmdBuf = sendMouseReport c.env (c.moved st) hidRpt := by
      rw [moved, if_pos h]
      rfl
    obtain ⟨failed, sent, heq⟩ := sendMouseReport_eq (c.moved st) c.env hidRpt
    rw [c.commandSwitch_wheel st h, hbranch, heq, reported, if_pos h]
    exact ⟨code, failed, sent, rfl, rfl⟩
  · -- A move, or a button.
    have hcode : c.code = CMD_MOVE ∨ c.code = CMD_BUTTON :=
      (or_assoc.mpr c.isMouse).resolve_right h
    let hidRpt := c.env.hidRpt |>.set 0 2 |>.set 1 (c.moved st).button
      |>.set 2 (lowByte (c.moved st).posx) |>.set 3 (highByte (c.moved st).posx)
      |>.set 4 (lowByte (c.moved st).posy) |>.set 5 (highByte (c.moved st).posy)
    have hbranch : cmdButtonMove c.env st c.cmdBuf
        = sendMouseReport c.env (c.moved st) hidRpt := by
      simp only [hidRpt, moved, if_neg h]
      rfl
    obtain ⟨failed, sent, heq⟩ := sendMouseReport_eq (c.moved st) c.env hidRpt
    rw [c.commandSwitch_buttonMove st hcode, hbranch, heq, reported, if_neg h]
    exact ⟨code, failed, sent, rfl, rfl⟩

/-- A mouse command attempts one report. -/
theorem calls_eq : ∃ failed sent, c.calls st = attempt .hidMsIf (c.reported st) failed sent := by
  obtain ⟨code, failed, sent, hcalls, -⟩ := c.handle_eq st
  exact ⟨failed, sent, hcalls⟩

/-- The statics of the mouse are `moved`, and those of the keyboard stay. -/
theorem handle_frame :
    (c.handle st).state.modifier = st.modifier ∧ (c.handle st).state.lastCrc = st.lastCrc ∧
      (c.handle st).state.posx = (c.moved st).posx ∧
      (c.handle st).state.posy = (c.moved st).posy ∧
      (c.handle st).state.button = (c.moved st).button := by
  obtain ⟨code, failed, sent, -, hstate⟩ := c.handle_eq st
  obtain ⟨hmodifier, hcrc, -⟩ := c.moved_frame st
  rw [hstate]
  exact ⟨hmodifier, hcrc, rfl, rfl, rfl⟩

/-- A `CMD_MOVE` moves the pointer. -/
theorem moved_position :
    ((c.moved st).posx.toNat : Int)
        = (if c.code = CMD_MOVE then scale c.x else st.posx.toNat) ∧
      ((c.moved st).posy.toNat : Int)
        = (if c.code = CMD_MOVE then scale c.y else st.posy.toNat) := by
  unfold moved
  by_cases hmove : c.code = CMD_MOVE
  · have hne : CMD_MOVE ≠ CMD_WHEEL := by decide
    simp only [hmove, if_neg hne, if_true, coordinate_eq]
    exact ⟨toNat_position _, toNat_position _⟩
  · simp only [if_neg hmove]
    split
    · exact ⟨rfl, rfl⟩
    · exact ⟨rfl, rfl⟩

/-- A `CMD_BUTTON` sets the buttons, and a `CMD_WHEEL` forgets them. -/
theorem moved_button : (c.moved st).button
    = if c.code = CMD_WHEEL then 0
      else if c.code = CMD_MOVE then st.button else buttonMask (c.cmdBuf 2) := by
  unfold moved
  split
  · rfl
  · split
    · rfl
    · rfl

/-- A report shows the buttons that are left. -/
theorem reportButton_reported : reportButton (c.reported st) = (c.moved st).button := by
  unfold reported
  split
  · next h => rw [reportButton_mouseReport, moved_button, if_pos h]
  · exact reportButton_mouseReport _ _ _ _

/-- The wheel byte is the movement of a `CMD_WHEEL`, and what the stack holds otherwise. -/
theorem reportWheel_reported : reportWheel (c.reported st)
    = if c.code = CMD_WHEEL then c.delta else (c.env.hidRpt 6).toInt := by
  unfold reported
  split
  · exact reportWheel_mouseReport _ _ _ _
  · exact reportWheel_mouseReport _ _ _ _

/-- The frame of a mouse command. -/
def ofCode (env : HandlerEnv) (code a b c d : U8)
    (h : code = CMD_MOVE ∨ code = CMD_BUTTON ∨ code = CMD_WHEEL) : MouseCommand where
  toCommand := .ofBytes env code a b c d
  isMouse := h

end MouseCommand

/-! ### Position and buttons -/

/-- What the latest command with a code says, after one more command. -/
theorem latest_concat {α : Type} (code : U8) (cmds : List MouseCommand) (c : MouseCommand)
    (a : α) (f : MouseCommand → α) : (latest code (cmds ++ [c])).elim a f
      = if c.code = code then f c else (latest code cmds).elim a f := by
  unfold latest
  rw [getLast?_filter_concat]
  by_cases h : c.code = code
  · rw [if_pos (decide_eq_true h), if_pos h]
    rfl
  · rw [if_neg (by simpa using h), if_neg h]

section
variable (cmds : List MouseCommand) (c : MouseCommand)

/-- One more command moves X, or leaves it. -/
theorem expectedX_concat :
    expectedX (cmds ++ [c]) = if c.code = CMD_MOVE then scale c.x else expectedX cmds :=
  latest_concat CMD_MOVE cmds c 0 _

/-- The same for Y. -/
theorem expectedY_concat :
    expectedY (cmds ++ [c]) = if c.code = CMD_MOVE then scale c.y else expectedY cmds :=
  latest_concat CMD_MOVE cmds c 0 _

/-- The same for the buttons. -/
theorem expectedButton_concat :
    expectedButton (cmds ++ [c])
      = if c.code = CMD_BUTTON then buttonMask (c.cmdBuf 2) else expectedButton cmds :=
  latest_concat CMD_BUTTON cmds c 0 _

end

/-- The statics are the latest position and buttons. -/
structure PointerInv (c : KvmState × Trace MouseCommand) : Prop where
  posx_eq : (c.1.posx.toNat : Int) = expectedX c.2.commands
  posy_eq : (c.1.posy.toNat : Int) = expectedY c.2.commands
  button_eq : c.1.button = expectedButton c.2.commands

/-- The invariant holds at the start. -/
theorem pointerInv_reset : PointerInv reset := ⟨rfl, rfl, rfl⟩

/-- A command keeps the statics up to date, but for the buttons that a `CMD_WHEEL`
forgets. -/
theorem pointerInv_next (c : KvmState × Trace MouseCommand) (i : MouseCommand)
    (h : PointerInv c) (hrest : WheelAtRest c i) : PointerInv (mouse.next c i) := by
  have hcommands : Trace.commands (mouse.next c i).2 = c.2.commands ++ [i] :=
    commands_next _ c i
  obtain ⟨hx, hy⟩ := i.moved_position c.1
  obtain ⟨-, -, hposx, hposy, hbutton⟩ := i.handle_frame c.1
  refine ⟨?_, ?_, ?_⟩
  · show ((i.handle c.1).state.posx.toNat : Int) = _
    rw [hposx, hx, hcommands, expectedX_concat, h.posx_eq]
  · show ((i.handle c.1).state.posy.toNat : Int) = _
    rw [hposy, hy, hcommands, expectedY_concat, h.posy_eq]
  · show (i.handle c.1).state.button = _
    rw [hbutton, i.moved_button, hcommands, expectedButton_concat]
    have hcode : i.code = CMD_MOVE ∨ i.code = CMD_BUTTON ∨ i.code = CMD_WHEEL := i.isMouse
    rcases hcode with hi | hi | hi
    · rw [hi, if_neg (by decide), if_pos rfl, if_neg (by decide)]
      exact h.button_eq
    · rw [hi, if_neg (by decide), if_neg (by decide), if_pos rfl]
    · -- The mask is forgotten, but there was none.
      rw [if_pos hi, hi, if_neg (by decide)]
      exact (hrest hi).2.2.symm

/-- With up-to-date statics, `CMD_MOVE` and `CMD_BUTTON` report the latest position and
buttons, and `CMD_WHEEL` does in the corner with no button down. -/
theorem conforms_iff {c : KvmState × Trace MouseCommand} {i : MouseCommand}
    (h : PointerInv c) : Conforms c i ↔ WheelAtRest c i := by
  obtain ⟨failed, sent, hcalls⟩ := i.calls_eq c.1
  rw [Conforms, hcalls, forall_mem_attempt (P := fun _ r => reportX r = _ ∧ reportY r = _ ∧
    reportButton r = _), MouseCommand.reported]
  by_cases hwheel : i.code = CMD_WHEEL
  · -- The report shows zeros, whatever the statics are.
    have hmove : ¬ i.code = CMD_MOVE := by
      rw [hwheel]
      decide
    have hbutton : ¬ i.code = CMD_BUTTON := by
      rw [hwheel]
      decide
    rw [if_pos hwheel, expectedX_concat, expectedY_concat, expectedButton_concat, if_neg hmove,
      if_neg hmove, if_neg hbutton, reportX_mouseReport, reportY_mouseReport,
      reportButton_mouseReport]
    constructor
    · rintro ⟨hx, hy, hmask⟩ _
      exact ⟨hx.symm, hy.symm, hmask.symm⟩
    · intro hrest
      obtain ⟨hx, hy, hmask⟩ := hrest hwheel
      exact ⟨hx.symm, hy.symm, hmask.symm⟩
  · -- The report shows the statics, and the command keeps them up to date.
    refine iff_of_true ?_ fun hyes => absurd hyes hwheel
    have hnext := pointerInv_next c i h fun hyes => absurd hyes hwheel
    obtain ⟨-, -, hposx, hposy, hbutton⟩ := i.handle_frame c.1
    rw [if_neg hwheel, reportX_mouseReport, reportY_mouseReport, reportButton_mouseReport,
      ← hposx, ← hposy, ← hbutton, ← commands_next MouseCommand.toCommand c i]
    exact ⟨hnext.posx_eq, hnext.posy_eq, hnext.button_eq⟩

/-- In a run of mouse commands from reset, every report shows the position of the latest
`CMD_MOVE` and the buttons of the latest `CMD_BUTTON` exactly if every `CMD_WHEEL` comes
while these are the corner and no button. -/
theorem mouse_conforms_iff (cmds : List MouseCommand) :
    mouse.Meets Conforms reset cmds ↔ mouse.Meets WheelAtRest reset cmds :=
  mouse.meets_congr (I := PointerInv) pointerInv_next (fun _ _ => conforms_iff) pointerInv_reset

/-- The pointer moves to the middle, the left button goes down, and the wheel turns: the
report of the wheel moves the pointer to the corner and releases the button. -/
theorem wheel_moves_pointer :
    let env : HandlerEnv := ⟨.zero, fun _ => true⟩
    let before := [MouseCommand.ofCode env CMD_MOVE 0 0 0 0 (by decide),
      .ofCode env CMD_BUTTON 0x08 0 0 0 (by decide)]
    let wheel := MouseCommand.ofCode env CMD_WHEEL 0 1 0 0 (by decide)
    let c := mouse.exec reset before
    expectedX before = 16384 ∧ expectedButton before = 1 ∧
      wheel.calls c.1 = [⟨.hidMsIf, [0, 0, 0, 0, 0, 1], true⟩] ∧ ¬ Conforms c wheel := by
  intro env before wheel c
  have hcalls : wheel.calls c.1 = [⟨.hidMsIf, [0, 0, 0, 0, 0, 1], true⟩] := by decide +kernel
  have hbutton : expectedButton (Trace.commands c.2 ++ [wheel]) = 1 := by decide +kernel
  refine ⟨by decide +kernel, by decide +kernel, hcalls, ?_⟩
  intro hconforms
  have hreport := hconforms ⟨.hidMsIf, [0, 0, 0, 0, 0, 1], true⟩ (by
    rw [hcalls]
    exact List.mem_singleton_self _)
  rw [hbutton] at hreport
  exact absurd hreport.2.2 (by decide)

/-! ### The wheel -/

/-- The wheel is zero when the byte on the stack was. -/
theorem wheelZero_iff (c : KvmState × Trace MouseCommand) (i : MouseCommand) :
    WheelZero c i ↔ (i.code ≠ CMD_WHEEL → i.env.hidRpt 6 = 0) := by
  obtain ⟨failed, sent, hcalls⟩ := i.calls_eq c.1
  rw [WheelZero, hcalls, forall_mem_attempt (P := fun _ r => reportWheel r = 0),
    i.reportWheel_reported]
  refine imp_congr_right fun hne => ?_
  rw [if_neg hne, ← show (0 : U8).toInt = 0 from BitVec.toInt_zero, BitVec.toInt_inj]

/-- A command that is received scrolls by its wheel byte. -/
theorem scrolled_next (c : KvmState × Trace MouseCommand) (i : MouseCommand)
    (h : scrolled c.2 = commanded c.2) (hzero : i.code ≠ CMD_WHEEL → i.env.hidRpt 6 = 0) :
    scrolled (mouse.next c i).2 = commanded (mouse.next c i).2 := by
  obtain ⟨failed, sent, hcalls⟩ := i.calls_eq c.1
  have hnext : (mouse.next c i).2
      = c.2 ++ [(i, attempt .hidMsIf (i.reported c.1) failed sent)] := by
    rw [← hcalls]
    rfl
  -- Both sums grow by what the command adds if its report is received.
  have hscrolled : scrolled (mouse.next c i).2
      = scrolled c.2 + if sent then reportWheel (i.reported c.1) else 0 := by
    rw [hnext, scrolled, Trace.calls_concat, List.filter_append, filter_attempt,
      List.map_append, List.sum_append]
    cases sent with
    | true => simp [scrolled]
    | false => simp [scrolled]
  have hcommanded : commanded (mouse.next c i).2
      = commanded c.2 + if i.code = CMD_WHEEL ∧ sent = true then i.delta else 0 := by
    rw [hnext, commanded, List.filter_append, List.map_append, List.sum_append]
    by_cases hi : i.code = CMD_WHEEL ∧ sent = true
    · rw [List.filter_cons_of_pos (by simpa only [any_attempt] using decide_eq_true hi),
        if_pos hi]
      exact congrArg (commanded c.2 + ·) (Int.add_zero i.delta)
    · rw [List.filter_cons_of_neg (by simpa only [any_attempt, decide_eq_true_eq] using hi),
        if_neg hi]
      rfl
  rw [hscrolled, hcommanded, h, i.reportWheel_reported]
  -- A `CMD_WHEEL` adds its movement to both, any other command a zero to the first.
  by_cases hi : i.code = CMD_WHEEL
  · simp only [hi, true_and, if_true]
  · have hneither : ¬ (i.code = CMD_WHEEL ∧ sent = true) := fun hboth => hi hboth.1
    rw [if_neg hi, if_neg hneither, hzero hi, show (0 : U8).toInt = 0 from BitVec.toInt_zero,
      ite_self]

/-- In a run of mouse commands from reset, with any outcomes of the calls, the reports of
`CMD_MOVE` and `CMD_BUTTON` leave the wheel alone, and at every point the wheel has moved by
the received `CMD_WHEEL` commands, exactly if the stack holds a zero in byte 6 of `hid_rpt`
at every `CMD_MOVE` and `CMD_BUTTON`. -/
theorem no_uncommanded_scroll_iff (cmds : List MouseCommand) :
    (mouse.Meets WheelZero reset cmds ∧ ∀ pre, pre <+: cmds →
      scrolled (mouse.exec reset pre).2 = commanded (mouse.exec reset pre).2) ↔
    ∀ i ∈ cmds, i.code ≠ CMD_WHEEL → i.env.hidRpt 6 = 0 := by
  have hzero : mouse.Meets WheelZero reset cmds ↔
      mouse.Meets (fun _ i => i.code ≠ CMD_WHEEL → i.env.hidRpt 6 = 0) reset cmds :=
    mouse.meets_congr (I := fun _ => True) (fun _ _ _ _ => trivial)
      (fun c i _ => wheelZero_iff c i) trivial
  rw [hzero, ← mouse.meets_forall_iff reset]
  -- The equation of the sums follows from the condition, as an invariant of the run.
  refine and_iff_left_of_imp fun hmeets pre hpre => ?_
  exact mouse.invariant_along (I := fun c => scrolled c.2 = commanded c.2) scrolled_next rfl
    hmeets hpre

/-- A `CMD_MOVE` over a stack of ones scrolls by one line. -/
theorem move_scrolls :
    let env : HandlerEnv := ⟨fun _ => 1, fun _ => true⟩
    let cmds := [MouseCommand.ofCode env CMD_MOVE 0 0 0 0 (by decide)]
    let c := mouse.exec reset cmds
    scrolled c.2 = 1 ∧ commanded c.2 = 0 ∧
      ¬ (mouse.Meets WheelZero reset cmds ∧ ∀ pre, pre <+: cmds →
        scrolled (mouse.exec reset pre).2 = commanded (mouse.exec reset pre).2) := by
  intro env cmds c
  have hscrolled : scrolled c.2 = 1 := by decide +kernel
  have hcommanded : commanded c.2 = 0 := by decide +kernel
  refine ⟨hscrolled, hcommanded, ?_⟩
  rintro ⟨-, hsum⟩
  have h := hsum cmds (List.prefix_refl cmds)
  rw [hscrolled, hcommanded] at h
  exact absurd h (by decide)

end PikvmHid
