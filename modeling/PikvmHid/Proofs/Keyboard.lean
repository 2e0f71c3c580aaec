import PikvmHid.Proofs.Commands
import PikvmHid.Proofs.KeyReports

/-!
# `PikvmHid.Proofs.Keyboard`: reports that are left out

`handle_pikvm_command` leaves out a keyboard report whose checksum is `last_crc`.
`KeyCommand.handle_cases` says what a `CMD_KEY` can do, and `FilterInv` what `last_crc`
is: the checksum of the last call's report if that was accepted, and 0 otherwise. So a
report makes no call if it is that report or an alias of it
(`FilterInv.calls_eq_nil_iff`).

`suppression_iff`: only reports that the USB host has already are left out, and no key gets
stuck, exactly if no command builds an alias of the accepted report before it.
`alias_stuck_key` is a run with an alias: B with left Alt and left GUI, then a release.
-/

set_option autoImplicit false

namespace PikvmHid

open Lib

namespace KeyCommand

/-- The frame of a press (`state` not 0) or a release of `code`. -/
def ofCode (env : HandlerEnv) (code state : U8) : KeyCommand where
  toCommand := .ofBytes env CMD_KEY code state 0 0
  isKey := rfl

variable (st : KvmState) (c : KeyCommand)

/-- A `CMD_KEY` takes its case of the switch. -/
theorem commandSwitch_eq :
    commandSwitch c.env st c.cmdBuf = (cmdKey c.env st c.cmdBuf, PONG_OK) := by
  simp only [commandSwitch, c.isKey]
  rfl

/-- The build of a press: a modifier key is noted and skips the report. -/
theorem cmdKeyBuild_press {st c} (h : pressed c = true) :
    (cmdKeyBuild st c.cmdBuf).modifier
        = (if IsModifier c.key then st.modifier ||| modifierBit c.key else st.modifier) ∧
      (cmdKeyBuild st c.cmdBuf).skip
        = decide (IsModifier c.key ∨ c.key = KEY_ERROR_UNDEFINED) ∧
      c.report st = keyReport st.modifier c.key := by
  have hstate : c.cmdBuf 3 ≠ 0 := of_decide_eq_true h
  simp only [report, cmdKeyBuild, if_pos hstate, key, code]
  by_cases hmod : IsModifier (keyMapUsb (c.cmdBuf 2))
  · simp only [if_pos hmod]
    exact ⟨(if_pos hmod).symm, (decide_eq_true (Or.inl hmod)).symm, rfl⟩
  · simp only [if_neg hmod]
    exact ⟨(if_neg hmod).symm, decide_eq_decide.mpr ⟨Or.inr, fun h => h.resolve_left hmod⟩, rfl⟩

/-- The build of a release: a modifier key is forgotten, and the report is empty. -/
theorem cmdKeyBuild_release {st c} (h : pressed c = false) :
    (cmdKeyBuild st c.cmdBuf).modifier
        = (if IsModifier c.key then st.modifier &&& ~~~modifierBit c.key else st.modifier) ∧
      (cmdKeyBuild st c.cmdBuf).skip = false ∧ c.report st = keyReport 0 0 := by
  have hstate : ¬ c.cmdBuf 3 ≠ 0 := of_decide_eq_false h
  simp only [report, cmdKeyBuild, if_neg hstate]
  exact ⟨rfl, trivial, rfl⟩

/-- The report is as it should be. -/
theorem report_eq : c.report st = c.shows st.modifier := by
  unfold shows
  cases h : c.pressed with
  | true => exact (cmdKeyBuild_press h).2.2
  | false => exact (cmdKeyBuild_release h).2.2

/-- What it builds is a key report. -/
theorem report_eq_keyReport : ∃ m k, c.report st = keyReport m k := by
  rw [report_eq, shows]
  split
  · exact ⟨_, _, rfl⟩
  · exact ⟨_, _, rfl⟩

/-- A release always builds one. -/
theorem builds_of_release (h : c.pressed = false) : c.Builds := by
  intro hpressed
  rw [h] at hpressed
  exact absurd hpressed Bool.false_ne_true

/-- It builds one unless the key is skipped. -/
theorem builds_iff : c.Builds ↔ (cmdKeyBuild st c.cmdBuf).skip = false := by
  cases h : c.pressed with
  | true =>
      rw [(cmdKeyBuild_press h).2.1, decide_eq_false_iff_not, not_or]
      exact forall_prop_of_true h
  | false => exact iff_of_true (c.builds_of_release h) (cmdKeyBuild_release h).2.1

/-- What a `CMD_KEY` does. It builds no report; or it leaves the report out, since its
checksum is the last one; or it makes one attempt to send it, and notes the checksum of a
report that is accepted. -/
theorem handle_cases :
    (¬ c.Builds ∧ c.calls st = [] ∧ (c.handle st).state.lastCrc = st.lastCrc) ∨
    (c.Builds ∧ st.lastCrc = reportCrc (c.report st) ∧ c.calls st = [] ∧
      (c.handle st).state.lastCrc = st.lastCrc) ∨
    (c.Builds ∧ st.lastCrc ≠ reportCrc (c.report st) ∧ ∃ failed sent,
      c.calls st = attempt .hidKbIf (c.report st) failed sent ∧
      (c.handle st).state.lastCrc = (if sent then reportCrc (c.report st) else 0) ∧
      (sent = true ↔ c.Sends) ∧ failed ≤ 3 ∧ (sent = false → failed = 3)) := by
  obtain ⟨code, hstate⟩ := c.handle_state st
  rw [commandSwitch_eq] at hstate
  rw [calls, Command.handle_reportIns, commandSwitch_eq, hstate, builds_iff st c]
  have hcrc : crc16 ((cmdKeyBuild st c.cmdBuf).hidRpt.drop (1 - HID_KB_MS_COMB))
      HID_KB_REPORT_BYTE = reportCrc (c.report st) := crc16_eq_reportCrc _
  simp only [cmdKey, hcrc]
  -- The two tests of the code: `skip`, and the checksum of the last report.
  cases hskip : (cmdKeyBuild st c.cmdBuf).skip with
  | true => exact Or.inl ⟨by decide, rfl, rfl⟩
  | false =>
      refine Or.inr ?_
      by_cases hlast : st.lastCrc = reportCrc (c.report st)
      · simp only [if_pos hlast, Bool.false_eq_true, if_false]
        exact Or.inl ⟨trivial, hlast, trivial, trivial⟩
      · obtain ⟨failed, sent, hcalls, hsent, htry⟩ := sendHidReport_calls c.env.reportIn
          .hidKbIf ((cmdKeyBuild st c.cmdBuf).hidRpt.drop (1 - HID_KB_MS_COMB))
          (show HID_KB_REPORT_BYTE ≠ 0 by decide) 3
        simp only [if_neg hlast, Bool.false_eq_true, if_false, hsent]
        exact Or.inr ⟨trivial, hlast, failed, sent, hcalls, rfl, htry⟩

/-- A `CMD_KEY` leaves the statics of the mouse alone. -/
theorem handle_frame :
    (c.handle st).state.modifier = (cmdKeyBuild st c.cmdBuf).modifier ∧
      (c.handle st).state.posx = st.posx ∧ (c.handle st).state.posy = st.posy ∧
      (c.handle st).state.button = st.button := by
  obtain ⟨code, hstate⟩ := c.handle_state st
  rw [hstate, c.commandSwitch_eq]
  simp only [cmdKey]
  split
  · exact ⟨rfl, rfl, rfl, rfl⟩
  · split
    · exact ⟨rfl, rfl, rfl, rfl⟩
    · exact ⟨rfl, rfl, rfl, rfl⟩

end KeyCommand

/-! ### The checksum of the last report -/

/-- The checksum of the last call's report, if that was accepted, and 0 otherwise. -/
def sentCrc (calls : List ReportIn) : U16 :=
  match calls.getLast? with
  | some call => if call.ok then reportCrc call.report else 0
  | none      => 0

/-- `last_crc` stands for the last of the keyboard calls, and all of them had keyboard
reports. -/
structure FilterInv (st : KvmState) (calls : List ReportIn) : Prop where
  lastCrc_eq : st.lastCrc = sentCrc calls
  report_eq : ∀ call ∈ calls, ∃ m k, call.report = keyReport m k

section
variable {st : KvmState} {calls : List ReportIn}

/-- A `CMD_KEY` keeps it. -/
theorem FilterInv.handle (h : FilterInv st calls) (i : KeyCommand) :
    FilterInv (i.handle st).state (calls ++ i.calls st) := by
  -- Without a call nothing changes that the invariant speaks of.
  have silent : i.calls st = [] → (i.handle st).state.lastCrc = st.lastCrc →
      FilterInv (i.handle st).state (calls ++ i.calls st) := by
    intro hnone hlast
    rw [hnone, List.append_nil]
    exact ⟨hlast.trans h.lastCrc_eq, h.report_eq⟩
  rcases i.handle_cases st with ⟨-, hnone, hlast⟩ | ⟨-, -, hnone, hlast⟩ |
    ⟨-, -, failed, sent, hattempt, hlast, -⟩
  · exact silent hnone hlast
  · exact silent hnone hlast
  · -- The last call of the attempt is the last call now.
    rw [hattempt]
    refine ⟨?_, ?_⟩
    · rw [hlast, sentCrc, getLast?_attempt]
    · intro call hmem
      rcases List.mem_append.mp hmem with hold | hnew
      · exact h.report_eq call hold
      · rw [report_of_mem_attempt _ _ _ _ hnew]
        exact i.report_eq_keyReport st

/-- A checksum that is not 0 is that of the last call's report, and the call was
accepted. -/
theorem sentCrc_eq_iff {crc : U16} (hcrc : crc ≠ 0) :
    sentCrc calls = crc ↔
      ∃ call ∈ calls.getLast?, call.ok = true ∧ reportCrc call.report = crc := by
  unfold sentCrc
  cases hcall : calls.getLast? with
  | none => exact iff_of_false hcrc.symm (by simp)
  | some call =>
      simp only [Option.mem_def, Option.some_inj, exists_eq_left']
      cases call.ok with
      | false => simpa using hcrc.symm
      | true => simp

/-- A report makes no call exactly if it is the last call's, which was accepted, or an alias
of that. -/
theorem FilterInv.calls_eq_nil_iff (h : FilterInv st calls) {i : KeyCommand}
    (hbuild : i.Builds) : i.calls st = [] ↔ ∃ call ∈ calls.getLast?, call.ok = true ∧
      (call.report = i.report st ∨ Alias call.report (i.report st)) := by
  obtain ⟨m, k, hreport⟩ := i.report_eq_keyReport st
  have hnone : i.calls st = [] ↔ st.lastCrc = reportCrc (i.report st) := by
    rcases i.handle_cases st with ⟨hno, -⟩ | ⟨-, hcrc, hnone, -⟩ |
      ⟨-, hne, failed, sent, hcalls, -⟩
    · exact absurd hbuild hno
    · exact iff_of_true hnone hcrc
    · rw [hcalls]
      exact iff_of_false (attempt_ne_nil _ _ _ _) hne
  have hcrc : reportCrc (i.report st) ≠ 0 := by
    rw [hreport]
    exact reportCrc_ne_zero m k
  rw [hnone, h.lastCrc_eq, sentCrc_eq_iff hcrc]
  -- Equal checksums are equal reports or aliases.
  refine exists_congr fun call => and_congr_right fun hcall => and_congr_right fun _ => ?_
  obtain ⟨m', k', hlast⟩ := h.report_eq call (List.mem_of_getLast? hcall)
  rw [hlast, hreport]
  exact reportCrc_eq_iff m' k' m k

end

/-- `last_crc` stands for the last call, and all calls had keyboard reports. -/
structure KeyboardInv (c : KvmState × Trace KeyCommand) : Prop where
  lastCrc_eq : c.1.lastCrc = sentCrc c.2.calls
  report_eq : ∀ call ∈ c.2.calls, ∃ m k, call.report = keyReport m k

/-- The invariant holds at the start. -/
theorem keyboardInv_reset : KeyboardInv reset := ⟨rfl, nofun⟩

/-- It contains the filter's invariant. -/
theorem KeyboardInv.filter {c : KvmState × Trace KeyCommand} (h : KeyboardInv c) :
    FilterInv c.1 c.2.calls := ⟨h.lastCrc_eq, h.report_eq⟩

/-- Every command keeps it. -/
theorem keyboardInv_next (c : KvmState × Trace KeyCommand) (i : KeyCommand)
    (h : KeyboardInv c) : KeyboardInv (keyboard.next c i) := by
  have hcalls : Trace.calls (keyboard.next c i).2 = c.2.calls ++ i.calls c.1 :=
    calls_next _ c i
  have hfilter := h.filter.handle i
  rw [← hcalls] at hfilter
  exact ⟨hfilter.lastCrc_eq, hfilter.report_eq⟩

/-! ### Suppression -/

/-- A report is no alias of itself. -/
theorem not_alias_self (r : List U8) : ¬ Alias r r := fun h => h.1 BitVec.xor_self

section
variable {c : KvmState × Trace KeyCommand} {i : KeyCommand}

/-- Where suppression is sound no key is stuck. -/
theorem noStuckKey_of_suppressionSound (h : SuppressionSound c i) : NoStuckKey c i := by
  intro hrelease hsent
  have hbuild := i.builds_of_release hrelease
  have hreport : i.report c.1 = keyReport 0 0 := by
    rw [i.report_eq, KeyCommand.shows, hrelease]
    rfl
  rw [← hreport]
  rcases hsent with hnone | ⟨call, hmem, hok⟩
  · rw [hnone, List.append_nil]
    exact h hbuild hnone
  · rcases i.handle_cases c.1 with ⟨-, hnone, -⟩ | ⟨-, -, hnone, -⟩ |
      ⟨-, -, failed, sent, hcalls, -⟩
    · rw [hnone] at hmem
      exact absurd hmem List.not_mem_nil
    · rw [hnone] at hmem
      exact absurd hmem List.not_mem_nil
    · rw [hcalls] at hmem ⊢
      rw [lastAccepted_attempt, if_pos (sent_of_mem_attempt _ _ _ _ hmem hok)]

/-- The two laws and the condition agree at every step of a run from reset. -/
theorem suppressionSound_iff (h : KeyboardInv c) :
    SuppressionSound c i ∧ NoStuckKey c i ↔ NoAlias c i := by
  constructor
  · -- An alias is left out, so it would have to be the report before it.
    rintro ⟨hsound, -⟩ hbuild call hcall hok halias
    rw [← i.report_eq] at halias
    have hlast := hsound hbuild
      ((h.filter.calls_eq_nil_iff hbuild).mpr ⟨call, hcall, hok, Or.inr halias⟩)
    rw [lastAccepted_of_getLast? hcall hok, Option.some_inj] at hlast
    rw [hlast] at halias
    exact not_alias_self _ halias
  · intro hno
    have hsound : SuppressionSound c i := by
      intro hbuild hnone
      obtain ⟨call, hcall, hok, hreport | halias⟩ :=
        (h.filter.calls_eq_nil_iff hbuild).mp hnone
      · rw [lastAccepted_of_getLast? hcall hok, hreport]
      · rw [i.report_eq] at halias
        exact absurd halias (hno hbuild call hcall hok)
    exact ⟨hsound, noStuckKey_of_suppressionSound hsound⟩

end

/-- In a run of `CMD_KEY` from reset, with any outcomes of the calls, only reports that the
USB host has already are left out, and a release leaves no key stuck, exactly if no command
builds an alias of the accepted report before it. -/
theorem suppression_iff (cmds : List KeyCommand) :
    keyboard.Meets (fun c i => SuppressionSound c i ∧ NoStuckKey c i) reset cmds ↔
      keyboard.Meets NoAlias reset cmds :=
  keyboard.meets_congr (I := KeyboardInv) (fun c i h _ => keyboardInv_next c i h)
    (fun _ _ h => suppressionSound_iff h) keyboardInv_reset

/-- Left Alt, left GUI and B go down, and B is released: the release is left out, and the
USB host is left with B and both modifiers down. -/
theorem alias_stuck_key :
    let env : HandlerEnv := ⟨.zero, fun _ => true⟩
    let presses := [KeyCommand.ofCode env 79 1, .ofCode env 80 1, .ofCode env 2 1]
    let release := KeyCommand.ofCode env 2 0
    let c := keyboard.exec reset presses
    release.pressed = false ∧ release.Builds ∧ release.calls c.1 = [] ∧
      lastAccepted (Trace.calls c.2) = some (keyReport 0x0C KEY_B) ∧
      ¬ (SuppressionSound c release ∧ NoStuckKey c release) := by
  intro env presses release c
  have hlast : lastAccepted (Trace.calls c.2) = some (keyReport 0x0C KEY_B) := by decide +kernel
  have hnone : release.calls c.1 = [] := by decide +kernel
  have hpressed : release.pressed = false := by decide +kernel
  have hbuild : release.Builds := by decide +kernel
  refine ⟨hpressed, hbuild, hnone, hlast, ?_⟩
  rintro ⟨-, hstuck⟩
  have hempty := hstuck hpressed (Or.inl hnone)
  rw [hnone, List.append_nil, hlast] at hempty
  exact absurd hempty (by decide)

end PikvmHid
