import PikvmHid.Proofs.Calls
import PikvmHid.Proofs.HeldKeys
import PikvmHid.Spec.ClearHid

/-!
# `PikvmHid.Proofs.ClearHid`: `CMD_CLEAR_HID` clears nothing

`handle_pikvm_command` answers a `CMD_CLEAR_HID` and does nothing else: it sends no report
and keeps `modifier` and `button` (`Call.handle_clear`). A run from statics without modifiers
and buttons names only what is pressed in it (`onlyPressedAgain_run`). Leftovers show: the
press of a key carries the modifiers, and a `CMD_MOVE` the buttons.

So `clears_hid_iff`: the clear does what it is for exactly if nothing was held when it came.
After `clear_keeps_shift` left Shift, A and a mouse button are still down.
-/

set_option autoImplicit false

namespace PikvmHid

open Lib

/-! ### The command -/

/-- A `CMD_CLEAR_HID` sends nothing and keeps the statics. -/
theorem Call.handle_clear (st : KvmState) {c : Call} (h : c.IsClear) :
    (c.handle st).reportIns = [] ∧ ∃ code, (c.handle st).state = { st with prevCode := code } := by
  refine c.handle_quiet st ?_ ?_
  · rintro ⟨-, hcode⟩
    exact absurd (h.2.symm.trans hcode) (by decide)
  · rintro ⟨-, hcode | hcode | hcode⟩
    · exact absurd (h.2.symm.trans hcode) (by decide)
    · exact absurd (h.2.symm.trans hcode) (by decide)
    · exact absurd (h.2.symm.trans hcode) (by decide)

/-- `CMD_CLEAR_HID` sends no report. -/
theorem reports_clear (c : KvmState × CallTrace Call) {clear : Call} (h : clear.IsClear)
    (itf : HidIf) : CallTrace.reports itf (pikvm.next c clear).2 = CallTrace.reports itf c.2 := by
  rw [reports_next, HandlerOut.reports, (clear.handle_clear c.1 h).1]
  exact List.append_nil _

/-! ### What a report names -/

/-- A `CMD_KEY` sends the report it builds. -/
theorem KeyCommand.report_of_mem_calls {st : KvmState} {c : KeyCommand} {call : ReportIn}
    (h : call ∈ c.calls st) : call.report = c.shows st.modifier := by
  rw [← c.report_eq]
  rcases c.handle_cases st with ⟨-, hnone, -⟩ | ⟨-, -, hnone, -⟩ |
    ⟨-, -, failed, sent, hcalls, -⟩
  · rw [hnone] at h
    exact absurd h List.not_mem_nil
  · rw [hnone] at h
    exact absurd h List.not_mem_nil
  · rw [hcalls] at h
    exact report_of_mem_attempt _ _ _ _ h

/-! ### Runs from empty statics -/

/-- The statics name only modifiers and buttons that the run has pressed. -/
structure PressedInv (c : KvmState × CallTrace Call) : Prop where
  modifiers : ∀ j < 8, c.1.modifier.getLsbD j = true → ∃ d ∈ c.2.commands, d.PressesModifier j
  buttons : ∀ j < 8, c.1.button.getLsbD j = true → ∃ d ∈ c.2.commands, d.PressesButton j

/-- What was pressed before one more call was pressed. -/
theorem exists_mem_concat {P : Call → Prop} {cmds : List Call} (i : Call)
    (h : ∃ d ∈ cmds, P d) : ∃ d ∈ cmds ++ [i], P d := by
  obtain ⟨d, hmem, hd⟩ := h
  exact ⟨d, List.mem_append_left _ hmem, hd⟩

/-- Every call keeps the invariant. -/
theorem pressedInv_next (c : KvmState × CallTrace Call) (i : Call) (h : PressedInv c) :
    PressedInv (pikvm.next c i) := by
  have hstate : (pikvm.next c i).1 = (i.handle c.1).state := rfl
  have hmem : i ∈ c.2.commands ++ [i] := List.mem_append_right _ (List.mem_singleton_self i)
  by_cases hkey : i.IsKey
  · have hbutton : (i.handle c.1).state.button = c.1.button := by
      rw [i.handle_key c.1 hkey]
      exact ((i.toKey hkey).handle_frame c.1).2.2.2
    refine ⟨?_, ?_⟩ <;> rw [hstate, commands_pikvm_next]
    · -- The bit of the call's own key is what the call says, the other bits stay.
      intro j hj hbit
      rw [i.handle_key c.1 hkey, getLsbD_modifier_handle c.1 (i.toKey hkey) hj] at hbit
      by_cases hown : (i.toKey hkey).code = modifierCode j
      · rw [if_pos hown] at hbit
        exact ⟨i, hmem, hkey, hown, of_decide_eq_true hbit⟩
      · rw [if_neg hown] at hbit
        exact exists_mem_concat i (h.modifiers j hj hbit)
    · intro j hj hbit
      rw [hbutton] at hbit
      exact exists_mem_concat i (h.buttons j hj hbit)
  by_cases hmouse : i.IsMouse
  · have hmodifier : (i.handle c.1).state.modifier = c.1.modifier := by
      rw [i.handle_mouse c.1 hmouse]
      exact ((i.toMouse hmouse).handle_frame c.1).1
    refine ⟨?_, ?_⟩ <;> rw [hstate, commands_pikvm_next]
    · intro j hj hbit
      rw [hmodifier] at hbit
      exact exists_mem_concat i (h.modifiers j hj hbit)
    · intro j hj hbit
      obtain ⟨-, -, -, -, hbutton⟩ := (i.toMouse hmouse).handle_frame c.1
      have hcode : (i.toMouse hmouse).code = i.code := rfl
      rw [i.handle_mouse c.1 hmouse, hbutton, MouseCommand.moved_button, hcode] at hbit
      rcases hmouse.2 with hi | hi | hi
      · rw [hi, if_neg (by decide), if_pos rfl] at hbit
        exact exists_mem_concat i (h.buttons j hj hbit)
      · rw [hi, if_neg (by decide), if_neg (by decide)] at hbit
        exact ⟨i, hmem, hmouse.1, hi, hbit⟩
      · rw [if_pos hi] at hbit
        exact absurd (BitVec.getLsbD_zero.symm.trans hbit) Bool.false_ne_true
  · obtain ⟨-, code, heq⟩ := i.handle_quiet c.1 hkey hmouse
    refine ⟨?_, ?_⟩ <;> rw [hstate, commands_pikvm_next, heq]
    · exact fun j hj hbit => exists_mem_concat i (h.modifiers j hj hbit)
    · exact fun j hj hbit => exists_mem_concat i (h.buttons j hj hbit)

/-- With such statics a call names only what was pressed. -/
theorem onlyPressedAgain_of_inv (c : KvmState × CallTrace Call) (i : Call)
    (h : PressedInv c) : OnlyPressedAgain c i where
  modifiers := by
    intro call hmem j hj hbit
    by_cases hkey : i.IsKey
    · rw [i.handle_key c.1 hkey, KeyCommand.handle_reports, if_pos rfl] at hmem
      rw [KeyCommand.report_of_mem_calls hmem, KeyCommand.shows] at hbit
      split at hbit
      · exact exists_mem_concat i (h.modifiers j hj hbit)
      · exact absurd (BitVec.getLsbD_zero.symm.trans hbit) Bool.false_ne_true
    · by_cases hmouse : i.IsMouse
      · rw [i.handle_mouse c.1 hmouse, MouseCommand.handle_reports, if_neg (by decide)] at hmem
        exact absurd hmem List.not_mem_nil
      · rw [HandlerOut.reports, (i.handle_quiet c.1 hkey hmouse).1] at hmem
        exact absurd hmem List.not_mem_nil
  buttons := by
    intro call hmem j hj hbit
    by_cases hmouse : i.IsMouse
    · -- The report names the buttons that are left in `button`.
      obtain ⟨failed, sent, hcalls⟩ := (i.toMouse hmouse).calls_eq c.1
      obtain ⟨-, -, -, -, hbutton⟩ := (i.toMouse hmouse).handle_frame c.1
      rw [i.handle_mouse c.1 hmouse, MouseCommand.handle_reports, if_pos rfl, hcalls] at hmem
      rw [report_of_mem_attempt _ _ _ _ hmem, MouseCommand.reportButton_reported, ← hbutton,
        ← i.handle_mouse c.1 hmouse] at hbit
      obtain ⟨d, hd, hpress⟩ := (pressedInv_next c i h).buttons j hj hbit
      rw [commands_pikvm_next] at hd
      exact ⟨d, hd, hpress⟩
    · by_cases hkey : i.IsKey
      · rw [i.handle_key c.1 hkey, KeyCommand.handle_reports, if_neg (by decide)] at hmem
        exact absurd hmem List.not_mem_nil
      · rw [HandlerOut.reports, (i.handle_quiet c.1 hkey hmouse).1] at hmem
        exact absurd hmem List.not_mem_nil

/-- A run from statics without modifiers and buttons names only what is pressed in it,
whatever the outcomes of its calls are. -/
theorem onlyPressedAgain_run {st : KvmState} (hmodifier : st.modifier = 0)
    (hbutton : st.button = 0) (after : List Call) :
    pikvm.Meets OnlyPressedAgain (st, []) after := by
  have hempty : ∀ {b : U8}, b = 0 → ∀ j, ¬ b.getLsbD j = true := by
    rintro b rfl j hbit
    exact absurd (BitVec.getLsbD_zero.symm.trans hbit) Bool.false_ne_true
  refine pikvm.meets_of_invariant pressedInv_next onlyPressedAgain_of_inv ⟨?_, ?_⟩ after
  · exact fun j _ hbit => absurd hbit (hempty hmodifier j)
  · exact fun j _ hbit => absurd hbit (hempty hbutton j)

/-! ### Leftovers show -/

/-- A byte that is not zero has a bit. -/
theorem exists_getLsbD_of_ne_zero {b : U8} (h : b ≠ 0) : ∃ j < 8, b.getLsbD j = true := by
  by_contra hno
  refine h (BitVec.eq_of_getLsbD_eq fun j hj => ?_)
  rw [show (0 : U8).getLsbD j = false from BitVec.getLsbD_zero, Bool.eq_false_iff]
  exact fun hbit => hno ⟨j, hj, hbit⟩

/-- The press of A and a `CMD_MOVE`, with sends that succeed. -/
def pressA : KeyCommand := .ofCode ⟨.zero, fun _ => true⟩ 1 1

def moveToCorner : MouseCommand := .ofCode ⟨.zero, fun _ => true⟩ CMD_MOVE 0x80 0 0x80 0 (by decide)

/-- The report of the key A is not mistaken for an empty one. -/
theorem not_alias_pressA (modifier : U8) :
    ¬ Alias (keyReport 0 0) (keyReport modifier KEY_A) := by
  revert modifier
  decide +kernel

/-- The press of A is sent if the host has the empty report, and carries the modifiers. -/
theorem modifier_eq_zero {c : KvmState × CallTrace Call}
    (hfilter : FilterInv c.1 (CallTrace.reports .hidKbIf c.2))
    (hhost : ∀ r ∈ lastAccepted (CallTrace.reports .hidKbIf c.2), r = keyReport 0 0)
    (honly : OnlyPressedAgain (c.1, []) pressA.call) : c.1.modifier = 0 := by
  by_contra hne
  have hbuild : pressA.Builds := by decide +kernel
  have hreport : pressA.report c.1 = keyReport c.1.modifier KEY_A := pressA.report_eq c.1
  have hcalls : pressA.calls c.1 ≠ [] := by
    intro hnone
    obtain ⟨call, hlast, hok, hsame⟩ := (hfilter.calls_eq_nil_iff hbuild).mp hnone
    have hempty : call.report = keyReport 0 0 := hhost _ (lastAccepted_of_getLast? hlast hok)
    rw [hempty, hreport] at hsame
    rcases hsame with hsame | halias
    · exact absurd (keyReport_inj hsame).2 (by decide)
    · exact not_alias_pressA _ halias
  obtain ⟨call, hmem⟩ := List.exists_mem_of_ne_nil _ hcalls
  obtain ⟨j, hj, hbit⟩ := exists_getLsbD_of_ne_zero hne
  -- The bit of a modifier in the report, and only A was pressed.
  have hmem' : call ∈ (pressA.call.handle c.1).reports .hidKbIf := by
    show call ∈ (pressA.handle c.1).reports .hidKbIf
    rwa [KeyCommand.handle_reports, if_pos rfl]
  have hbit' : (call.report.getD 0 0).getLsbD j = true := by
    rw [KeyCommand.report_of_mem_calls hmem]
    exact hbit
  obtain ⟨d, hd, -, hcode, -⟩ := honly.modifiers call hmem' j hj hbit'
  rw [List.mem_singleton.mp hd] at hcode
  have hcodes : ∀ j < 8, (1 : U8) ≠ modifierCode j := by decide
  exact hcodes j hj hcode

/-- A `CMD_MOVE` carries the buttons. -/
theorem button_eq_zero {st : KvmState} (honly : OnlyPressedAgain (st, []) moveToCorner.call) :
    st.button = 0 := by
  by_contra hne
  obtain ⟨j, hj, hbit⟩ := exists_getLsbD_of_ne_zero hne
  obtain ⟨failed, sent, hcalls⟩ := moveToCorner.calls_eq st
  have hmem : ⟨.hidMsIf, moveToCorner.reported st, sent⟩
      ∈ (moveToCorner.call.handle st).reports .hidMsIf := by
    show _ ∈ (moveToCorner.toCommand.handle st).reports .hidMsIf
    rw [MouseCommand.handle_reports, if_pos rfl, hcalls]
    exact last_mem_attempt _ _ _ _
  obtain ⟨d, hd, -, hcode, -⟩ := honly.buttons _ hmem j hj hbit
  rw [List.mem_singleton.mp hd] at hcode
  exact absurd hcode (by decide)

/-- In every state that a run reaches, with any outcomes of its calls, a `CMD_CLEAR_HID`
leaves nothing in effect exactly if nothing was. -/
theorem clears_hid_iff (before : List Call) (clear : Call) (hclear : clear.IsClear) :
    ClearsHid (pikvm.exec start before) clear ↔ NothingHeld (pikvm.exec start before) := by
  have hreports := reports_clear (pikvm.exec start before) hclear
  obtain ⟨-, code, hstate⟩ := clear.handle_clear (pikvm.exec start before).1 hclear
  -- The statics behind the clear are those before it.
  have hkept : (pikvm.next (pikvm.exec start before) clear).1.modifier
        = (pikvm.exec start before).1.modifier ∧
      (pikvm.next (pikvm.exec start before) clear).1.button
        = (pikvm.exec start before).1.button := by
    show (clear.handle _).state.modifier = _ ∧ (clear.handle _).state.button = _
    rw [hstate]
    exact ⟨rfl, rfl⟩
  constructor
  · rintro ⟨hkeyboard, hmouse, hlater⟩
    have hfilter := filterInv_next _ clear (filterInv_run before)
    have hpress := hlater [pressA.call] (by
      rw [List.forall_mem_singleton]
      exact fun _ => rfl)
    have hmove := hlater [moveToCorner.call] (by
      rw [List.forall_mem_singleton]
      exact fun _ => rfl)
    refine ⟨?_, ?_, ?_, ?_⟩
    · rw [← hkept.1]
      exact modifier_eq_zero hfilter hkeyboard hpress.1
    · rw [← hkept.2]
      exact button_eq_zero hmove.1
    · rwa [hreports] at hkeyboard
    · rwa [hreports] at hmouse
  · rintro ⟨hmodifier, hbutton, hkeyboard, hmouse⟩
    refine ⟨?_, ?_, fun after _ => ?_⟩
    · rwa [hreports]
    · rwa [hreports]
    · exact onlyPressedAgain_run (hkept.1.trans hmodifier) (hkept.2.trans hbutton) after

/-- The frame of a `CMD_CLEAR_HID`. -/
def clearHid : Command := .ofBytes ⟨.zero, fun _ => true⟩ CMD_CLEAR_HID 0 0 0 0

/-- A goes down and up, and nothing is held. -/
theorem clears_hid_after_release :
    let release := KeyCommand.ofCode ⟨.zero, fun _ => true⟩ 1 0
    ClearsHid (pikvm.exec start [pressA.call, release.call]) clearHid.call := by
  intro release
  refine (clears_hid_iff [pressA.call, release.call] clearHid.call (by decide +kernel)).mpr ?_
  exact ⟨by decide +kernel, by decide +kernel, by decide +kernel, by decide +kernel⟩

/-- Left Shift, A and the left button go down, and every send succeeds. The `CMD_CLEAR_HID`
is answered with a PONG, the host is left with all three down, and the next key goes out with
left Shift. -/
theorem clear_keeps_shift :
    let env : HandlerEnv := ⟨.zero, fun _ => true⟩
    let before := [(KeyCommand.ofCode env 78 1).call, pressA.call,
      (MouseCommand.ofCode env CMD_BUTTON 0x08 0 0 0 (by decide)).call]
    let c := pikvm.next (pikvm.exec start before) clearHid.call
    let press := KeyCommand.ofCode env 2 1
    (∀ d ∈ before, d.AllSent) ∧
      (clearHid.handle (pikvm.exec start before).1).response.getD 1 0 &&& PONG_OK ≠ 0 ∧
      lastAccepted (CallTrace.reports .hidKbIf c.2) = some (keyReport 0x02 KEY_A) ∧
      (lastAccepted (CallTrace.reports .hidMsIf c.2)).map reportButton = some 1 ∧
      press.calls c.1 = [⟨.hidKbIf, keyReport 0x02 KEY_B, true⟩] ∧
      ¬ ClearsHid (pikvm.exec start before) clearHid.call := by
  intro env before c press
  have hhost : lastAccepted (CallTrace.reports .hidKbIf c.2) = some (keyReport 0x02 KEY_A) := by
    decide +kernel
  refine ⟨?_, by decide +kernel, hhost, by decide +kernel, by decide +kernel, ?_⟩
  · simp only [before, List.forall_mem_cons]
    exact ⟨fun _ => rfl, fun _ => rfl, fun _ => rfl, nofun⟩
  · rintro ⟨hkeyboard, -, -⟩
    exact absurd (hkeyboard _ hhost) (by decide)

end PikvmHid
