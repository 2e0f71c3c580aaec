import PikvmHid.Proofs.Keyboard

/-!
# `PikvmHid.Proofs.HeldKeys`: the keyboard the USB host sees

The device keeps the modifier keys that are down (`isHeldModifiers_next`) and nothing else
of the history. When every report is sent, what the USB host sees after a command is
`lastAccepted_next`: the new report, or what it saw before. So `shows_latest`: it sees the
modifiers and the key of the latest press, or nothing since the latest release.

A press of a second key takes the first one out of the report, and a release of any key
takes out all of them: `second_key_replaces_first`.
-/

set_option autoImplicit false

namespace PikvmHid

open Lib

/-! ### Held keys -/

/-- One more command decides for its own key. -/
theorem held_concat (cmds : List KeyCommand) (c : KeyCommand) (code : U8) :
    held (cmds ++ [c]) code = if c.code = code then c.pressed else held cmds code := by
  unfold held
  rw [getLast?_filter_concat]
  by_cases h : c.code = code
  · rw [if_pos (decide_eq_true h), if_pos h]
    rfl
  · rw [if_neg (by simpa using h), if_neg h]

/-- The key codes of the modifier keys. -/
theorem isModifier_iff (code : U8) :
    IsModifier (keyMapUsb code) ↔ ∃ i < 8, code = modifierCode i := by
  revert code
  decide +kernel

/-- The modifier keys have the eight bits of the modifier byte, in their order. -/
theorem modifierBit_modifierCode :
    ∀ i < 8, modifierBit (keyMapUsb (modifierCode i)) = BitVec.twoPow 8 i := by
  decide +kernel

/-- The eight modifiers have different codes. -/
theorem modifierCode_inj : ∀ i < 8, ∀ j < 8, modifierCode i = modifierCode j → i = j := by
  decide +kernel

/-- A command changes the bit of its own key. -/
theorem getLsbD_modifier_handle (st : KvmState) (c : KeyCommand) {j : Nat} (hj : j < 8) :
    (c.handle st).state.modifier.getLsbD j
      = if c.code = modifierCode j then c.pressed else st.modifier.getLsbD j := by
  rw [(c.handle_frame st).1]
  by_cases hmod : IsModifier c.key
  · -- A modifier key: its bit is set or cleared, the other bits stay.
    obtain ⟨i, hi, hcode⟩ := (isModifier_iff c.code).mp hmod
    have hbit : modifierBit c.key = BitVec.twoPow 8 i := by
      rw [KeyCommand.key, hcode, modifierBit_modifierCode i hi]
    have hsame : c.code = modifierCode j ↔ i = j := by
      rw [hcode]
      exact ⟨modifierCode_inj i hi j hj, congrArg modifierCode⟩
    simp only [hsame]
    cases hpressed : c.pressed with
    | true =>
        rw [(KeyCommand.cmdKeyBuild_press hpressed).1, if_pos hmod, hbit, BitVec.getLsbD_or,
          BitVec.getLsbD_twoPow]
        by_cases hij : i = j
        · simp [hij, hj]
        · simp [hij]
    | false =>
        rw [(KeyCommand.cmdKeyBuild_release hpressed).1, if_pos hmod, hbit, BitVec.getLsbD_and,
          BitVec.getLsbD_not, BitVec.getLsbD_twoPow]
        by_cases hij : i = j
        · simp [hij, hj]
        · simp [hij, hj]
  · -- Another key: no bit is its own.
    have hne : c.code ≠ modifierCode j := fun h => hmod ((isModifier_iff c.code).mpr ⟨j, hj, h⟩)
    rw [if_neg hne]
    cases hpressed : c.pressed with
    | true => rw [(KeyCommand.cmdKeyBuild_press hpressed).1, if_neg hmod]
    | false => rw [(KeyCommand.cmdKeyBuild_release hpressed).1, if_neg hmod]

/-- The device keeps the modifier keys that are down. -/
theorem isHeldModifiers_next (c : KvmState × Trace KeyCommand) (i : KeyCommand)
    (h : IsHeldModifiers c.2.commands c.1.modifier) :
    IsHeldModifiers (Trace.commands (keyboard.next c i).2) (keyboard.next c i).1.modifier := by
  intro j hj
  rw [commands_next, held_concat, ← h j hj]
  exact getLsbD_modifier_handle c.1 i hj

/-! ### What the USB host sees -/

/-- With an accepted send and no alias, what the USB host sees after the command is its
report, if it builds one. -/
theorem lastAccepted_next {c : KvmState × Trace KeyCommand} {i : KeyCommand}
    (h : KeyboardInv c) (hsends : i.Sends) (hno : NoAlias c i) :
    lastAccepted (Trace.calls (keyboard.next c i).2)
      = if i.Builds then some (i.shows c.1.modifier) else lastAccepted c.2.calls := by
  have hcalls : Trace.calls (keyboard.next c i).2 = c.2.calls ++ i.calls c.1 :=
    calls_next _ c i
  rw [hcalls]
  rcases i.handle_cases c.1 with ⟨hbuild, hnone, -⟩ | ⟨hbuild, -, hnone, -⟩ |
    ⟨hbuild, -, failed, sent, hattempt, -, hsent, -⟩
  · rw [if_neg hbuild, hnone, List.append_nil]
  · -- Left out: without an alias the host has this report already.
    rw [if_pos hbuild, hnone, List.append_nil, ← i.report_eq]
    exact ((suppressionSound_iff h).mpr hno).1 hbuild hnone
  · rw [if_pos hbuild, hattempt, lastAccepted_attempt, if_pos (hsent.mpr hsends), i.report_eq]

/-- A report shows its modifiers and its key. -/
theorem keyReport_inj {m k m' k' : U8} (h : keyReport m k = keyReport m' k') :
    m = m' ∧ k = k' := by
  simpa [keyReport] using h

/-- A command that builds no report is a press, so no key goes up. -/
theorem held_concat_of_not_builds {cmds : List KeyCommand} {c : KeyCommand}
    (h : ¬ c.Builds) {code : U8} (hheld : held cmds code = true) :
    held (cmds ++ [c]) code = true := by
  have hpressed : c.pressed = true := by
    cases hp : c.pressed with
    | true => rfl
    | false => exact absurd (c.builds_of_release hp) h
  rw [held_concat, hpressed, hheld, ite_self]

/-- An element of a list that got longer by one is the new one, or it was there before. -/
theorem concat_eq_append_cons {α : Type} {l before after : List α} {x y : α}
    (h : l ++ [x] = before ++ y :: after) :
    (after = [] ∧ before = l ∧ y = x) ∨
      ∃ front, after = front ++ [x] ∧ l = before ++ y :: front := by
  rcases List.eq_nil_or_concat after with rfl | ⟨front, last, rfl⟩
  · obtain ⟨hl, hxy⟩ := List.append_inj' h rfl
    exact Or.inl ⟨rfl, hl.symm, (List.cons.inj hxy).1.symm⟩
  · rw [List.concat_eq_append, ← List.cons_append, ← List.append_assoc] at h
    obtain ⟨hl, hx⟩ := List.append_inj' h rfl
    obtain rfl := (List.cons.inj hx).1
    exact Or.inr ⟨front, List.concat_eq_append, hl⟩

/-- A command that builds a report: the USB host sees that one. -/
theorem showsLatest_concat_builds {cmds : List KeyCommand} {c : KeyCommand} {modifier : U8}
    (hmod : IsHeldModifiers cmds modifier) (hbuild : c.Builds) :
    ShowsLatest (cmds ++ [c]) (some (c.shows modifier)) where
  none := by
    intro hall
    exact absurd hbuild (hall c (List.mem_append_right _ (List.mem_singleton_self c)))
  latest := by
    intro before d after hsplit hd hafter
    -- Nothing behind the latest command builds, so the latest command is the new one.
    rcases concat_eq_append_cons hsplit with ⟨-, rfl, rfl⟩ | ⟨front, rfl, -⟩
    · exact ⟨modifier, hmod, rfl⟩
    · exact absurd hbuild (hafter c (List.mem_append_right _ (List.mem_singleton_self c)))
  only_held := by
    intro m k hreport
    have hshows := Option.some.inj hreport
    cases hpressed : c.pressed with
    | true =>
        -- A press: its key is down from now on, and the modifiers were down before it.
        rw [KeyCommand.shows, if_pos hpressed] at hshows
        obtain ⟨rfl, rfl⟩ := keyReport_inj hshows
        refine ⟨?_, fun _ => ⟨c.code, ?_, rfl⟩⟩
        · intro i hi hbit
          rw [held_concat, hpressed, ← hmod i hi, hbit, ite_self]
        · rw [held_concat, if_pos rfl, hpressed]
    | false =>
        -- A release: the report names nothing.
        rw [KeyCommand.shows, hpressed, if_neg Bool.false_ne_true] at hshows
        obtain ⟨rfl, rfl⟩ := keyReport_inj hshows
        refine ⟨?_, fun hne => absurd rfl hne⟩
        intro i _ hbit
        exact absurd (BitVec.getLsbD_zero.symm.trans hbit) Bool.false_ne_true

/-- A command that builds no report: the USB host sees what it saw. -/
theorem showsLatest_concat_silent {cmds : List KeyCommand} {c : KeyCommand}
    {report : Option (List U8)} (h : ShowsLatest cmds report) (hbuild : ¬ c.Builds) :
    ShowsLatest (cmds ++ [c]) report where
  none := by
    intro hall
    exact h.none fun d hd => hall d (List.mem_append_left _ hd)
  latest := by
    intro before d after hsplit hd hafter
    -- The new command builds nothing, so the latest one is as before.
    rcases concat_eq_append_cons hsplit with ⟨-, -, rfl⟩ | ⟨front, rfl, hfront⟩
    · exact absurd hd hbuild
    · exact h.latest before d front hfront hd fun e he =>
        hafter e (List.mem_append_left _ he)
  only_held := by
    intro m k hreport
    obtain ⟨hbits, hkey⟩ := h.only_held m k hreport
    refine ⟨fun i hi hbit => held_concat_of_not_builds hbuild (hbits i hi hbit), ?_⟩
    intro hne
    obtain ⟨code, hheld, heq⟩ := hkey hne
    exact ⟨code, held_concat_of_not_builds hbuild hheld, heq⟩

/-- What is kept along a run in which every report is sent. -/
structure HeldInv (c : KvmState × Trace KeyCommand) : Prop where
  keyboard : KeyboardInv c
  modifiers : IsHeldModifiers c.2.commands c.1.modifier
  shows : ShowsLatest c.2.commands (lastAccepted c.2.calls)

/-- At the start no key is held. -/
theorem heldInv_reset : HeldInv reset where
  keyboard := keyboardInv_reset
  modifiers := by
    intro i _
    exact BitVec.getLsbD_zero
  shows := by
    refine ⟨fun _ => rfl, ?_, nofun⟩
    intro before c after hsplit
    exact absurd hsplit.symm (List.append_ne_nil_of_right_ne_nil _ (List.cons_ne_nil _ _))

/-- Every command that sends keeps the invariant. -/
theorem heldInv_next (c : KvmState × Trace KeyCommand) (i : KeyCommand) (h : HeldInv c)
    (hK : i.Sends ∧ NoAlias c i) : HeldInv (keyboard.next c i) where
  keyboard := keyboardInv_next c i h.keyboard
  modifiers := isHeldModifiers_next c i h.modifiers
  shows := by
    rw [commands_next, lastAccepted_next h.keyboard hK.1 hK.2]
    by_cases hbuild : i.Builds
    · rw [if_pos hbuild]
      exact showsLatest_concat_builds h.modifiers hbuild
    · rw [if_neg hbuild]
      exact showsLatest_concat_silent h.shows hbuild

/-- In a run of `CMD_KEY` from reset in which every report is sent and no report is an
alias of the one before it, the USB host sees after each command the latest press, with the
modifiers that were down then, or nothing if the latest command that builds a report is a
release. -/
theorem shows_latest (cmds : List KeyCommand) (hsends : ∀ c ∈ cmds, c.Sends)
    (hno : keyboard.Meets NoAlias reset cmds) {pre : List KeyCommand} (hpre : pre <+: cmds) :
    ShowsLatest pre (lastAccepted (Trace.calls (keyboard.exec reset pre).2)) := by
  have hmeets : keyboard.Meets (fun c i => i.Sends ∧ NoAlias c i) reset cmds :=
    keyboard.meets_and ((keyboard.meets_forall_iff reset).mpr hsends) hno
  have hinv := keyboard.invariant_along heldInv_next heldInv_reset hmeets hpre
  have hcommands : Trace.commands (keyboard.exec reset pre).2 = pre :=
    commands_exec KeyCommand.toCommand reset pre
  have hshows := hinv.shows
  rwa [hcommands] at hshows

/-- Left Ctrl and A go down. -/
theorem shows_latest_ctrl_a :
    let env : HandlerEnv := ⟨.zero, fun _ => true⟩
    let cmds := [KeyCommand.ofCode env 77 1, .ofCode env 1 1]
    lastAccepted (Trace.calls (keyboard.exec reset cmds).2) = some (keyReport 0x01 KEY_A) ∧
      ShowsLatest cmds (lastAccepted (Trace.calls (keyboard.exec reset cmds).2)) := by
  intro env cmds
  have hsends : ∀ c ∈ cmds, c.Sends := by
    rw [List.forall_mem_cons, List.forall_mem_singleton]
    exact ⟨⟨0, Nat.zero_le 3, rfl⟩, ⟨0, Nat.zero_le 3, rfl⟩⟩
  refine ⟨by decide +kernel, shows_latest cmds hsends ?_ (List.prefix_refl cmds)⟩
  decide +kernel

/-- A and B go down and stay down. Every send is accepted, and the USB host sees no A. -/
theorem second_key_replaces_first :
    let env : HandlerEnv := ⟨.zero, fun _ => true⟩
    let cmds := [KeyCommand.ofCode env 1 1, .ofCode env 2 1]
    (∀ c ∈ cmds, ∀ n, c.env.reportIn n = true) ∧ held cmds 1 = true ∧
      ¬ IsModifier (keyMapUsb 1) ∧ ∃ report,
        lastAccepted (Trace.calls (keyboard.exec reset cmds).2) = some report ∧
        keyMapUsb 1 ∉ report.drop 2 := by
  intro env cmds
  refine ⟨?_, by decide +kernel, by decide, keyReport 0 KEY_B, by decide +kernel, by decide⟩
  rw [List.forall_mem_cons, List.forall_mem_singleton]
  exact ⟨fun _ => rfl, fun _ => rfl⟩

end PikvmHid
