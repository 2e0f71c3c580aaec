import Mathlib.Algebra.Order.BigOperators.Group.List
import Mathlib.Algebra.Order.Group.Nat
import Mathlib.Data.Nat.Bitwise
import PikvmHid.App.UsbHidKeys
import PikvmHid.Spec.Typing

/-!
# `PikvmHid.Proofs.Typing`: when the client types its string

The loop of `str_to_kb_hid` makes the groups of `Lib.Grouping.cuts` (`strToKbHid_eq`), and
the host types for each group its keys without repetition (`typed_groups`).

`reproduces_iff`: so a string is typed exactly if it is not empty, its line ends are those of
the host's Enter key, and no key is twice in a group. `double_letter_lost` types `aa`.
-/

set_option autoImplicit false

namespace PikvmHid

open Lib.Grouping

/-! ### Characters -/

section
variable {ch : Char}

/-- A typable character has its code. -/
theorem asciiToHid_eq (h : Typable ch) : asciiToHid ch = .ok (hidCode ch) := by
  obtain ⟨code, hcode⟩ := h
  rw [hidCode, hcode]

/-- The null character is none. -/
theorem not_typable_nul : ¬ Typable '\x00' := by
  rintro ⟨code, hcode⟩
  exact absurd hcode (by simp [show asciiToHid '\x00' = .error .keyError by decide])

/-- Every code has a key. -/
theorem ofByte_ne_zero : ∀ c < 256, ∀ code ∈ (asciiToHid.ofByte c).toOption,
    BitVec.ofNat 8 (code &&& 0xff) ≠ 0 := by
  decide +kernel

/-- No key is zero. -/
theorem keyOf_ne_zero (h : Typable ch) : keyOf ch ≠ 0 := by
  have hcode : hidCode ch ∈ (asciiToHid.ofByte (firstByte ch)).toOption := by
    rw [← asciiToHid, asciiToHid_eq h]
    rfl
  exact ofByte_ne_zero (firstByte ch) (UInt8.toNat_lt _) _ hcode

/-- The value of `shift` for a class of characters. -/
def shiftCode (shifted : Bool) : Nat := if shifted then 0x100 else 0

/-- The shift is one bit of the code. -/
theorem hidCode_and (ch : Char) : hidCode ch &&& 0x100 = shiftCode (isShifted ch) := by
  have hbit : hidCode ch &&& 0x100 = ((hidCode ch).testBit 8).toNat * 2 ^ 8 :=
    Nat.and_two_pow (hidCode ch) 8
  rw [isShifted, shiftCode, hbit]
  cases (hidCode ch).testBit 8 <;> rfl

/-- It tells the two cases apart. -/
theorem shiftCode_inj {b c : Bool} : shiftCode b = shiftCode c ↔ b = c := by
  cases b <;> cases c <;> decide

end

/-! ### The loop -/

/-- A group of the loop with its class. -/
def groupOf (p : Bool × List Char) : List U8 := modifierOf p.1 :: 0x00 :: p.2.map keyOf

/-- The locals with an open group. -/
def StrState.with (grpList : List (List U8)) (c : Bool) (block : List Char) (key : Option Nat) :
    StrState := ⟨grpList, block.map keyOf, shiftCode c, key⟩

section
variable (grpList : List (List U8)) {c : Bool} {block : List Char} (key : Option Nat) {ch : Char}

/-- A group of one case is a report. -/
theorem group_shiftCode : group (shiftCode c) (block.map keyOf) = groupOf (c, block) := by
  cases c <;> rfl

/-- A character joins the group of its case, while there is room. -/
theorem look_typable (h : Typable ch) :
    strToKbHid.look (.with grpList c block key) ch
      = .ok (some (hidCode ch), shiftCode (isShifted ch),
          !decide (isShifted ch = c ∧ block.length < 6)) := by
  have hne : ch ≠ '\x00' := fun heq => not_typable_nul (heq ▸ h)
  simp only [strToKbHid.look, StrState.with, if_neg hne, asciiToHid_eq h, hidCode_and, ne_eq,
    shiftCode_inj, List.length_map]
  by_cases hclass : isShifted ch = c
  · simp [hclass, ← decide_not]
  · simp [hclass]

/-- A character of the same class goes into an open group that is not full. -/
theorem step_same (h : Typable ch) (hopen : isShifted ch = c ∧ block.length < 6) :
    strToKbHid.step (.with grpList c block key) ch
      = .ok (.with grpList c (block ++ [ch]) (some (hidCode ch))) := by
  rw [strToKbHid.step, look_typable grpList key h, hopen.1]
  simp [hopen.2, StrState.with, keyOf]

/-- Any other character closes the group and starts the next one. -/
theorem step_next (h : Typable ch) (hclosed : ¬ (isShifted ch = c ∧ block.length < 6)) :
    strToKbHid.step (.with grpList c block key) ch
      = .ok (.with (grpList ++ [groupOf (c, block)]) (isShifted ch) [ch]
          (some (hidCode ch))) := by
  rw [strToKbHid.step, look_typable grpList key h, decide_eq_false hclosed, ← group_shiftCode]
  rfl

end

/-- The NUL closes the last group, if `key` is bound. -/
theorem step_nul (grpList : List (List U8)) (c : Bool) (block : List Char) (code : Nat) :
    ∃ st, strToKbHid.step (.with grpList c block (some code)) '\x00' = .ok st ∧
      st.grpList = grpList ++ [groupOf (c, block)] := by
  rw [← group_shiftCode]
  exact ⟨_, rfl, rfl⟩

/-- The loop makes the groups. -/
theorem foldlM_step {l : List Char} (hl : ∀ ch ∈ l, Typable ch) (grpList : List (List U8))
    (c : Bool) (block : List Char) (key : Option Nat) (hkey : l ≠ [] ∨ key ≠ none) :
    ∃ st, (l ++ ['\x00']).foldlM strToKbHid.step (.with grpList c block key) = .ok st ∧
      st.grpList = grpList ++ (cuts isShifted 6 c block l).map groupOf := by
  -- On the characters still to come; a group is closed by the next one that does not fit it.
  induction l generalizing grpList c block key with
  | nil =>
      obtain ⟨code, rfl⟩ := Option.ne_none_iff_exists'.mp (hkey.resolve_left fun h => h rfl)
      obtain ⟨st, hstep, hgroups⟩ := step_nul grpList c block code
      refine ⟨st, ?_, hgroups⟩
      rw [List.nil_append, List.foldlM_cons, hstep]
      rfl
  | cons ch l ih =>
      rw [List.forall_mem_cons] at hl
      have hbound : l ≠ [] ∨ some (hidCode ch) ≠ none := Or.inr (Option.some_ne_none _)
      rw [List.cons_append, List.foldlM_cons]
      by_cases hopen : isShifted ch = c ∧ block.length < 6
      · rw [step_same grpList key hl.1 hopen, cuts_cons_pos hopen]
        exact ih hl.2 grpList c (block ++ [ch]) (some (hidCode ch)) hbound
      · rw [step_next grpList key hl.1 hopen, cuts_cons_neg hopen]
        obtain ⟨st, hloop, hgroups⟩ := ih hl.2 (grpList ++ [groupOf (c, block)])
          (isShifted ch) [ch] (some (hidCode ch)) hbound
        refine ⟨st, hloop, ?_⟩
        rw [hgroups, List.append_assoc]
        rfl

/-- The groups of a string. -/
def blocks (s : List Char) : List (Bool × List Char) := cuts isShifted 6 false [] s

/-- `str_to_kb_hid` on a supported string that is not empty. -/
theorem strToKbHid_eq {s : List Char} (hs : ∀ ch ∈ s, Typable ch) (hne : s ≠ []) :
    strToKbHid s = .ok ((blocks s).map groupOf) := by
  obtain ⟨st, hloop, hgroups⟩ := foldlM_step hs [] false [] none (Or.inl hne)
  have hinit : StrState.init = .with [] false [] none := rfl
  rw [strToKbHid, hinit, hloop]
  exact congrArg Except.ok hgroups

/-! ### What goes down -/

/-- Only keys of the report are newly pressed. -/
theorem newlyPressed_sublist (down ks : List U8) : (newlyPressed down ks).Sublist ks := by
  induction ks generalizing down with
  | nil => exact List.Sublist.refl []
  | cons k ks ih =>
      rw [newlyPressed]
      split
      · exact (ih down).cons k
      · exact (ih (k :: down)).cons_cons k

/-- All keys go down exactly if none is there twice, and none is down or no key at all. -/
theorem newlyPressed_eq_self_iff (down ks : List U8) :
    newlyPressed down ks = ks ↔ ks.Nodup ∧ ∀ k ∈ ks, k ≠ 0 ∧ k ∉ down := by
  induction ks generalizing down with
  | nil => exact iff_of_true rfl ⟨List.nodup_nil, nofun⟩
  | cons k ks ih =>
      rw [newlyPressed, List.nodup_cons, List.forall_mem_cons]
      by_cases hk : k = 0 ∨ k ∈ down
      · -- The key is left out, so the list gets shorter.
        rw [if_pos hk]
        refine iff_of_false (fun heq => ?_) ?_
        · have hlen := (newlyPressed_sublist down ks).length_le
          rw [heq, List.length_cons] at hlen
          omega
        · rintro ⟨-, ⟨hne, hnot⟩, -⟩
          exact hk.elim hne hnot
      · rw [if_neg hk, List.cons.injEq, ih, not_or] at *
        constructor
        · rintro ⟨-, hnodup, hall⟩
          exact ⟨⟨fun hmem => (hall k hmem).2 List.mem_cons_self, hnodup⟩, hk,
            fun x hx => ⟨(hall x hx).1, fun hdown => (hall x hx).2 (List.mem_cons_of_mem k hdown)⟩⟩
        · rintro ⟨⟨hnot, hnodup⟩, -, hall⟩
          refine ⟨rfl, hnodup, fun x hx => ⟨(hall x hx).1, ?_⟩⟩
          rw [List.mem_cons, not_or]
          exact ⟨fun heq => hnot (heq ▸ hx), (hall x hx).2⟩

/-- Zeros in the array are no keys. -/
theorem newlyPressed_append_zeros (down ks : List U8) (n : Nat) :
    newlyPressed down (ks ++ List.replicate n 0) = newlyPressed down ks := by
  induction ks generalizing down with
  | nil =>
      induction n with
      | zero => rfl
      | succ n ih =>
          have hzero : newlyPressed down (0 :: List.replicate n 0)
              = newlyPressed down (List.replicate n 0) := if_pos (Or.inl rfl)
          rw [List.nil_append, List.replicate_succ, hzero]
          exact ih
  | cons k ks ih => rw [List.cons_append, newlyPressed, newlyPressed, ih, ih]

/-- Zeros in the report before are no keys that are down. -/
theorem newlyPressed_congr {down down' : List U8} (h : ∀ k, k ≠ 0 → (k ∈ down ↔ k ∈ down'))
    (ks : List U8) : newlyPressed down ks = newlyPressed down' ks := by
  induction ks generalizing down down' with
  | nil => rfl
  | cons k ks ih =>
      have hk : (k = 0 ∨ k ∈ down) ↔ (k = 0 ∨ k ∈ down') := by
        by_cases hzero : k = 0
        · simp [hzero]
        · rw [or_iff_right hzero, or_iff_right hzero, h k hzero]
      have hcons : ∀ x, x ≠ 0 → (x ∈ k :: down ↔ x ∈ k :: down') := by
        intro x hx
        rw [List.mem_cons, List.mem_cons, h x hx]
      rw [newlyPressed, newlyPressed, ih h, ih hcons]
      exact if_congr hk rfl rfl

/-! ### What the host types -/

/-- What the host types for a group. -/
def typedGroup (layout : HostLayout) (p : Bool × List Char) : List Char :=
  (newlyPressed [] (p.2.map keyOf)).map (layout.char (modifierOf p.1))

/-- The host types the groups one after the other: the keys of each are up before the next. -/
theorem typed_groups (layout : HostLayout) (bs : List (Bool × List Char)) {down : List U8}
    (hdown : ∀ k ∈ down, k = 0) :
    layout.typed down ((bs.map groupOf).flatMap fun g => [keyDown g, keyUp])
      = bs.flatMap (typedGroup layout) := by
  induction bs generalizing down with
  | nil => rfl
  | cons p bs ih =>
      have hkeys : newlyPressed down ((keyDown (groupOf p)).drop 2)
          = newlyPressed [] (p.2.map keyOf) := by
        have hnone : ∀ k, k ≠ 0 → (k ∈ down ↔ k ∈ ([] : List U8)) := fun k hk =>
          iff_of_false (fun hmem => hk (hdown k hmem)) List.not_mem_nil
        rw [newlyPressed_congr hnone]
        exact newlyPressed_append_zeros [] (p.2.map keyOf) _
      have hup : newlyPressed ((keyDown (groupOf p)).drop 2) (keyUp.drop 2) = [] :=
        newlyPressed_append_zeros _ [] 6
      have hzeros : ∀ k ∈ keyUp.drop 2, k = 0 := by decide
      rw [List.map_cons, List.flatMap_cons, List.flatMap_cons, List.cons_append,
        List.cons_append, List.nil_append, HostLayout.typed, HostLayout.typed, hkeys, hup, ih hzeros]
      rfl

/-- What the host types for a character. -/
def HostLayout.typedChar (layout : HostLayout) (ch : Char) : Char :=
  layout.char (modifierOf (isShifted ch)) (keyOf ch)

/-- It is the character, or the one of the Enter key. -/
theorem typedChar_eq_iff (layout : HostLayout) {ch : Char} (h : Typable ch) :
    layout.typedChar ch = ch ↔ (IsEnter ch → ch = layout.char 0 0x28) := by
  by_cases henter : IsEnter ch
  · have hcode : layout.typedChar ch = layout.char 0 0x28 := by
      rcases henter with rfl | rfl <;> rfl
    rw [hcode]
    exact ⟨fun heq _ => heq.symm, fun heq => (heq henter).symm⟩
  · exact iff_of_true (layout.char_eq ch h henter) fun hyes => absurd hyes henter

/-- A group types no more than it has. -/
theorem length_typedGroup_le (layout : HostLayout) (p : Bool × List Char) :
    (typedGroup layout p).length ≤ p.2.length := by
  rw [typedGroup, List.length_map, ← List.length_map (f := keyOf)]
  exact (newlyPressed_sublist [] _).length_le

/-- Lists that are not longer than others, but are as long when put together, are as long
each. -/
theorem length_eq_of_length_flatMap {α β : Type} {f g : α → List β} {l : List α}
    (hle : ∀ a ∈ l, (f a).length ≤ (g a).length)
    (h : (l.flatMap f).length = (l.flatMap g).length) :
    ∀ a ∈ l, (f a).length = (g a).length := by
  induction l with
  | nil => exact nofun
  | cons a l ih =>
      rw [List.forall_mem_cons] at hle ⊢
      -- The rest is not longer, either.
      have hrest : (l.flatMap f).length ≤ (l.flatMap g).length := by
        rw [List.length_flatMap, List.length_flatMap]
        exact List.sum_le_sum hle.2
      rw [List.flatMap_cons, List.flatMap_cons, List.length_append, List.length_append] at h
      have hhead := hle.1
      exact ⟨by omega, ih hle.2 (by omega)⟩

/-- A group is typed in full exactly if it has no key twice. -/
theorem length_typedGroup_eq_iff (layout : HostLayout) {p : Bool × List Char}
    (h : ∀ ch ∈ p.2, Typable ch) :
    (typedGroup layout p).length = p.2.length ↔ (p.2.map keyOf).Nodup := by
  have hkeys : ∀ k ∈ p.2.map keyOf, k ≠ 0 ∧ k ∉ ([] : List U8) := by
    intro k hk
    obtain ⟨ch, hch, rfl⟩ := List.mem_map.mp hk
    exact ⟨keyOf_ne_zero (h ch hch), List.not_mem_nil⟩
  have hself := newlyPressed_eq_self_iff [] (p.2.map keyOf)
  rw [and_iff_left hkeys] at hself
  rw [← hself, typedGroup, List.length_map, ← List.length_map (f := keyOf)]
  exact ⟨(newlyPressed_sublist [] _).eq_of_length, congrArg List.length⟩

/-- A group without a key twice is typed character by character. -/
theorem typedGroup_eq_map (layout : HostLayout) {p : Bool × List Char}
    (h : ∀ ch ∈ p.2, Typable ch) (hclass : ∀ ch ∈ p.2, isShifted ch = p.1)
    (hnodup : (p.2.map keyOf).Nodup) : typedGroup layout p = p.2.map layout.typedChar := by
  have hself : newlyPressed [] (p.2.map keyOf) = p.2.map keyOf :=
    (newlyPressed_sublist [] _).eq_of_length (by
      have hlen := (length_typedGroup_eq_iff layout h).mpr hnodup
      rwa [typedGroup, List.length_map, ← List.length_map (f := keyOf)] at hlen)
  rw [typedGroup, hself, List.map_map]
  refine List.map_congr_left fun ch hch => ?_
  rw [HostLayout.typedChar, hclass ch hch]
  rfl

section
variable {s : List Char}

/-- The blocks together are the text. -/
theorem flatMap_blocks (s : List Char) : (blocks s).flatMap Prod.snd = s :=
  flatMap_cuts false [] s

/-- All of it is typable. -/
theorem typable_of_mem_blocks (hs : ∀ ch ∈ s, Typable ch) :
    ∀ p ∈ blocks s, ∀ ch ∈ p.2, Typable ch := by
  intro p hp ch hch
  refine hs ch ?_
  rw [← flatMap_blocks s]
  exact List.mem_flatMap.mpr ⟨p, hp, hch⟩

/-- A group has at most eight bytes. -/
theorem length_groupOf (s : List Char) :
    ∀ g ∈ (blocks s).map groupOf, 2 ≤ g.length ∧ g.length ≤ 8 := by
  intro g hg
  obtain ⟨p, hp, rfl⟩ := List.mem_map.mp hg
  have hlen : p.2.length ≤ 6 := length_of_mem_cuts (by decide) (Nat.zero_le 6) p hp
  simp only [groupOf, List.length_cons, List.length_map]
  omega

/-- The groups are typed as the string exactly if no group has a key twice, and the line ends
are those of the Enter key. -/
theorem typed_blocks_iff (layout : HostLayout) (hs : ∀ ch ∈ s, Typable ch) :
    (blocks s).flatMap (typedGroup layout) = s ↔
      (∀ ch ∈ s, IsEnter ch → ch = layout.char 0 0x28) ∧
        ∀ p ∈ blocks s, (p.2.map keyOf).Nodup := by
  have htypable := typable_of_mem_blocks hs
  -- Without a key twice, the characters are typed one by one.
  have hmap : (∀ p ∈ blocks s, (p.2.map keyOf).Nodup) →
      (blocks s).flatMap (typedGroup layout) = s.map layout.typedChar := by
    intro hnodup
    have hclass : ∀ p ∈ blocks s, ∀ ch ∈ p.2, isShifted ch = p.1 := class_of_mem_cuts nofun
    calc (blocks s).flatMap (typedGroup layout)
        = (blocks s).flatMap fun p => p.2.map layout.typedChar := by
          refine List.flatMap_congr fun p hp => ?_
          exact typedGroup_eq_map layout (htypable p hp) (hclass p hp) (hnodup p hp)
      _ = ((blocks s).flatMap Prod.snd).map layout.typedChar := by rw [List.map_flatMap]
      _ = s.map layout.typedChar := by rw [flatMap_blocks]
  have hchars : s.map layout.typedChar = s ↔
      ∀ ch ∈ s, IsEnter ch → ch = layout.char 0 0x28 := by
    rw [show (s.map layout.typedChar = s) ↔ s.map layout.typedChar = s.map id by
      rw [List.map_id], List.map_inj_left]
    exact forall₂_congr fun ch hch => typedChar_eq_iff layout (hs ch hch)
  constructor
  · intro htyped
    -- As many characters as the string has: every group is typed in full.
    have hlen : ((blocks s).flatMap (typedGroup layout)).length
        = ((blocks s).flatMap Prod.snd).length := by
      rw [htyped, flatMap_blocks]
    have hnodup : ∀ p ∈ blocks s, (p.2.map keyOf).Nodup := fun p hp =>
      (length_typedGroup_eq_iff layout (htypable p hp)).mp
        (length_eq_of_length_flatMap (fun q _ => length_typedGroup_le layout q) hlen p hp)
    exact ⟨hchars.mp ((hmap hnodup).symm.trans htyped), hnodup⟩
  · rintro ⟨henter, hnodup⟩
    exact (hmap hnodup).trans (hchars.mpr henter)

end

/-- A supported string is typed exactly if it is not empty, its line ends are those of the
host's Enter key, and no six characters of a run with or without Shift, counted from its
start, have a key twice. -/
theorem reproduces_iff (layout : HostLayout) (s : List Char) (hs : ∀ ch ∈ s, Typable ch) :
    Reproduces layout s ↔
      s ≠ [] ∧ (∀ ch ∈ s, IsEnter ch → ch = layout.char 0 0x28) ∧ NoKeyTwice s := by
  have hpieces : (∀ p ∈ blocks s, (p.2.map keyOf).Nodup) ↔ NoKeyTwice s :=
    forall_mem_cuts_iff (P := fun l => (l.map keyOf).Nodup) List.nodup_nil (by decide) false s
  by_cases hne : s = []
  · -- `key` is unbound behind the loop over nothing.
    refine iff_of_false ?_ fun h => h.1 hne
    rintro ⟨groups, hgroups, -⟩
    rw [hne] at hgroups
    exact absurd hgroups (by rw [show strToKbHid [] = .error .unboundLocalError from rfl]; nofun)
  · have htypes : layout.typed []
        (((blocks s).map groupOf).flatMap fun g => [keyDown g, keyUp])
          = (blocks s).flatMap (typedGroup layout) := typed_groups layout (blocks s) nofun
    rw [← hpieces, ← typed_blocks_iff layout hs, ← htypes, Reproduces, strToKbHid_eq hs hne]
    constructor
    · rintro ⟨groups, hgroups, -, htyped⟩
      rw [Except.ok.inj hgroups]
      exact ⟨hne, htyped⟩
    · rintro ⟨-, htyped⟩
      exact ⟨_, rfl, length_groupOf s, htyped⟩

/-! ### A host -/

/-- The character, as a byte, that has the key under the modifier byte. -/
def newlineLayout.byte (modifier key : U8) : Nat :=
  ((List.range 128).find? fun c => (asciiToHid.ofByte c).toOption.any fun code =>
    modifierOf (decide (code &&& 0x100 ≠ 0)) = modifier ∧
      BitVec.ofNat 8 (code &&& 0xff) = key).getD 0

/-- No two bytes but those of the line ends have one code. -/
theorem newlineLayout.byte_eq : ∀ c < 128, ∀ code ∈ (asciiToHid.ofByte c).toOption, c ≠ 13 →
    byte (modifierOf (decide (code &&& 0x100 ≠ 0))) (BitVec.ofNat 8 (code &&& 0xff)) = c := by
  decide +kernel

/-- Only ASCII has a code. -/
theorem ofByte_ascii : ∀ c < 256, (asciiToHid.ofByte c).toOption ≠ none → c < 128 := by
  decide +kernel

/-- An ASCII character is its first byte. -/
theorem eq_ofNat_firstByte {ch : Char} (h : firstByte ch < 128) :
    ch = Char.ofNat (firstByte ch) := by
  -- A longer encoding starts with a higher byte.
  have hle : ch.val.toNat ≤ 0x7f := by
    by_contra hgt
    simp only [firstByte, String.utf8EncodeChar, if_neg hgt] at h
    split at h
    · simp at h
      omega
    · split at h
      · simp at h
        omega
      · simp at h
        omega
  have hbyte : firstByte ch = ch.toNat := by
    simp only [firstByte, String.utf8EncodeChar, if_pos hle, List.headD_cons]
    exact UInt8.toNat_ofNat_of_lt (Nat.lt_of_le_of_lt hle (by decide))
  rw [hbyte, Char.ofNat_toNat]

/-- A host whose Enter key types a newline. -/
def newlineLayout : HostLayout where
  char modifier key := Char.ofNat (newlineLayout.byte modifier key)
  char_eq := by
    intro ch htypable henter
    have hcode : (asciiToHid.ofByte (firstByte ch)).toOption = some (hidCode ch) := by
      rw [← asciiToHid, asciiToHid_eq htypable]
      rfl
    have hlt : firstByte ch < 128 :=
      ofByte_ascii _ (UInt8.toNat_lt _) (by rw [hcode]; exact Option.some_ne_none _)
    have hne : firstByte ch ≠ 13 := by
      intro heq
      have hch := eq_ofNat_firstByte hlt
      rw [heq] at hch
      exact henter (Or.inr hch)
    have hbyte := newlineLayout.byte_eq _ hlt _ hcode hne
    rw [keyOf, isShifted, hbyte]
    exact (eq_ofNat_firstByte hlt).symm
  isEnter := Or.inl (by decide +kernel)

/-- The string that `main` types. -/
theorem reproduces_dir : Reproduces newlineLayout ['d', 'i', 'r', '\n'] := by
  have htypable : ∀ ch ∈ ['d', 'i', 'r', '\n'], Typable ch := by
    simp only [List.forall_mem_cons]
    exact ⟨⟨0x07, rfl⟩, ⟨0x0c, rfl⟩, ⟨0x15, rfl⟩, ⟨0x28, rfl⟩, nofun⟩
  have henter : ∀ ch ∈ ['d', 'i', 'r', '\n'], IsEnter ch → ch = newlineLayout.char 0 0x28 := by
    have hnewline : newlineLayout.char 0 0x28 = '\n' := by decide +kernel
    simp only [List.forall_mem_cons, hnewline]
    exact ⟨by decide, by decide, by decide, fun _ => trivial, nofun⟩
  refine (reproduces_iff newlineLayout ['d', 'i', 'r', '\n'] htypable).mpr
    ⟨List.cons_ne_nil _ _, henter, ?_⟩
  intro run hrun
  have hruns : ['d', 'i', 'r', '\n'].splitBy (fun a b => isShifted a == isShifted b)
      = [['d', 'i', 'r', '\n']] := by decide +kernel
  rw [hruns, List.mem_singleton] at hrun
  rw [hrun]
  exact (forall_piece_of_length_le (P := fun l => (l.map keyOf).Nodup) List.nodup_nil
    (by decide)).mpr (by decide +kernel)

/-- The two letters of `aa` go into one group, and the host types one of them. Nothing at all
is an error. -/
theorem double_letter_lost :
    strToKbHid ['a', 'a'] = .ok [[0x00, 0x00, KEY_A, KEY_A]] ∧
      newlineLayout.typed [] [keyDown [0x00, 0x00, KEY_A, KEY_A], keyUp] = ['a'] ∧
      ¬ Reproduces newlineLayout ['a', 'a'] ∧
      strToKbHid [] = .error .unboundLocalError ∧ ¬ Reproduces newlineLayout [] := by
  have hgroups : strToKbHid ['a', 'a'] = .ok [[0x00, 0x00, KEY_A, KEY_A]] := by decide +kernel
  have htyped : newlineLayout.typed [] [keyDown [0x00, 0x00, KEY_A, KEY_A], keyUp] = ['a'] := by
    decide +kernel
  refine ⟨hgroups, htyped, ?_, rfl, ?_⟩
  · rintro ⟨groups, hok, -, hsame⟩
    rw [hgroups] at hok
    rw [← Except.ok.inj hok] at hsame
    exact absurd (htyped.symm.trans hsame) (by decide)
  · rintro ⟨groups, hok, -⟩
    exact absurd hok (by rw [show strToKbHid [] = .error .unboundLocalError from rfl]; nofun)

end PikvmHid
