import PikvmHid.Proofs.Calls
import PikvmHid.Spec.Descriptors

/-!
# `PikvmHid.Proofs.Descriptors`: what the reports and the descriptors agree on

`conformsTo_keyboard` and `conformsTo_mouseReport` read the two descriptors: key codes of at
most 101, three buttons, coordinates of 15 bits, and a wheel byte that is not -128. The
coordinates and the buttons of the statics are always in range (`pointerRange_handle`), and so
is every key code of `key_map_usb` but that of the power key (`key_in_range_iff`).

`reports_conform_iff`: so the reports conform exactly if no press of the power key is sent and
no wheel byte is -128. `power_out_of_range` and `wheel_out_of_range` are such commands.
-/

set_option autoImplicit false

namespace PikvmHid

open Lib Lib.HidDescriptor

/-! ### Reading the descriptors -/

/-- The fields of a keyboard report. -/
def keyFields : List Field :=
  List.replicate 8 ⟨1, 0, 1, false⟩ ++ ⟨8, 0, 1, true⟩ ::
    List.replicate 6 ⟨8, 0, 101, false⟩

/-- The fields of a mouse report. -/
def mouseFields : List Field :=
  List.replicate 3 ⟨1, 0, 1, false⟩ ++
    [⟨5, 0, 1, true⟩, ⟨16, 0, 32767, false⟩, ⟨16, 0, 32767, false⟩, ⟨8, -127, 127, false⟩]

/-- The keyboard's descriptor, as the parser reads it. -/
theorem fields_hidKbReportDesc : fields hidKbReportDesc = some keyFields := by decide +kernel

/-- The mouse's descriptor, as the parser reads it. -/
theorem fields_hidMsReportDesc : fields hidMsReportDesc = some mouseFields := by decide +kernel

/-- A keyboard report: any modifiers, a reserved byte, and six key codes. -/
theorem conformsTo_keyboard (modifier reserved : U8) {keys : List U8} (hlen : keys.length = 6) :
    ConformsTo .hidKbIf (modifier :: reserved :: keys) ↔
      reserved = 0 ∧ ∀ key ∈ keys, key.toNat ≤ 101 := by
  have hfields : ConformsTo .hidKbIf (modifier :: reserved :: keys)
      ↔ Describes keyFields (modifier :: reserved :: keys) := by
    simp only [ConformsTo, reportDesc, fields_hidKbReportDesc, Option.mem_some_iff,
      exists_eq_left']
  have hkey : ∀ b : U8, Field.Accepts ⟨8, 0, 101, false⟩ b.toNat ↔ b.toNat ≤ 101 := by
    intro b
    show ((0 : Int) ≤ b.toNat ∧ (b.toNat : Int) ≤ 101) ↔ b.toNat ≤ 101
    omega
  have hreserved : Field.Accepts ⟨8, 0, 1, true⟩ reserved.toNat ↔ reserved = 0 :=
    BitVec.toNat_inj (y := 0)
  -- The modifier bits take any value, so the first byte drops out.
  have hmodifier : unsigned (modifier :: reserved :: keys) / 2 ^ 8
      = unsigned (reserved :: keys) := by
    rw [unsigned_cons, Nat.add_mul_div_left _ _ (Nat.two_pow_pos _),
      Nat.div_eq_of_lt modifier.isLt, Nat.zero_add]
  have haccepts : Accepts keyFields (unsigned (modifier :: reserved :: keys)) ↔
      reserved = 0 ∧ ∀ key ∈ keys, key.toNat ≤ 101 := by
    rw [keyFields, accepts_replicate_bit, hmodifier, accepts_byte _ rfl, hreserved, ← hlen,
      accepts_replicate_byte _ rfl]
    simp only [hkey]
  rw [hfields, ← haccepts]
  refine ⟨fun h => h.accepts, fun h => ⟨?_, h⟩⟩
  rw [List.length_cons, List.length_cons, hlen]
  rfl

/-- A key report conforms if its key is in the range. -/
theorem conformsTo_keyReport (modifier key : U8) :
    ConformsTo .hidKbIf (keyReport modifier key) ↔ key.toNat ≤ 101 := by
  rw [keyReport, conformsTo_keyboard modifier 0 rfl]
  simp

/-- A mouse report: three buttons, coordinates of 15 bits, and a wheel byte that is not -128,
in the six bytes of any such report. -/
theorem conformsTo_mouseReport (button : U8) (x y : U16) (wheel : U8) :
    ConformsTo .hidMsIf (mouseReport button x y wheel) ↔
      button.toNat < 8 ∧ x.toNat < 32768 ∧ y.toNat < 32768 ∧ wheel ≠ 0x80 := by
  have hfields : ConformsTo .hidMsIf (mouseReport button x y wheel)
      ↔ Describes mouseFields (mouseReport button x y wheel) := by
    simp only [ConformsTo, reportDesc, fields_hidMsReportDesc, Option.mem_some_iff,
      exists_eq_left']
  have hword : ∀ v : U16, Field.Accepts ⟨16, 0, 32767, false⟩ v.toNat ↔ v.toNat < 32768 := by
    intro v
    show ((0 : Int) ≤ v.toNat ∧ (v.toNat : Int) ≤ 32767) ↔ v.toNat < 32768
    omega
  have hwheel : Field.Accepts ⟨8, -127, 127, false⟩ wheel.toNat ↔ wheel ≠ 0x80 := by
    have hrange : ∀ b : U8, (-127 ≤ b.toInt ∧ b.toInt ≤ 127) ↔ b ≠ 0x80 := by decide +kernel
    rw [Field.accepts_signed_byte (by decide), hrange]
  -- The three button bits, then five bits of padding that must be zero.
  have hbutton : unsigned (mouseReport button x y wheel) / 2 ^ 3
      = button.toNat / 8 + 2 ^ 5 * unsigned [lowByte x, highByte x, lowByte y, highByte y,
          wheel] := by
    rw [mouseReport, unsigned_cons]
    omega
  have hpad : button.toNat / 8 < 2 ^ 5 := by
    have hlt := button.isLt
    omega
  have hzero : Field.Accepts ⟨5, 0, 1, true⟩ (button.toNat / 8) ↔ button.toNat < 8 := by
    show button.toNat / 8 = 0 ↔ button.toNat < 8
    omega
  have haccepts : Accepts mouseFields (unsigned (mouseReport button x y wheel)) ↔
      button.toNat < 8 ∧ x.toNat < 32768 ∧ y.toNat < 32768 ∧ wheel ≠ 0x80 := by
    rw [mouseFields, accepts_replicate_bit, hbutton, accepts_cons ⟨5, 0, 1, true⟩ _ hpad,
      accepts_word _ rfl, accepts_word _ rfl, accepts_byte _ rfl, highByte_append_lowByte,
      highByte_append_lowByte, hzero, hword, hword, hwheel]
    exact and_congr_right fun _ => and_congr_right fun _ => and_congr_right fun _ =>
      and_iff_left trivial
  rw [hfields, ← haccepts]
  exact ⟨fun h => h.accepts, fun h => ⟨rfl, h⟩⟩

/-! ### The statics of the mouse -/

/-- The position and the buttons are in range. -/
structure PointerRange (st : KvmState) : Prop where
  posx : st.posx.toNat < 32768
  posy : st.posy.toNat < 32768
  button : st.button.toNat < 8

/-- Three buttons at most. -/
theorem buttonMask_lt (b : U8) : (buttonMask b).toNat < 8 := by
  revert b
  decide +kernel

/-- The range of a report coordinate. -/
theorem scale_lt (v : U16) : scale v.toInt < 32768 := by
  have hlt : v.toInt < 32768 := BitVec.toInt_lt (x := v)
  unfold scale
  omega

/-- A move keeps the pointer in its range. -/
theorem MouseCommand.pointerRange_moved {st : KvmState} (h : PointerRange st)
    (c : MouseCommand) : PointerRange (c.moved st) := by
  obtain ⟨hx, hy⟩ := c.moved_position st
  have hxlt := scale_lt (c.cmdBuf 2 ++ c.cmdBuf 3)
  have hylt := scale_lt (c.cmdBuf 4 ++ c.cmdBuf 5)
  obtain ⟨hposx, hposy, hbutton⟩ := h
  refine ⟨?_, ?_, ?_⟩
  · rw [MouseCommand.x] at hx
    split at hx <;> omega
  · rw [MouseCommand.y] at hy
    split at hy <;> omega
  · rw [c.moved_button]
    split
    · decide
    · split
      · exact hbutton
      · exact buttonMask_lt _

/-- The calls keep the position and the buttons in range. -/
theorem pointerRange_handle {st : KvmState} (h : PointerRange st) (c : Call) :
    PointerRange (c.handle st).state := by
  by_cases hkey : c.IsKey
  · obtain ⟨-, hx, hy, hbutton⟩ := (c.toKey hkey).handle_frame st
    rw [c.handle_key st hkey]
    exact ⟨hx ▸ h.posx, hy ▸ h.posy, hbutton ▸ h.button⟩
  by_cases hmouse : c.IsMouse
  · obtain ⟨-, -, hx, hy, hbutton⟩ := (c.toMouse hmouse).handle_frame st
    have hrange := (c.toMouse hmouse).pointerRange_moved h
    rw [c.handle_mouse st hmouse]
    exact ⟨hx ▸ hrange.posx, hy ▸ hrange.posy, hbutton ▸ hrange.button⟩
  · obtain ⟨-, code, hstate⟩ := c.handle_quiet st hkey hmouse
    rw [hstate]
    exact ⟨h.posx, h.posy, h.button⟩

/-! ### One call -/

/-- Only the power key has a code that is out of range. -/
theorem key_in_range_iff : ∀ code, ¬ IsModifier (keyMapUsb code) →
    ((keyMapUsb code).toNat ≤ 101 ↔ code ≠ powerCode) := by
  decide +kernel

/-- The reports of a `CMD_KEY` conform exactly if a press of the power key is left out. -/
theorem KeyCommand.conform_iff {st : KvmState} {t : CallTrace Call} (c : KeyCommand)
    (h : FilterInv st (t.reports .hidKbIf)) :
    (∀ call ∈ c.calls st, ConformsTo call.itf call.report) ↔
      (c.code = powerCode → c.pressed = true → Masked t (keyReport st.modifier KEY_POWER)) := by
  by_cases hbuild : c.Builds
  · have hconform : (∀ call ∈ c.calls st, ConformsTo call.itf call.report)
        ↔ (c.calls st ≠ [] → ConformsTo .hidKbIf (c.shows st.modifier)) := by
      rw [← c.report_eq]
      rcases c.handle_cases st with ⟨hno, -⟩ | ⟨-, -, hnone, -⟩ |
        ⟨-, -, failed, sent, hcalls, -⟩
      · exact absurd hbuild hno
      · simp [hnone]
      · rw [hcalls, forall_mem_attempt (P := ConformsTo)]
        exact ⟨fun h _ => h, fun h => h (attempt_ne_nil _ _ _ _)⟩
    rw [hconform, KeyCommand.shows]
    cases hpressed : c.pressed with
    | false =>
        -- A release shows no key.
        refine iff_of_true (fun _ => ?_) fun _ hfalse => absurd hfalse Bool.false_ne_true
        exact (conformsTo_keyReport 0 0).mpr (Nat.zero_le _)
    | true =>
        rw [if_pos rfl, conformsTo_keyReport, KeyCommand.key,
          key_in_range_iff c.code (hbuild hpressed).1]
        by_cases hpower : c.code = powerCode
        · -- The power key: its report has to be left out.
          have hreport : c.report st = keyReport st.modifier KEY_POWER := by
            rw [c.report_eq, KeyCommand.shows, if_pos hpressed, KeyCommand.key, hpower]
            rfl
          have hnil : c.calls st = [] ↔ Masked t (keyReport st.modifier KEY_POWER) := by
            rw [h.calls_eq_nil_iff hbuild, hreport]
            exact Iff.rfl
          rw [← hnil]
          simp [hpower]
        · simp [hpower]
  · -- Nothing is sent, and a press of the power key would have built a report.
    have hnone : c.calls st = [] := by
      rcases c.handle_cases st with ⟨-, hnone, -⟩ | ⟨hyes, -⟩ | ⟨hyes, -⟩
      · exact hnone
      · exact absurd hyes hbuild
      · exact absurd hyes hbuild
    rw [hnone]
    refine iff_of_true (List.forall_mem_nil _) fun hpower _ => ?_
    refine absurd (fun _ => ?_) hbuild
    rw [KeyCommand.key, hpower]
    decide

/-- The reports of a mouse command conform exactly if its wheel byte is not -128. -/
theorem MouseCommand.conform_iff {st : KvmState} (h : PointerRange st) (c : MouseCommand) :
    (∀ call ∈ c.calls st, ConformsTo call.itf call.report) ↔
      (if c.code = CMD_WHEEL then c.cmdBuf 3 else c.env.hidRpt 6) ≠ 0x80 := by
  obtain ⟨failed, sent, hcalls⟩ := c.calls_eq st
  obtain ⟨hx, hy, hbutton⟩ := c.pointerRange_moved h
  rw [hcalls, forall_mem_attempt (P := ConformsTo), MouseCommand.reported]
  split
  · rw [conformsTo_mouseReport]
    exact ⟨fun hall => hall.2.2.2, fun hne => ⟨by decide, by decide, by decide, hne⟩⟩
  · rw [conformsTo_mouseReport]
    exact ⟨fun hall => hall.2.2.2, fun hne => ⟨hbutton, hx, hy, hne⟩⟩

/-! ### Runs -/

/-- What the conformance of a call rests on. -/
structure DescriptorInv (c : KvmState × CallTrace Call) : Prop where
  filter : FilterInv c.1 (c.2.reports .hidKbIf)
  pointer : PointerRange c.1

/-- Every call keeps the invariant. -/
theorem descriptorInv_next (c : KvmState × CallTrace Call) (i : Call) (h : DescriptorInv c) :
    DescriptorInv (pikvm.next c i) :=
  ⟨filterInv_next c i h.filter, pointerRange_handle h.pointer i⟩

/-- One call conforms exactly when its bytes are in range. -/
theorem reportsConform_iff (c : KvmState × CallTrace Call) (i : Call) (h : DescriptorInv c) :
    ReportsConform c i ↔ InRange c i := by
  unfold ReportsConform
  by_cases hkey : i.IsKey
  · have hmouse : ¬ i.IsMouse := hkey.not_isMouse
    rw [i.handle_key c.1 hkey]
    refine ((i.toKey hkey).conform_iff h.filter).trans ⟨fun hmask => ⟨?_, ?_, ?_⟩, ?_⟩
    · exact fun _ hpower hpressed => hmask hpower (decide_eq_true hpressed)
    · exact fun hm => absurd hm hmouse
    · exact fun hm => absurd hm hmouse
    · exact fun hin hpower hpressed => hin.key hkey hpower (of_decide_eq_true hpressed)
  by_cases hmouse : i.IsMouse
  · rw [i.handle_mouse c.1 hmouse]
    refine ((i.toMouse hmouse).conform_iff h.pointer).trans ⟨fun hne => ⟨?_, ?_, ?_⟩, ?_⟩
    · exact fun hk => absurd hk hkey
    · intro _ hcode
      rwa [if_pos (show (i.toMouse hmouse).code = CMD_WHEEL from hcode)] at hne
    · intro _ hcode
      rwa [if_neg (show (i.toMouse hmouse).code ≠ CMD_WHEEL from hcode)] at hne
    · intro hin
      split
      · next hcode => exact hin.wheel hmouse hcode
      · next hcode => exact hin.stack hmouse hcode
  · rw [(i.handle_quiet c.1 hkey hmouse).1]
    refine iff_of_true nofun ⟨?_, ?_, ?_⟩
    · exact fun hk => absurd hk hkey
    · exact fun hm => absurd hm hmouse
    · exact fun hm => absurd hm hmouse

/-- In a run from reset, with any outcomes of the calls and anything on the stack, every
report is what the descriptor of its interface says, exactly if no press of the power key is
sent and no wheel byte is -128. -/
theorem reports_conform_iff (calls : List Call) :
    pikvm.Meets ReportsConform start calls ↔ pikvm.Meets InRange start calls :=
  pikvm.meets_congr (I := DescriptorInv) (fun c i h _ => descriptorInv_next c i h)
    reportsConform_iff ⟨⟨rfl, nofun⟩, by decide, by decide, by decide⟩

/-- The press of the power key goes out with the key code 102. -/
theorem power_out_of_range :
    let press := (KeyCommand.ofCode ⟨.zero, fun _ => true⟩ powerCode 1).call
    (press.handle .boot).reportIns = [⟨.hidKbIf, keyReport 0 102, true⟩] ∧
      ¬ pikvm.Meets ReportsConform start [press] := by
  intro press
  have hcalls : (press.handle .boot).reportIns = [⟨.hidKbIf, keyReport 0 102, true⟩] := by
    decide +kernel
  refine ⟨hcalls, fun hmeets => ?_⟩
  have hconform := hmeets.1 ⟨.hidKbIf, keyReport 0 102, true⟩ (by
    show _ ∈ (press.handle .boot).reportIns
    rw [hcalls]
    exact List.mem_singleton_self _)
  exact absurd ((conformsTo_keyReport 0 102).mp hconform) (by decide)

/-- A wheel that turns by -128. -/
theorem wheel_out_of_range :
    let wheel := (MouseCommand.ofCode ⟨.zero, fun _ => true⟩ CMD_WHEEL 0 0x80 0 0
      (by decide)).call
    (wheel.handle .boot).reportIns = [⟨.hidMsIf, mouseReport 0 0 0 0x80, true⟩] ∧
      ¬ pikvm.Meets ReportsConform start [wheel] := by
  intro wheel
  have hcalls : (wheel.handle .boot).reportIns
      = [⟨.hidMsIf, mouseReport 0 0 0 0x80, true⟩] := by
    decide +kernel
  refine ⟨hcalls, fun hmeets => ?_⟩
  have hconform := hmeets.1 ⟨.hidMsIf, mouseReport 0 0 0 0x80, true⟩ (by
    show _ ∈ (wheel.handle .boot).reportIns
    rw [hcalls]
    exact List.mem_singleton_self _)
  exact ((conformsTo_mouseReport 0 0 0 0x80).mp hconform).2.2.2 rfl

end PikvmHid
