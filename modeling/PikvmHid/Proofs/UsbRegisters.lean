import PikvmHid.Spec.UsbRegisters

/-!
# `PikvmHid.Proofs.UsbRegisters`: what a macro does to a transaction it overlaps

The two flags are safe with the macros that write ones over them. `USB_EP_FLAG_CLEAR` and the store
of the type write back what was read, so they take away a completion that came in between
(`completion_lost_iff`). The status is flipped by a difference to the one that was read, so it is the
one asked for only if no transaction changed it; but then a flag is set (`setStatus_overlapped`).
-/

set_option autoImplicit false

namespace PikvmHid

/-! ### One write -/

/-- Without a transaction in between the macros are those of the driver. -/
theorem run_self (e : U16) :
    (∀ d s, (EprMacro.setStatus d s).run e e = setStatus d s e) ∧
      (∀ d, (EprMacro.toggle d).run e e = toggle d e) ∧
      (∀ d, (EprMacro.flagClear d).run e e = flagClear d e) ∧
      (∀ t, (EprMacro.setType t).run e e = setType t e) ∧
      ∀ epAddr, (EprMacro.setAddress epAddr).run e e = setAddress epAddr e :=
  ⟨fun _ _ => rfl, fun _ => rfl, fun _ => rfl, fun _ => rfl, fun _ => rfl⟩

/-- A macro that read `r` and writes to `e`, field by field. -/
theorem fields_run (m : EprMacro) (r e : U16) :
    eprFields (m.run r e) = (eprFields e).write (eprFields (m.word r)) := fields_eprWrite e (m.word r)

/-- A write is one to each half. -/
theorem half_write (f w : EprFields) (d : EpHalf) :
    (f.write w).half d = (f.half d).write (w.half d) := by
  cases d <;> rfl

/-- So is a macro. -/
theorem eprHalf_run (m : EprMacro) (r e : U16) (d : EpHalf) :
    eprHalf d (m.run r e) = (eprHalf d e).write (eprHalf d (m.word r)) := by
  rw [← half_eprFields, fields_run, half_write, half_eprFields, half_eprFields]

/-- A half of the word of `USB_EP_SET_STATUS`: nothing but the status of its own direction is
flipped. -/
theorem eprHalf_setStatusWord (d d' : EpHalf) (s : EpStatus) (r : U16) :
    eprHalf d' (setStatusWord d s r) =
      ⟨if d' = d then (eprHalf d r).stat.xor s else .dis, false, true⟩ := by
  rw [← half_eprFields, fields_setStatusWord, half_setHalf_eq]
  split
  · rfl
  · cases d' <;> rfl

/-- The flags of the word. A one keeps a flag and a zero takes it away. -/
theorem ctr_word (m : EprMacro) (r : U16) {d : EpHalf} (hd : ¬ m.Clears d) :
    (eprHalf d (m.word r)).ctr = false ↔ m.WritesBack ∧ (eprHalf d r).ctr = false := by
  rw [← half_eprFields]
  cases m with
  | setStatus d' s =>
      rw [half_eprFields, EprMacro.word, eprHalf_setStatusWord]
      exact iff_of_false (by simp) fun h => h.1
  | toggle d' =>
      rw [EprMacro.word, fields_toggleWord]
      refine iff_of_false ?_ fun h => h.1
      cases d <;> cases d' <;> simp [EprFields.setHalf, EprFields.still, EprFields.half]
  | flagClear d' =>
      -- The flag that is not cleared is written as it was read.
      have hne : d' ≠ d := fun h => hd (congrArg EprMacro.flagClear h)
      rw [EprMacro.word, fields_flagClearWord]
      cases d <;> cases d' <;> first
        | exact absurd rfl hne
        | simp [EprFields.half, EprMacro.WritesBack]
  | setType t =>
      rw [EprMacro.word, fields_setTypeWord]
      cases d <;> simp [EprFields.half, EprMacro.WritesBack]
  | setAddress epAddr =>
      rw [EprMacro.word, fields_setAddressWord]
      refine iff_of_false ?_ fun h => h.1
      cases d <;> simp [EprFields.still, EprFields.half]

/-! ### Transactions in between -/

/-- The SETUP bit is in neither half. -/
theorem eprHalf_and_not_setup (d : EpHalf) (e : U16) :
    eprHalf d (e &&& ~~~USB_EP_SETUP) = eprHalf d e := by
  cases d <;> simp [eprHalf, EpHalf.pos]

/-- What a SETUP packet does to the halves. -/
theorem eprHalf_hwSetup (d : EpHalf) (e : U16) :
    eprHalf d (hwSetup e) = ⟨.nak, true, d = .rx || (eprHalf d e).ctr⟩ := by
  rw [← half_eprFields, fields_hwSetup]
  cases d <;> rfl

/-- What an acknowledged transaction does to them. -/
theorem eprHalf_hwDone_eq (d d' : EpHalf) (e : U16) :
    eprHalf d' (hwDone d e) =
      if d' = d then ⟨.nak, !(eprHalf d e).dtog, true⟩ else eprHalf d' e := by
  rw [← half_eprFields, fields_hwDone, half_setHalf_eq, half_eprFields]

/-- A flag that is set stays set. -/
theorem Transaction.ctr {e e' : U16} (h : Transaction e e') {d : EpHalf}
    (hd : (eprHalf d e).ctr = true) : (eprHalf d e').ctr = true := by
  cases h with
  | inToken _ =>
      rw [eprHalf_hwDone_eq]
      split
      · rfl
      · exact hd
  | outToken _ =>
      rw [eprHalf_and_not_setup, eprHalf_hwDone_eq]
      split
      · rfl
      · exact hd
  | setup _ _ =>
      rw [eprHalf_hwSetup, hd, Bool.or_true]

/-- So it does over any number of transactions. -/
theorem Transacts.ctr {e e' : U16} (h : Transacts e e') {d : EpHalf} (hd : (eprHalf d e).ctr = true) :
    (eprHalf d e').ctr = true := by
  induction h with
  | refl => exact hd
  | step _ hlast ih => exact hlast.ctr ih

/-- What transactions leave: the status of a direction, or its completion, or a SETUP packet after
which there is no other transaction. -/
theorem Transacts.status {e e' : U16} (h : Transacts e e') :
    (∀ d, (eprHalf d e').stat = (eprHalf d e).stat ∨ (eprHalf d e').ctr = true) ∨
      (∀ d, (eprHalf d e').stat = .nak) ∧ (eprHalf .rx e').ctr = true ∧
      (eprFields e').setup = true := by
  -- On the transactions, the last one first.
  induction h with
  | refl => exact .inl fun d => .inl rfl
  | step _ hlast ih =>
      rename_i e' e'' _
      cases hlast with
      | inToken hvalid =>
          rcases ih with ih | ⟨hnak, -⟩
          · refine .inl fun d => ?_
            rw [eprHalf_hwDone_eq]
            split
            · exact .inr rfl
            · exact ih d
          · rw [hnak] at hvalid
            exact EpStatus.noConfusion hvalid
      | outToken hvalid =>
          rcases ih with ih | ⟨hnak, -⟩
          · refine .inl fun d => ?_
            rw [eprHalf_and_not_setup, eprHalf_hwDone_eq]
            split
            · exact .inr rfl
            · exact ih d
          · rw [hnak] at hvalid
            exact EpStatus.noConfusion hvalid
      -- A SETUP packet overrules what came before.
      | setup hstat hctr =>
          refine .inr ⟨fun d => ?_, ?_, ?_⟩
          · rw [eprHalf_hwSetup]
          · rw [eprHalf_hwSetup]
            rfl
          · rw [fields_hwSetup]

/-! ### The macros -/

/-- A completion that a macro is not there to clear survives if it was there to be read. One that
came after the read is lost by exactly the macros that write the flags back as they were read. -/
theorem completion_lost_iff (m : EprMacro) {r e : U16} (h : Transacts r e) {d : EpHalf}
    (hd : ¬ m.Clears d) :
    ((eprHalf d r).ctr = true → (eprHalf d (m.run r e)).ctr = true) ∧
      ((eprHalf d e).ctr = true →
        ((eprHalf d (m.run r e)).ctr = false ↔ m.WritesBack ∧ (eprHalf d r).ctr = false)) := by
  have hlost : (eprHalf d e).ctr = true →
      ((eprHalf d (m.run r e)).ctr = false ↔ m.WritesBack ∧ (eprHalf d r).ctr = false) := by
    intro hctr
    rw [eprHalf_run, EprHalf.write, hctr, Bool.true_and]
    exact ctr_word m r hd
  refine ⟨fun hread => ?_, hlost⟩
  by_contra hno
  have hread' := ((hlost (h.ctr hread)).mp (eq_false_of_ne_true hno)).2
  rw [hread] at hread'
  exact Bool.noConfusion hread'

/-- A register of the control endpoint: an OUT packet has come, an IN packet is ready. -/
def outDoneInReady : U16 := 0xA230

/-- The IN packet completes while `CTR_RX` is cleared, and the handler never hears of it. -/
theorem flagClear_loses :
    eprHalf .tx ((EprMacro.flagClear .rx).run outDoneInReady (hwDone .tx outDoneInReady)) =
        ⟨.nak, true, false⟩ ∧
      ((eprHalf .tx outDoneInReady).ctr = true → (eprHalf .tx
        ((EprMacro.flagClear .rx).run outDoneInReady (hwDone .tx outDoneInReady))).ctr = true) ∧
      ((eprHalf .tx (hwDone .tx outDoneInReady)).ctr = true → ((eprHalf .tx
        ((EprMacro.flagClear .rx).run outDoneInReady (hwDone .tx outDoneInReady))).ctr = false ↔
          (EprMacro.flagClear .rx).WritesBack ∧ (eprHalf .tx outDoneInReady).ctr = false)) := by
  refine ⟨by decide, completion_lost_iff _ (.step (.refl _) (.inToken _ (by decide))) ?_⟩
  simp [EprMacro.Clears]

/-- `USB_EP_SET_STATUS` around transactions: it loses no completion, changes nothing of the other
direction and no data toggle, and sets the status, unless the handler is about to hear of a
transaction of this direction or of a SETUP packet. -/
theorem setStatus_overlapped (d : EpHalf) (s : EpStatus) {r e : U16} (h : Transacts r e) :
    let w := (EprMacro.setStatus d s).run r e
    (∀ d', (eprHalf d' w).ctr = (eprHalf d' e).ctr ∧ (eprHalf d' w).dtog = (eprHalf d' e).dtog) ∧
      (∀ d', d' ≠ d → eprHalf d' w = eprHalf d' e) ∧
      ((eprHalf d w).stat = s ∨ (eprHalf d w).ctr = true ∨
        (eprHalf .rx w).ctr = true ∧ (eprFields w).setup = true) := by
  intro w
  -- The word flips the status of its own direction and writes every flag as one.
  have hw : ∀ d', eprHalf d' w =
      (eprHalf d' e).write ⟨if d' = d then (eprHalf d r).stat.xor s else .dis, false, true⟩ := by
    intro d'
    rw [← eprHalf_setStatusWord]
    exact eprHalf_run (.setStatus d s) r e d'
  have hkept :
      ∀ d', (eprHalf d' w).ctr = (eprHalf d' e).ctr ∧ (eprHalf d' w).dtog = (eprHalf d' e).dtog := by
    intro d'
    rw [hw, EprHalf.write]
    exact ⟨Bool.and_true _, Bool.xor_false _⟩
  have hsetup : (eprFields w).setup = (eprFields e).setup := by
    rw [fields_run]
    rfl
  refine ⟨hkept, fun d' hne => ?_, ?_⟩
  · rw [hw, if_neg hne, write_still]
  · rcases h.status with hstatus | ⟨-, hctr, hset⟩
    · rcases hstatus d with hsame | hctr
      · -- No transaction of this direction: the bits flipped are those that were read.
        refine .inl ?_
        rw [hw, if_pos rfl]
        show (eprHalf d e).stat.xor ((eprHalf d r).stat.xor s) = s
        rw [hsame]
        exact xor_xor_self _ s
      · exact .inr (.inl ((hkept d).1.trans hctr))
    · exact .inr (.inr ⟨(hkept .rx).1.trans hctr, hsetup.trans hset⟩)

/-- The status is set to `VALID` while a SETUP packet comes: the status is not that, but the packet
is there to be served. -/
theorem setStatus_overlapped_setup :
    let e := hwSetup 0x3210
    let w := (EprMacro.setStatus .tx .valid).run 0x3210 e
    (eprHalf .tx w).stat = .dis ∧
      (∀ d', (eprHalf d' w).ctr = (eprHalf d' e).ctr ∧ (eprHalf d' w).dtog = (eprHalf d' e).dtog) ∧
      (∀ d', d' ≠ .tx → eprHalf d' w = eprHalf d' e) ∧
      ((eprHalf .tx w).stat = .valid ∨ (eprHalf .tx w).ctr = true ∨
        (eprHalf .rx w).ctr = true ∧ (eprFields w).setup = true) := by
  refine ⟨by decide, setStatus_overlapped .tx .valid (.step (.refl _) (.setup _ ?_ ?_))⟩ <;> decide

end PikvmHid
