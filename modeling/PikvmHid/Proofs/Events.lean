import PikvmHid.Spec.Events

/-!
# `PikvmHid.Proofs.Events`: what the event calls report

The two loops over the bits of a list, by their effect on each bit. A send adds its list to
the pending flags: `kernelSendEvents_eq`. A wait clears the lowest flag of its list that is
pending, and returns it together with the flags of the list below it, which are not:
`kernelWaitEvents_pending`. So it reports one flag exactly if there is none below it:
`events_ok_iff`.
-/

set_option autoImplicit false

namespace PikvmHid

open Lib Lib.Machine

/-! ### Bits -/

/-- Masking with one flag leaves it or nothing. -/
theorem and_flagOf (v : U32) (b : Nat) :
    v &&& flagOf b = if v.getLsbD b = true then flagOf b else 0 :=
  BitVec.and_twoPow v b

/-- A flag has one bit. -/
theorem getLsbD_flagOf {b : Nat} (hb : b < 32) (j : Nat) :
    (flagOf b).getLsbD j = decide (j = b) := by
  rw [show flagOf b = BitVec.twoPow 32 b from rfl, BitVec.getLsbD_twoPow, decide_eq_true hb,
    Bool.true_and]
  exact decide_eq_decide.mpr eq_comm

/-- So it is not zero. -/
theorem flagOf_ne_zero {b : Nat} (hb : b < 32) : flagOf b ≠ 0 := by
  intro h
  have hbit := getLsbD_flagOf hb b
  rw [h, decide_eq_true rfl] at hbit
  simp at hbit

/-- Flags that are clear already need not be cleared. -/
theorem and_not_of_and_eq_zero {v w : U32} (h : v &&& w = 0) : v &&& ~~~w = v := by
  calc v &&& ~~~w = (0#32) ||| (v &&& ~~~w) := BitVec.zero_or.symm
    _ = (v &&& w) ||| (v &&& ~~~w) := by rw [h]; rfl
    _ = v &&& (w ||| ~~~w) := BitVec.and_or_distrib_left.symm
    _ = v := by rw [BitVec.or_not_self, BitVec.and_allOnes]

/-- A flag that is clear joins a mask of clear ones. -/
theorem and_or_flagOf {v w : U32} (h : v &&& w = 0) {b : Nat} (hb : v.getLsbD b = false) :
    v &&& (w ||| flagOf b) = 0 := by
  rw [BitVec.and_or_distrib_left, h, and_flagOf, if_neg (Bool.eq_false_iff.mp hb)]
  exact BitVec.or_self

/-- The test of both loops: bit `i` of the list is set. -/
theorem shiftRight_and_one_ne_zero_iff (list : U32) (i : Nat) :
    (list >>> i) &&& 1 ≠ 0 ↔ list.getLsbD i = true := by
  rw [show (1 : U32) = flagOf 0 from rfl, and_flagOf, BitVec.getLsbD_ushiftRight, Nat.add_zero]
  cases list.getLsbD i <;> decide

/-! ### `Kernel_send_events` -/

/-- One round of the loop, when the flags sent so far are pending. -/
theorem kernelSendEvents_loop_succ (list : U32) (n : Nat) {sending : U32} {k : Kernel}
    (hsent : k.sEventFlag ||| sending = k.sEventFlag) :
    kernelSendEvents.loop list (n + 1) sending k
      = if list.getLsbD (31 - n) = true then
          kernelSendEvents.loop list n (sending ||| flagOf (31 - n))
            { k with sEventFlag := k.sEventFlag ||| flagOf (31 - n) }
        else kernelSendEvents.loop list n sending k := by
  -- The flag is set together with the ones before it, which are set already.
  have hset : kernelEventFlagSet k.sEventFlag (sending ||| flagOf (31 - n))
      = k.sEventFlag ||| flagOf (31 - n) := by
    rw [kernelEventFlagSet, ← BitVec.or_assoc, hsent]
  simp only [kernelSendEvents.loop, shiftRight_and_one_ne_zero_iff, ← hset]
  rfl

/-- The loop `n` bits before its end: the bits of the list from there on are added. -/
theorem kernelSendEvents_loop_bits (list : U32) (n : Nat) :
    ∀ (sending : U32) (k : Kernel), n ≤ 32 → k.sEventFlag ||| sending = k.sEventFlag →
      ∃ flags, kernelSendEvents.loop list n sending k = { k with sEventFlag := flags } ∧
        ∀ b, b < 32 →
          flags.getLsbD b = (k.sEventFlag.getLsbD b || decide (32 - n ≤ b) && list.getLsbD b) := by
  induction n with
  | zero =>
      intro sending k _ _
      refine ⟨k.sEventFlag, rfl, fun b hb => ?_⟩
      rw [decide_eq_false (by omega), Bool.false_and, Bool.or_false]
  | succ n ih =>
      intro sending k hn hsent
      have hle : ∀ b, b ≠ 31 - n → (32 - (n + 1) ≤ b ↔ 32 - n ≤ b) := by omega
      rw [kernelSendEvents_loop_succ list n hsent]
      -- The bit of this round is sent, or is not in the list.
      by_cases hbit : list.getLsbD (31 - n) = true
      · rw [if_pos hbit]
        have hsent' : k.sEventFlag ||| flagOf (31 - n) ||| (sending ||| flagOf (31 - n))
            = k.sEventFlag ||| flagOf (31 - n) := by
          rw [BitVec.or_assoc, BitVec.or_comm (flagOf _), BitVec.or_assoc, BitVec.or_self,
            ← BitVec.or_assoc, hsent]
        obtain ⟨flags, hloop, hflags⟩ := ih _
          { k with sEventFlag := k.sEventFlag ||| flagOf (31 - n) } (by omega) hsent'
        refine ⟨flags, hloop, fun b hb => ?_⟩
        rw [hflags b hb, BitVec.getLsbD_or, getLsbD_flagOf (by omega)]
        by_cases hb' : b = 31 - n
        · rw [hb', hbit, decide_eq_true rfl, decide_eq_true (by omega : 32 - (n + 1) ≤ 31 - n)]
          simp
        · rw [decide_eq_false hb', Bool.or_false, decide_eq_decide.mpr (hle b hb')]
      · rw [if_neg hbit]
        obtain ⟨flags, hloop, hflags⟩ := ih sending k (by omega) hsent
        refine ⟨flags, hloop, fun b hb => ?_⟩
        rw [hflags b hb]
        by_cases hb' : b = 31 - n
        · rw [hb', Bool.eq_false_iff.mpr hbit, Bool.and_false, Bool.and_false]
        · rw [decide_eq_decide.mpr (hle b hb')]

/-- `Kernel_send_events` adds its list to the pending flags. -/
theorem kernelSendEvents_eq (k : Kernel) (list : U32) :
    kernelSendEvents k list = { k with sEventFlag := k.sEventFlag ||| list } := by
  obtain ⟨flags, hloop, hflags⟩ :=
    kernelSendEvents_loop_bits list 32 KernelEventFlag_Empty k (Nat.le_refl 32) BitVec.or_zero
  have heq : flags = k.sEventFlag ||| list := by
    refine BitVec.eq_of_getLsbD_eq fun b hb => ?_
    rw [hflags b hb, decide_eq_true (by omega), Bool.true_and, BitVec.getLsbD_or]
  rw [kernelSendEvents, hloop, heq]

/-! ### `Kernel_wait_events` -/

/-- One round of the loop, when none of the flags looked at so far is pending. -/
theorem kernelWaitEvents_loop_succ (list : U32) (n : Nat) {waiting : U32} {k : Kernel}
    (hnone : k.sEventFlag &&& waiting = 0) :
    kernelWaitEvents.loop list (n + 1) waiting k
      = if list.getLsbD (31 - n) = true then
          if k.sEventFlag.getLsbD (31 - n) = true then
            (waiting ||| flagOf (31 - n),
              { k with sEventFlag := k.sEventFlag &&& ~~~flagOf (31 - n) })
          else kernelWaitEvents.loop list n (waiting ||| flagOf (31 - n)) k
        else kernelWaitEvents.loop list n waiting k := by
  -- The flag is checked and cleared together with the ones before it, which are clear.
  have hcheck : kernelEventFlagCheck k.sEventFlag (waiting ||| flagOf (31 - n))
      = if k.sEventFlag.getLsbD (31 - n) = true then
          (true, k.sEventFlag &&& ~~~flagOf (31 - n))
        else (false, k.sEventFlag) := by
    have hand : k.sEventFlag &&& (waiting ||| flagOf (31 - n))
        = if k.sEventFlag.getLsbD (31 - n) = true then flagOf (31 - n) else 0 := by
      rw [BitVec.and_or_distrib_left, hnone, ← and_flagOf]
      exact BitVec.zero_or
    have hclear : k.sEventFlag &&& ~~~(waiting ||| flagOf (31 - n))
        = k.sEventFlag &&& ~~~flagOf (31 - n) := by
      rw [BitVec.not_or, ← BitVec.and_assoc, and_not_of_and_eq_zero hnone]
    rw [kernelEventFlagCheck, hand, kernelEventFlagClear, hclear]
    by_cases hpending : k.sEventFlag.getLsbD (31 - n) = true
    · rw [if_pos hpending, if_pos hpending, if_pos (flagOf_ne_zero (by omega))]
    · rw [if_neg hpending, if_neg hpending, if_neg (not_not.mpr rfl)]
  simp only [kernelWaitEvents.loop, shiftRight_and_one_ne_zero_iff]
  rw [show waiting ||| (1 : U32) <<< (31 - n) = waiting ||| flagOf (31 - n) from rfl, hcheck]
  by_cases hpending : k.sEventFlag.getLsbD (31 - n) = true
  · simp only [hpending, if_true]
  · simp only [hpending, if_false, Bool.false_eq_true]

/-- No flag of the list is pending from here on. -/
theorem kernelWaitEvents_loop_empty (list : U32) (n : Nat) :
    ∀ (waiting : U32) (k : Kernel), n ≤ 32 → k.sEventFlag &&& waiting = 0 →
      (∀ b, 32 - n ≤ b → b < 32 → list.getLsbD b = true → k.sEventFlag.getLsbD b = false) →
      kernelWaitEvents.loop list n waiting k = (KernelEventFlag_Empty, k) := by
  induction n with
  | zero => exact fun _ _ _ _ _ => rfl
  | succ n ih =>
      intro waiting k hn hnone hclear
      have hrest : ∀ b, 32 - n ≤ b → b < 32 → list.getLsbD b = true →
          k.sEventFlag.getLsbD b = false := fun b hb => hclear b (by omega)
      rw [kernelWaitEvents_loop_succ list n hnone]
      by_cases hbit : list.getLsbD (31 - n) = true
      · have hpending := hclear (31 - n) (by omega) (by omega) hbit
        rw [if_pos hbit, if_neg (Bool.eq_false_iff.mp hpending)]
        exact ih _ k (by omega) (and_or_flagOf hnone hpending) hrest
      · rw [if_neg hbit]
        exact ih waiting k (by omega) hnone hrest

/-- The lowest flag of the list that is pending from here on is cleared, and returned with
the flags of the list up to it. -/
theorem kernelWaitEvents_loop_pending (list : U32) {b : Nat} (hb : b < 32)
    (hlist : list.getLsbD b = true) (n : Nat) :
    ∀ (waiting : U32) (k : Kernel), n ≤ 32 → k.sEventFlag &&& waiting = 0 → 32 - n ≤ b →
      k.sEventFlag.getLsbD b = true →
      (∀ j, 32 - n ≤ j → j < b → list.getLsbD j = true → k.sEventFlag.getLsbD j = false) →
      ∃ flags, kernelWaitEvents.loop list n waiting k
          = (flags, { k with sEventFlag := k.sEventFlag &&& ~~~flagOf b }) ∧
        ∀ j, j < 32 → flags.getLsbD j
          = (waiting.getLsbD j || decide (32 - n ≤ j ∧ j ≤ b) && list.getLsbD j) := by
  induction n with
  | zero => exact fun _ _ _ _ hfrom => absurd hfrom (by omega)
  | succ n ih =>
      intro waiting k hn hnone hfrom hpending hclear
      have hrest : ∀ j, 32 - n ≤ j → j < b → list.getLsbD j = true →
          k.sEventFlag.getLsbD j = false := fun j hj => hclear j (by omega)
      rw [kernelWaitEvents_loop_succ list n hnone]
      by_cases hhere : 31 - n = b
      · -- The flag is found in this round.
        subst hhere
        rw [if_pos hlist, if_pos hpending]
        refine ⟨_, rfl, fun j hj => ?_⟩
        rw [BitVec.getLsbD_or, getLsbD_flagOf hb]
        by_cases hj' : j = 31 - n
        · rw [hj', hlist, decide_eq_true rfl, decide_eq_true (by omega), Bool.true_and]
        · rw [decide_eq_false hj', decide_eq_false (by omega), Bool.false_and]
      · have hrange : ∀ j, j ≠ 31 - n →
            (32 - (n + 1) ≤ j ∧ j ≤ b ↔ 32 - n ≤ j ∧ j ≤ b) := by omega
        by_cases hbit : list.getLsbD (31 - n) = true
        · -- A flag that is not pending stays in the mask.
          have hfree := hclear (31 - n) (by omega) (by omega) hbit
          have hin : 32 - (n + 1) ≤ 31 - n ∧ 31 - n ≤ b := by omega
          obtain ⟨flags, hloop, hflags⟩ :=
            ih _ k (by omega) (and_or_flagOf hnone hfree) (by omega) hpending hrest
          rw [if_pos hbit, if_neg (Bool.eq_false_iff.mp hfree)]
          refine ⟨flags, hloop, fun j hj => ?_⟩
          rw [hflags j hj, BitVec.getLsbD_or, getLsbD_flagOf (by omega)]
          by_cases hj' : j = 31 - n
          · rw [hj', hbit, decide_eq_true rfl, decide_eq_true hin]
            simp
          · rw [decide_eq_false hj', Bool.or_false, decide_eq_decide.mpr (hrange j hj')]
        · obtain ⟨flags, hloop, hflags⟩ := ih waiting k (by omega) hnone (by omega) hpending hrest
          rw [if_neg hbit]
          refine ⟨flags, hloop, fun j hj => ?_⟩
          rw [hflags j hj]
          by_cases hj' : j = 31 - n
          · rw [hj', Bool.eq_false_iff.mpr hbit, Bool.and_false, Bool.and_false]
          · rw [decide_eq_decide.mpr (hrange j hj')]

/-- The lowest bit is one of 32. -/
theorem IsLowestBit.lt {v : U32} {b : Nat} (h : IsLowestBit v b) : b < 32 := by
  by_contra hb
  exact absurd h.1 (by rw [BitVec.getLsbD_of_ge v b (Nat.le_of_not_lt hb)]; decide)

/-- There is one lowest bit. -/
theorem IsLowestBit.unique {v : U32} {b b' : Nat} (h : IsLowestBit v b)
    (h' : IsLowestBit v b') : b = b' := by
  rcases Nat.lt_trichotomy b b' with hlt | heq | hgt
  · exact absurd h.1 (Bool.eq_false_iff.mp (h'.2 b hlt))
  · exact heq
  · exact absurd h'.1 (Bool.eq_false_iff.mp (h.2 b' hgt))

/-- And there is one, if any bit is set. -/
theorem exists_isLowestBit {v : U32} (hv : v ≠ 0) : ∃ b, IsLowestBit v b := by
  have hex : ∃ b, v.getLsbD b = true := by
    by_contra hall
    refine hv (BitVec.eq_of_getLsbD_eq fun b _ => ?_)
    rw [Bool.eq_false_iff.mpr fun hb => hall ⟨b, hb⟩]
    exact BitVec.getLsbD_zero.symm
  exact ⟨Nat.find hex, Nat.find_spec hex, fun _ hj => Bool.eq_false_iff.mpr (Nat.find_min hex hj)⟩

/-- `Kernel_wait_events` without a pending flag in its list. -/
theorem kernelWaitEvents_empty {k : Kernel} {list : U32} (h : k.sEventFlag &&& list = 0) :
    kernelWaitEvents k list = (KernelEventFlag_Empty, k) := by
  refine kernelWaitEvents_loop_empty list 32 _ k (Nat.le_refl 32) BitVec.and_zero ?_
  intro b _ _ hb
  have hand := congrArg (fun v : U32 => v.getLsbD b) h
  simpa [hb] using hand

/-- `Kernel_wait_events` with a pending flag in its list: it clears the lowest one, and
returns it with the flags of the list below it. -/
theorem kernelWaitEvents_pending {k : Kernel} {list : U32} {b : Nat}
    (h : IsLowestBit (k.sEventFlag &&& list) b) :
    ∃ flags, kernelWaitEvents k list
        = (flags, { k with sEventFlag := k.sEventFlag &&& ~~~flagOf b }) ∧
      ∀ j, j < 32 → flags.getLsbD j = (decide (j ≤ b) && list.getLsbD j) := by
  have hbit := h.1
  rw [BitVec.getLsbD_and, Bool.and_eq_true] at hbit
  obtain ⟨flags, hloop, hflags⟩ := kernelWaitEvents_loop_pending list h.lt hbit.2 32
    KernelEventFlag_Empty k (Nat.le_refl 32) BitVec.and_zero (by omega) hbit.1 (by
      intro j _ hj hlist
      have hlow := h.2 j hj
      rwa [BitVec.getLsbD_and, hlist, Bool.and_true] at hlow)
  refine ⟨flags, hloop, fun j hj => ?_⟩
  rw [hflags j hj, show KernelEventFlag_Empty.getLsbD j = false from BitVec.getLsbD_zero,
    Bool.false_or]
  simp

/-! ### What a call should do -/

/-- A call is as it should be unless a wait passes by a flag on its way. -/
theorem reportsOne_iff (c : Kernel × List EventObs) (call : EventCall) :
    ReportsOne c call ↔ LowestIsPending c call := by
  cases call with
  | send list => exact iff_of_true (kernelSendEvents_eq c.1 list) trivial
  | wait list =>
      by_cases hnone : c.1.sEventFlag &&& list = 0
      · exact iff_of_true (Or.inl ⟨hnone, kernelWaitEvents_empty hnone⟩) (Or.inl hnone)
      · obtain ⟨b, hb⟩ := exists_isLowestBit hnone
        obtain ⟨flags, hwait, hflags⟩ := kernelWaitEvents_pending hb
        have hbit := hb.1
        rw [BitVec.getLsbD_and, Bool.and_eq_true] at hbit
        constructor
        · rintro (⟨hzero, -⟩ | ⟨b', hb', hwait'⟩)
          · exact absurd hzero hnone
          · -- The result is the flag alone, so the list has none below it.
            obtain rfl := hb.unique hb'
            rw [hwait] at hwait'
            have heq : flags = flagOf b := (Prod.mk.inj hwait').1
            refine Or.inr ⟨b, ⟨hbit.2, fun j hj => ?_⟩, hbit.1⟩
            have hj' := hflags j (Nat.lt_trans hj hb.lt)
            rw [heq, getLsbD_flagOf hb.lt, decide_eq_false (Nat.ne_of_lt hj),
              decide_eq_true (Nat.le_of_lt hj), Bool.true_and] at hj'
            exact hj'.symm
        · rintro (hzero | ⟨b', hb', hpending⟩)
          · exact absurd hzero hnone
          · have hlow : IsLowestBit (c.1.sEventFlag &&& list) b' := by
              refine ⟨by rw [BitVec.getLsbD_and, hpending, hb'.1]; rfl, fun j hj => ?_⟩
              rw [BitVec.getLsbD_and, hb'.2 j hj, Bool.and_false]
            obtain rfl := hb.unique hlow
            have heq : flags = flagOf b := by
              refine BitVec.eq_of_getLsbD_eq fun j hj => ?_
              rw [hflags j hj, getLsbD_flagOf hb.lt]
              rcases Nat.lt_trichotomy j b with hlt | heq | hgt
              · rw [hb'.2 j hlt, decide_eq_false (Nat.ne_of_lt hlt), Bool.and_false]
              · rw [heq, hb'.1, decide_eq_true (Nat.le_refl b), decide_eq_true rfl]
                rfl
              · rw [decide_eq_false (Nat.not_le_of_lt hgt), decide_eq_false (Nat.ne_of_gt hgt),
                  Bool.false_and]
            exact Or.inr ⟨b, hb, by rw [hwait, heq]⟩

/-! ### The run -/

/-- The flag of bit `b` was reported as often as it became pending, but for the last time if
it still is. -/
def Balanced (start : U32) (b : Nat) (c : Kernel × List EventObs) : Prop :=
  (start.getLsbD b).toNat + raises b c.2 = reports b c.2 + (c.1.sEventFlag.getLsbD b).toNat

/-- Different bits have different flags. -/
theorem flagOf_inj {b b' : Nat} (hb : b < 32) (hb' : b' < 32) (h : flagOf b = flagOf b') :
    b = b' := by
  have hbit := getLsbD_flagOf hb b
  rw [h, getLsbD_flagOf hb', decide_eq_true rfl] at hbit
  exact of_decide_eq_true hbit

/-- Raising counts for the flags raised. -/
theorem raises_raised (b : Nat) (t : List EventObs) (flags : U32) :
    raises b (t ++ [.raised flags]) = raises b t + (flags.getLsbD b).toNat := by
  rw [raises, List.countP_append, List.countP_singleton]
  show raises b t + (if flags.getLsbD b = true then 1 else 0) = _
  cases flags.getLsbD b <;> rfl

/-- Reporting is no raise. -/
theorem raises_reported (b : Nat) (t : List EventObs) (flag : U32) :
    raises b (t ++ [.reported flag]) = raises b t := by
  rw [raises, List.countP_append]
  rfl

/-- Raising is no report. -/
theorem reports_raised (b : Nat) (t : List EventObs) (flags : U32) :
    reports b (t ++ [.raised flags]) = reports b t := by
  rw [reports, List.count_append]
  rfl

/-- Reporting counts for the flag reported. -/
theorem reports_reported (b : Nat) (t : List EventObs) (flag : U32) :
    reports b (t ++ [.reported flag]) = reports b t + if flag = flagOf b then 1 else 0 := by
  rw [reports, List.count_append]
  by_cases h : flag = flagOf b
  · rw [h, if_pos rfl, List.count_singleton_self]
    rfl
  · have hnot : EventObs.reported (flagOf b) ∉ [EventObs.reported flag] := by
      rw [List.mem_singleton, EventObs.reported.injEq]
      exact Ne.symm h
    rw [if_neg h, List.count_eq_zero.mpr hnot]
    rfl

/-- A flag becomes pending or is reported, and the books stay balanced. -/
theorem balanced_next {start : U32} {b : Nat} (hb : b < 32) (c : Kernel × List EventObs)
    (call : EventCall) (h : Balanced start b c) (hcall : ReportsOne c call) :
    Balanced start b (events.next c call) := by
  obtain ⟨k, t⟩ := c
  have hsum : (start.getLsbD b).toNat + raises b t
      = reports b t + (k.sEventFlag.getLsbD b).toNat := h
  cases call with
  | send list =>
      show _ + raises b (t ++ [.raised _]) = reports b (t ++ [.raised _]) + _
      rw [raises_raised, reports_raised, ← Nat.add_assoc, hsum, Nat.add_assoc]
      congr 1
      show _ = ((kernelSendEvents k list).sEventFlag.getLsbD b).toNat
      rw [kernelSendEvents_eq, BitVec.getLsbD_and, BitVec.getLsbD_not, BitVec.getLsbD_or,
        decide_eq_true hb]
      cases k.sEventFlag.getLsbD b <;> cases list.getLsbD b <;> rfl
  | wait list =>
      show _ + raises b (t ++ [.reported _]) = reports b (t ++ [.reported _])
        + ((kernelWaitEvents k list).2.sEventFlag.getLsbD b).toNat
      rw [raises_reported, reports_reported, hsum]
      rcases hcall with ⟨-, hwait⟩ | ⟨b', hlow, hwait⟩
      · have hne : KernelEventFlag_Empty ≠ flagOf b := (flagOf_ne_zero hb).symm
        rw [show kernelWaitEvents k list = (KernelEventFlag_Empty, k) from hwait, if_neg hne,
          Nat.add_zero]
      · rw [show kernelWaitEvents k list
            = (flagOf b', { k with sEventFlag := k.sEventFlag &&& ~~~flagOf b' }) from hwait]
        rw [BitVec.getLsbD_and, BitVec.getLsbD_not, getLsbD_flagOf hlow.lt, decide_eq_true hb,
          Bool.true_and]
        by_cases heq : b = b'
        · -- The flag that was reported was pending, and is not any more.
          have hpending := hlow.1
          rw [BitVec.getLsbD_and, Bool.and_eq_true] at hpending
          rw [heq, if_pos rfl, show k.sEventFlag.getLsbD b' = true from hpending.1,
            decide_eq_true rfl]
          rfl
        · have hne : flagOf b' ≠ flagOf b := fun hflag => heq (flagOf_inj hb hlow.lt hflag.symm)
          rw [if_neg hne, decide_eq_false heq, Bool.not_false, Bool.and_true, Nat.add_zero]

/-- The calls of a run do what they should, from any pending flags, exactly if at each
`Kernel_wait_events` of the run no flag of its list is pending or the lowest one is. -/
theorem events_ok_iff (start : Kernel) (calls : List EventCall) :
    EventsOk start calls ↔ events.Meets LowestIsPending (start, []) calls := by
  have hsteps : events.Meets ReportsOne (start, []) calls
      ↔ events.Meets LowestIsPending (start, []) calls :=
    events.meets_congr (I := fun _ => True) (fun _ _ _ _ => trivial)
      (fun c call _ => reportsOne_iff c call) trivial
  refine ⟨fun h => hsteps.mp h.steps, fun h => ⟨hsteps.mpr h, fun pre hpre b hb => ?_⟩⟩
  have hstart : Balanced start.sEventFlag b (start, []) := by
    show _ + 0 = 0 + _
    rw [Nat.add_zero, Nat.zero_add]
  exact events.invariant_along (balanced_next hb) hstart (hsteps.mpr h) hpre

/-- Flag 1 is pending and a wait for flags 0 and 1 returns both: a task that compares the
result with flag 1 misses it, and it is gone. -/
theorem wait_passes_clear_flag :
    ¬ EventsOk .boot [.send (flagOf 1), .wait (flagOf 0 ||| flagOf 1)] ∧
      (events.exec (.boot, []) [.send (flagOf 1), .wait (flagOf 0 ||| flagOf 1)]).2
        = [.raised (flagOf 1), .reported (flagOf 0 ||| flagOf 1)] ∧
      (events.exec (.boot, []) [.send (flagOf 1), .wait (flagOf 0 ||| flagOf 1)]).1.sEventFlag
        = KernelEventFlag_Empty := by
  refine ⟨fun h => ?_, by decide, by decide⟩
  have hcount := h.reported _ (List.prefix_refl _) 1 (by decide)
  exact absurd hcount (by decide)

end PikvmHid
