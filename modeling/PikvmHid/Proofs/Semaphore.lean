import PikvmHid.Spec.Semaphore

/-!
# `PikvmHid.Proofs.Semaphore`: the units of the semaphore

A test takes a unit if there is one, and a release of an outstanding unit gives it back, so
a semaphore that starts with its units keeps them: `unitsKept_next`. `Kernel_sem_init` gives
it units exactly if its argument is positive: `sem_ok_iff`.
-/

set_option autoImplicit false

namespace PikvmHid

open Lib Lib.Machine

/-! ### The calls on the count -/

/-- A test without a unit fails and changes nothing. -/
theorem kernelSemTest_empty {s : Sem} (h : s.sSem.toInt ≤ 0) :
    kernelSemTest s = (false, s) :=
  if_pos (BitVec.sle_iff_toInt_le.mpr h)

/-- A test that succeeds takes one unit. -/
theorem kernelSemTest_spec {s : Sem} (h : 0 < s.sSem.toInt) :
    (kernelSemTest s).1 = true ∧ (kernelSemTest s).2.sSemMax = s.sSemMax ∧
      (kernelSemTest s).2.sSem.toInt = s.sSem.toInt - 1 := by
  have hpos : s.sSem.sle 0 = false := by
    rw [Bool.eq_false_iff, ne_eq, BitVec.sle_iff_toInt_le, BitVec.ofNat_eq_ofNat,
      BitVec.toInt_zero]
    omega
  have htest : kernelSemTest s = (true, { s with sSem := s.sSem - 1 }) := by
    rw [kernelSemTest, hpos, if_neg Bool.false_ne_true]
  rw [htest]
  refine ⟨rfl, rfl, ?_⟩
  have hle := s.sSem.toInt_le
  show (s.sSem - 1).toInt = s.sSem.toInt - 1
  rw [BitVec.toInt_sub, BitVec.ofNat_eq_ofNat, show (1#32).toInt = 1 from rfl]
  exact Int.bmod_eq_of_le (by omega) (by omega)

/-- A test fails when the count is not positive. -/
theorem kernelSemTest_eq_false_iff (s : Sem) :
    (kernelSemTest s).1 = false ↔ s.sSem.toInt ≤ 0 := by
  constructor
  · intro hfalse
    by_contra hpos
    have htrue := (kernelSemTest_spec (Int.not_le.mp hpos)).1
    rw [hfalse] at htrue
    exact Bool.false_ne_true htrue
  · intro hempty
    rw [kernelSemTest_empty hempty]

/-- A release below the maximum gives one unit back. -/
theorem kernelSemRelease_spec {s : Sem} (hnonneg : 0 ≤ s.sSem.toInt)
    (h : s.sSem.toInt < s.sSemMax.toInt) :
    (kernelSemRelease s).sSemMax = s.sSemMax ∧
      (kernelSemRelease s).sSem.toInt = s.sSem.toInt + 1 := by
  have hmax := s.sSemMax.toInt_lt
  have hadd : (s.sSem + 1).toInt = s.sSem.toInt + 1 := by
    rw [BitVec.toInt_add, BitVec.ofNat_eq_ofNat, show (1#32).toInt = 1 from rfl]
    exact Int.bmod_eq_of_le (by omega) (by omega)
  -- The saturation changes nothing: it only applies at the maximum itself.
  by_cases hfull : s.sSemMax.sle (s.sSem + 1)
  · have hrel : kernelSemRelease s = { s with sSem := s.sSemMax } := by
      simp only [kernelSemRelease, hfull, if_true]
    have hle := BitVec.sle_iff_toInt_le.mp hfull
    rw [hrel]
    refine ⟨rfl, ?_⟩
    show s.sSemMax.toInt = s.sSem.toInt + 1
    omega
  · have hrel : kernelSemRelease s = { s with sSem := s.sSem + 1 } := by
      simp only [kernelSemRelease, hfull, if_false, Bool.false_eq_true]
    rw [hrel]
    exact ⟨rfl, hadd⟩

/-! ### The run -/

/-- At first nothing is taken. -/
@[simp] theorem outstanding_nil : outstanding [] = 0 := rfl

/-- A test that succeeds takes one. -/
theorem outstanding_test_true (t : List SemObs) :
    outstanding (t ++ [.test true]) = outstanding t + 1 := by
  simp [outstanding, List.count_append]
  omega

/-- One that fails takes none. -/
theorem outstanding_test_false (t : List SemObs) :
    outstanding (t ++ [.test false]) = outstanding t := by
  simp [outstanding, List.count_append]

/-- A release gives one back. -/
theorem outstanding_release (t : List SemObs) :
    outstanding (t ++ [.release]) = outstanding t - 1 := by
  simp [outstanding, List.count_append]
  omega

/-- Without a free unit all are outstanding, so the last field follows from the others. -/
theorem UnitsKept.of_conserved {c : Sem × List SemObs} (one_le_max : 1 ≤ c.1.sSemMax.toInt)
    (max_le : c.1.sSemMax.toInt ≤ DEF_SEM_MAX.toInt) (sem_nonneg : 0 ≤ c.1.sSem.toInt)
    (sem_le : c.1.sSem.toInt ≤ c.1.sSemMax.toInt)
    (conserved : c.1.sSem.toInt + outstanding c.2 = c.1.sSemMax.toInt) : UnitsKept c where
  one_le_max := one_le_max
  max_le := max_le
  sem_nonneg := sem_nonneg
  sem_le := sem_le
  conserved := conserved
  test_fails_iff := by
    rw [kernelSemTest_eq_false_iff]
    omega

/-- A call keeps the units, provided that a release has one to give back. -/
theorem unitsKept_next (c : Sem × List SemObs) (call : SemCall) (h : UnitsKept c)
    (hrel : Releases c call) : UnitsKept (semaphore.next c call) := by
  obtain ⟨s, t⟩ := c
  have hone : 1 ≤ s.sSemMax.toInt := h.one_le_max
  have hmax : s.sSemMax.toInt ≤ DEF_SEM_MAX.toInt := h.max_le
  have hnonneg : 0 ≤ s.sSem.toInt := h.sem_nonneg
  have hle : s.sSem.toInt ≤ s.sSemMax.toInt := h.sem_le
  have hsum : s.sSem.toInt + outstanding t = s.sSemMax.toInt := h.conserved
  cases call with
  | test =>
      by_cases hpos : 0 < s.sSem.toInt
      · obtain ⟨htrue, hsame, hsem⟩ := kernelSemTest_spec hpos
        have hnext : semaphore.next (s, t) .test = ((kernelSemTest s).2, t ++ [.test true]) := by
          simp only [next, semaphore, semStep, htrue]
        rw [hnext]
        have hout := outstanding_test_true t
        exact .of_conserved (by simp only [hsame]; omega) (by simp only [hsame]; omega)
          (by simp only [hsem]; omega) (by simp only [hsame, hsem]; omega)
          (by simp only [hsame, hsem, hout]; omega)
      · -- A test that fails changes nothing.
        have hnext : semaphore.next (s, t) .test = (s, t ++ [.test false]) := by
          simp only [next, semaphore, semStep, kernelSemTest_empty (Int.not_lt.mp hpos)]
        rw [hnext]
        exact .of_conserved hone hmax hnonneg hle (by rw [outstanding_test_false]; exact hsum)
  | release =>
      have hout : 0 < outstanding t := hrel
      obtain ⟨hsame, hsem⟩ := kernelSemRelease_spec hnonneg (by omega)
      have hrelease := outstanding_release t
      show UnitsKept (kernelSemRelease s, t ++ [.release])
      exact .of_conserved (by simp only [hsame]; omega) (by simp only [hsame]; omega)
        (by simp only [hsem]; omega) (by simp only [hsame, hsem]; omega)
        (by simp only [hsame, hsem, hrelease]; omega)

/-! ### The start -/

/-- The first assignment of `Kernel_sem_init` is lost: the maximum is the smaller of the
argument and `DEF_SEM_MAX`, also where the argument is not positive. -/
theorem kernelSemInit_spec (s : Sem) (max : I32) :
    (kernelSemInit s max).sSemMax.toInt = min max.toInt DEF_SEM_MAX.toInt ∧
      (kernelSemInit s max).sSem = (kernelSemInit s max).sSemMax := by
  refine ⟨?_, rfl⟩
  show (if DEF_SEM_MAX.sle max then DEF_SEM_MAX else max).toInt = _
  by_cases h : DEF_SEM_MAX.sle max
  · rw [if_pos h, min_eq_right (BitVec.sle_iff_toInt_le.mp h)]
  · rw [if_neg h, min_eq_left]
    rw [BitVec.sle_iff_toInt_le] at h
    omega

/-- The semaphore starts with its units if the argument is positive. -/
theorem unitsKept_init (s : Sem) {max : I32} (h : 0 < max.toInt) :
    UnitsKept (kernelSemInit s max, []) := by
  obtain ⟨hmax, hsem⟩ := kernelSemInit_spec s max
  have hdef : DEF_SEM_MAX.toInt = 8 := rfl
  refine .of_conserved (by simp only [hmax]; omega) (by simp only [hmax]; omega)
    (by simp only [hsem, hmax]; omega) (le_of_eq (by simp only [hsem])) ?_
  rw [hsem, outstanding_nil, Int.add_zero]

/-- Without a unit no number of tests is enough. -/
theorem kernelLockSem_eq_none {s : Sem} (h : s.sSem.toInt ≤ 0) (fuel : Nat) :
    kernelLockSem fuel s = none := by
  induction fuel with
  | zero => rfl
  | succ fuel ih =>
      simp only [kernelLockSem, kernelSemTest_empty h, Bool.false_eq_true, if_false, ih]

/-- The units are kept along a run that releases only what is outstanding, and
`Kernel_lock_sem` returns before it, exactly if `Kernel_sem_init` was called with a positive
number. -/
theorem sem_ok_iff (s : Sem) (max : I32) (calls : List SemCall)
    (h : semaphore.Meets Releases (kernelSemInit s max, []) calls) :
    SemOk (kernelSemInit s max) calls ↔ 0 < max.toInt := by
  constructor
  · intro hok
    have hone : 1 ≤ (kernelSemInit s max).sSemMax.toInt :=
      (hok.kept [] List.nil_prefix).one_le_max
    rw [(kernelSemInit_spec s max).1] at hone
    omega
  · intro hpos
    have hstart := unitsKept_init s hpos
    refine ⟨fun pre hpre => semaphore.invariant_along unitsKept_next hstart h hpre, 1, ?_⟩
    -- The first test succeeds, because every unit is free.
    have hfree : 0 < (kernelSemInit s max).sSem.toInt := by
      have hsum := hstart.conserved
      have hone := hstart.one_le_max
      simp only [outstanding_nil] at hsum hone
      omega
    exact ⟨_, by rw [kernelLockSem, (kernelSemTest_spec hfree).1, if_pos rfl]⟩

/-- Two units are taken, the third test fails, and a unit comes back. -/
theorem sem_ok_two_units :
    SemOk (kernelSemInit ⟨0, 0⟩ 2) [.test, .test, .test, .release] :=
  (sem_ok_iff ⟨0, 0⟩ 2 [.test, .test, .test, .release] (by decide)).mpr (by decide)

/-- `Kernel_sem_init` with zero leaves no unit, and `Kernel_lock_sem` spins forever. -/
theorem sem_init_zero_deadlock :
    ¬ SemOk (kernelSemInit ⟨0, 0⟩ 0) [] ∧
      ∀ fuel, kernelLockSem fuel (kernelSemInit ⟨0, 0⟩ 0) = none := by
  refine ⟨fun hok => ?_, kernelLockSem_eq_none (by decide)⟩
  have hone := (hok.kept [] List.nil_prefix).one_le_max
  exact absurd hone (by decide)

end PikvmHid
