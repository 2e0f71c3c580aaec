import PikvmHid.Spec.Mutex

/-!
# `PikvmHid.Proofs.Mutex`: the mutex is a lock with an owner

The mutex does to its holder what a lock with an owner does: `mutex_simulates_lock`. So a
task holds it between its lock and its next unlock, and what an unlock returns is wrong
exactly for the recorded owner of a free mutex: `exclusive_iff`.
-/

set_option autoImplicit false

namespace PikvmHid

open Lib Lib.Ownership

/-! ### The calls on the holder -/

/-- The holder is the owner of a mutex that is locked. -/
theorem Mutex.holder_eq_some_iff (s : Mutex) (t : U32) :
    s.holder = some t ↔ s.lock = true ∧ s.owner = t := by
  rw [Mutex.holder]
  cases s.lock <;> simp

/-- A lock succeeds if no task holds the mutex, and its task then does. -/
theorem kernelMutexLock_spec (s : Mutex) (t : U32) :
    (kernelMutexLock s t).1 = s.holder.isNone ∧
      (kernelMutexLock s t).2.holder = some (s.holder.getD t) := by
  obtain ⟨owner, lock⟩ := s
  cases lock <;> exact ⟨rfl, rfl⟩

/-- An unlock of the holder frees the mutex, and any other leaves its holder alone. -/
theorem kernelMutexUnlock_holder (s : Mutex) (t : U32) :
    (kernelMutexUnlock s t).2.holder = if s.holder = some t then none else s.holder := by
  obtain ⟨owner, lock⟩ := s
  by_cases ht : t = owner
  · cases lock <;> simp [kernelMutexUnlock, Mutex.holder, ht]
  · cases lock <;> simp [kernelMutexUnlock, Mutex.holder, ht, Ne.symm ht]

/-- The two fields of the mutex are a lock with an owner. -/
theorem mutex_simulates_lock : mutex.Simulates Ownership.lock Mutex.holder := by
  intro s op
  cases op with
  | acquire t =>
      obtain ⟨hok, hholder⟩ := kernelMutexLock_spec s t
      simp only [mutex, mutexStep, hok, hholder]
      rfl
  | release t =>
      simp only [mutex, mutexStep, kernelMutexUnlock_holder]
      rfl

/-- The task that holds the mutex is the one that locked it and has not unlocked it since:
every call keeps that. -/
theorem agree_mutex_next (c : Mutex × List (Event U32)) (call : Op U32)
    (h : Agree (c.1.holder, c.2)) :
    Agree ((mutex.next c call).1.holder, (mutex.next c call).2) := by
  rw [← mutex_simulates_lock.next_map]
  exact agree_next _ call h

/-! ### What a call should do -/

/-- Where the trace and the holder agree, a call is right unless the recorded owner unlocks a
free mutex. -/
theorem exclusive_step_iff {c : Mutex × List (Event U32)}
    (hagree : Agree (c.1.holder, c.2)) (call : Op U32) :
    Exclusive c call ↔ FreedByHolder c call := by
  have hheld : ∀ t, Held c.2 t ↔ c.1.holder = some t := hagree
  cases call with
  | acquire u =>
      refine iff_of_true ?_ trivial
      rintro ⟨t, ht⟩
      rw [(kernelMutexLock_spec c.1 u).1, (hheld t).mp ht]
      rfl
  | release u =>
      -- Only the owner field is compared, so the answer is right if it names the holder.
      have hanswer : (kernelMutexUnlock c.1 u).1 = true ↔ c.1.owner = u := by
        rw [kernelMutexUnlock]
        split
        · exact iff_of_true rfl (Eq.symm ‹_›)
        · exact iff_of_false Bool.false_ne_true (Ne.symm ‹_›)
      have hother : ∀ t, Held c.2 t → u ≠ t → (kernelMutexUnlock c.1 u).2 = c.1 := by
        intro t ht hne
        have howner := ((c.1.holder_eq_some_iff t).mp ((hheld t).mp ht)).2
        rw [kernelMutexUnlock, if_neg (howner ▸ hne)]
      show _ ∧ _ ↔ _
      rw [and_iff_right hother, hanswer, hheld u, c.1.holder_eq_some_iff]
      constructor
      · intro h howner
        exact (h.mp howner).1
      · intro h
        exact ⟨fun howner => ⟨h howner, howner⟩, And.right⟩

/-- Each call of a run of any tasks is as it should be exactly if no unlock of the run is
called by the recorded owner of a free mutex: task 0 before the first lock, and the last
holder after its unlock. -/
theorem exclusive_iff (calls : List (Op U32)) :
    mutex.Meets Exclusive (kernelMutexInit, []) calls
      ↔ mutex.Meets FreedByHolder (kernelMutexInit, []) calls :=
  mutex.meets_congr (I := fun c => Agree (c.1.holder, c.2))
    (fun c call h _ => agree_mutex_next c call h) (fun _ call h => exclusive_step_iff h call)
    agree_init

/-- Task 0 unlocks a mutex that it never locked, and the call returns true. -/
theorem unlock_of_free_mutex : ¬ mutex.Meets Exclusive (kernelMutexInit, []) [.release 0] := by
  rintro ⟨⟨-, h⟩, -⟩
  exact not_held_nil 0 (h.mp rfl)

end PikvmHid
