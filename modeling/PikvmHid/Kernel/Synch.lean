import PikvmHid.Include.Stdint

/-!
# `PikvmHid.Kernel.Synch`: the semaphore and the mutex

`kernel/synch.h` and `kernel/synch.c`, and the calls of `kernel/kernel.c` that spin on the
semaphore. The statics are a `Sem` and a `Mutex`, and a function that changes them returns
them.

`Kernel_yield` changes nothing here: `main.c` creates one task, and the scheduler selects it
again.
-/

set_option autoImplicit false

namespace PikvmHid

/-- `int32_t`, compared as a signed number. -/
abbrev I32 := BitVec 32

/-! ### The semaphore -/

abbrev DEF_SEM_MAX : I32 := 8

/-- The statics `sSemMax` and `sSem`. -/
structure Sem where
  sSemMax : I32
  sSem : I32
  deriving DecidableEq, Repr

/-- `Kernel_sem_init`. The second assignment of `sSemMax` does not read the first. -/
def kernelSemInit (s : Sem) (max : I32) : Sem :=
  let s := { s with sSemMax := if max.sle 0 then DEF_SEM_MAX else max }
  let s := { s with sSemMax := if DEF_SEM_MAX.sle max then DEF_SEM_MAX else max }
  { s with sSem := s.sSemMax }

/-- `Kernel_sem_test`. -/
def kernelSemTest (s : Sem) : Bool × Sem :=
  if s.sSem.sle 0 then (false, s) else (true, { s with sSem := s.sSem - 1 })

/-- `Kernel_sem_release`. -/
def kernelSemRelease (s : Sem) : Sem :=
  let s := { s with sSem := s.sSem + 1 }
  if s.sSemMax.sle s.sSem then { s with sSem := s.sSemMax } else s

/-- The loop of `Kernel_lock_sem`, for at most `fuel` tests. It has no value if none of them
succeeds. -/
def kernelLockSem : Nat → Sem → Option Sem
  | 0,        _ => none
  | fuel + 1, s =>
      let r := kernelSemTest s
      if r.1 then some r.2 else kernelLockSem fuel r.2

/-! ### The mutex -/

/-- `KernelMutext_t`. -/
structure Mutex where
  owner : U32
  lock : Bool
  deriving DecidableEq, Repr

/-- `Kernel_mutex_init`. -/
def kernelMutexInit : Mutex := ⟨0, false⟩

/-- `Kernel_mutex_lock`. -/
def kernelMutexLock (s : Mutex) (owner : U32) : Bool × Mutex :=
  if s.lock then (false, s) else (true, { s with owner := owner, lock := true })

/-- `Kernel_mutex_unlock`. -/
def kernelMutexUnlock (s : Mutex) (owner : U32) : Bool × Mutex :=
  if owner = s.owner then (true, { s with lock := false }) else (false, s)

end PikvmHid
