import PikvmHid.Kernel.Synch
import PikvmHid.Lib.Machine

/-!
# `PikvmHid.Spec.Semaphore`: what the semaphore should keep

A run of `Kernel_sem_test` and `Kernel_sem_release` calls behind one `Kernel_sem_init`. A
unit is outstanding from a test that succeeds to a release.

* `Releases`: only an outstanding unit is released.
* `UnitsKept`: no unit is lost, and a test fails only without one.
* `SemOk`: all that along the run, and the first `Kernel_lock_sem` returns.
-/

set_option autoImplicit false

namespace PikvmHid

open Lib

/-- The two calls. -/
inductive SemCall where
  | test
  | release

/-- What a call leaves in the trace. -/
inductive SemObs where
  | test (ok : Bool)
  | release
  deriving DecidableEq

/-- One call on the semaphore. -/
def semStep (s : Sem) : SemCall → Sem × List SemObs
  | .test    => ((kernelSemTest s).2, [.test (kernelSemTest s).1])
  | .release => (kernelSemRelease s, [.release])

/-- The semaphore as a machine. -/
def semaphore : Machine Sem SemCall SemObs := ⟨semStep⟩

/-- The units that tests have taken and no release has given back. -/
def outstanding (t : List SemObs) : Int := t.count (.test true) - t.count .release

/-- Only an outstanding unit is released. -/
def Releases (c : Sem × List SemObs) : SemCall → Prop
  | .test    => True
  | .release => 0 < outstanding c.2

instance (c : Sem × List SemObs) : DecidablePred (Releases c)
  | .test    => isTrue trivial
  | .release => inferInstanceAs (Decidable (0 < outstanding c.2))

/-- The semaphore has between one and `DEF_SEM_MAX` units, each of which is free or
outstanding, and a test fails exactly if none is free. -/
structure UnitsKept (c : Sem × List SemObs) : Prop where
  one_le_max : 1 ≤ c.1.sSemMax.toInt
  max_le : c.1.sSemMax.toInt ≤ DEF_SEM_MAX.toInt
  sem_nonneg : 0 ≤ c.1.sSem.toInt
  sem_le : c.1.sSem.toInt ≤ c.1.sSemMax.toInt
  conserved : c.1.sSem.toInt + outstanding c.2 = c.1.sSemMax.toInt
  test_fails_iff : (kernelSemTest c.1).1 = false ↔ outstanding c.2 = c.1.sSemMax.toInt

/-- The units are kept along the run, and before it `Kernel_lock_sem` returns. -/
structure SemOk (start : Sem) (calls : List SemCall) : Prop where
  kept : ∀ pre, pre <+: calls → UnitsKept (semaphore.exec (start, []) pre)
  lock_returns : ∃ fuel s, kernelLockSem fuel start = some s

end PikvmHid
