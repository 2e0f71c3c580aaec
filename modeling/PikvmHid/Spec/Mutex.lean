import PikvmHid.Kernel.Synch
import PikvmHid.Lib.Ownership

/-!
# `PikvmHid.Spec.Mutex`: what the mutex should keep

A run of `Kernel_mutex_lock` and `Kernel_mutex_unlock` calls, each with the id of the task
that makes it. `Kernel_lock_mutex` and `Kernel_unlock_mutex` are such calls, with a yield
behind one that returns false.

* `Exclusive`: while a task holds the mutex, no lock succeeds and no unlock of another task
  changes anything, and an unlock returns true exactly if its task holds the mutex.
* `FreedByHolder`: no unlock is called by the recorded owner of a free mutex.
-/

set_option autoImplicit false

namespace PikvmHid

open Lib Lib.Ownership

/-- One call of a task on the mutex. -/
def mutexStep (s : Mutex) : Op U32 → Mutex × List (Event U32)
  | .acquire t => ((kernelMutexLock s t).2, [.acquire t (kernelMutexLock s t).1])
  | .release t => ((kernelMutexUnlock s t).2, [.release t])

/-- The mutex as a machine. -/
def mutex : Machine Mutex (Op U32) (Event U32) := ⟨mutexStep⟩

/-- What the next call should do, by who holds the mutex according to the trace. -/
def Exclusive (c : Mutex × List (Event U32)) : Op U32 → Prop
  | .acquire u => (∃ t, Held c.2 t) → (kernelMutexLock c.1 u).1 = false
  | .release u =>
      (∀ t, Held c.2 t → u ≠ t → (kernelMutexUnlock c.1 u).2 = c.1) ∧
        ((kernelMutexUnlock c.1 u).1 = true ↔ Held c.2 u)

/-- The recorded owner does not unlock a mutex that is free. -/
def FreedByHolder (c : Mutex × List (Event U32)) : Op U32 → Prop
  | .acquire _ => True
  | .release u => c.1.owner = u → c.1.lock = true

/-- The task that holds the mutex. The owner field is the last one that did. -/
def Mutex.holder (s : Mutex) : Option U32 := if s.lock then some s.owner else none

end PikvmHid
