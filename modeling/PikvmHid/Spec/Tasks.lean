import PikvmHid.Kernel.Task
import PikvmHid.Lib.Machine

/-!
# `PikvmHid.Spec.Tasks`: what the task table should keep

A run of `Kernel_task_create` and `Kernel_task_scheduler` calls behind `Kernel_task_init`.
The observations are what the calls return: the index of the new task, or the error, and
the entry that the scheduler selects.

* `CreateOk`: a create gives a fresh index, or fails and changes nothing.
* `TableOk`: the table counts its tasks, and the scheduler stands on one of them.
* `Rotates`: as many scheduler calls as there are tasks select each of them once.
-/

set_option autoImplicit false

namespace PikvmHid

open Lib

/-- The two calls. -/
inductive TaskCall where
  | create (startFunc : U32)
  | schedule

/-- What a call returns. -/
inductive TaskObs where
  | create (id : U32)
  | select (id : U32)

/-- One call on the table. -/
def taskStep (s : TaskTable) : TaskCall → TaskTable × List TaskObs
  | .create startFunc =>
      let r := kernelTaskCreate s startFunc
      (r.2, [.create r.1])
  | .schedule         =>
      let s := kernelTaskScheduler s
      (s, s.gNextTcb.toList.map .select)

/-- The task table as a machine. -/
def tasks : Machine TaskTable TaskCall TaskObs := ⟨taskStep⟩

/-- The tasks created, each by its index. -/
def createdIds (t : List TaskObs) : List U32 :=
  t.filterMap fun
    | .create id => if id = NOT_ENOUGH_TASK_NUM then none else some id
    | .select _  => none

/-- The entries the scheduler selected. -/
def selectedIds (t : List TaskObs) : List U32 :=
  t.filterMap fun
    | .create _  => none
    | .select id => some id

/-- The scheduler is called once a task exists. -/
def SchedulesTask (c : TaskTable × List TaskObs) : TaskCall → Prop
  | .create _ => True
  | .schedule => createdIds c.2 ≠ []

instance (c : TaskTable × List TaskObs) : DecidablePred (SchedulesTask c)
  | .create _ => isTrue trivial
  | .schedule => inferInstanceAs (Decidable (createdIds c.2 ≠ []))

/-- A create returns an index below the bound that no task has, or an error, and then it has
changed nothing. -/
def CreateOk (c : TaskTable × List TaskObs) : TaskCall → Prop
  | .create startFunc =>
      let r := kernelTaskCreate c.1 startFunc
      (r.1.toNat < MAX_TASK_NUM ∧ r.1 ∉ createdIds c.2) ∨
      (r.1 = NOT_ENOUGH_TASK_NUM ∧ r.2 = c.1)
  | .schedule         => True

/-- The table counts the tasks, and the scheduler stands on one of them. The entry it
selected is inside the list. -/
structure TableOk (c : TaskTable × List TaskObs) : Prop where
  count : c.1.sAllocatedTcbIndex.toNat = (createdIds c.2).length
  current : createdIds c.2 ≠ [] → c.1.sCurrentTcbIndex ∈ createdIds c.2
  next : ∀ id ∈ c.1.gNextTcb, id ∈ createdIds c.2 ∧ id.toNat < MAX_TASK_NUM

/-- As many scheduler calls in a row as there are tasks select each task once. -/
def Rotates (start : TaskTable) (calls : List TaskCall) : Prop :=
  ∀ pre, let c := tasks.exec (start, []) pre
    let turns := List.replicate (createdIds c.2).length .schedule
    pre ++ turns <+: calls →
      ∃ selected, selectedIds (tasks.exec c turns).2 = selectedIds c.2 ++ selected ∧
        selected.Perm (createdIds c.2) ∧ selected.Nodup

/-- Everything the table should keep in a run. -/
structure TasksOk (start : TaskTable) (calls : List TaskCall) : Prop where
  create : tasks.Meets CreateOk (start, []) calls
  table : ∀ pre, pre <+: calls → TableOk (tasks.exec (start, []) pre)
  rotates : Rotates start calls

/-- The number of `Kernel_task_create` calls. -/
def createCalls (calls : List TaskCall) : Nat :=
  calls.countP fun | .create _ => true | .schedule => false

end PikvmHid
