import PikvmHid.Include.Stdint

/-!
# `PikvmHid.Kernel.Task`: the task table

`kernel/task.h` and `kernel/task.c`, with the stack sizes of `brd/memory_map.h`. The
statics and the two global pointers are a `TaskTable`, and a function that changes them
returns it. A pointer into `sTask_list` is the index it was made from. The memory of the
task stacks is a function from addresses to words.

`Arch_context_switching` goes over to the task that `gNext_tcb` points to and changes none
of this, so it is left out.
-/

set_option autoImplicit false

namespace PikvmHid

/-! ### `memory_map.h`, `PSR.h` -/

abbrev USR_TASK_STACK_SIZE : Nat := 2 * 1024

abbrev TASK_STACK_SIZE : Nat := USR_TASK_STACK_SIZE * 3

abbrev PSR_INIT : U32 := 0x21000000

/-! ### `task.h` -/

abbrev NOT_ENOUGH_TASK_NUM : U32 := 0xFFFFFFFF

abbrev MAX_TASK_NUM : Nat := TASK_STACK_SIZE / USR_TASK_STACK_SIZE

/-- The offset of `pc` in `KernelTaskContext_t`, behind `spsr` and `r0_r12`. -/
abbrev contextPc : U32 := 4 + 13 * 4

/-- `sizeof(KernelTaskContext_t)`. -/
abbrev contextSize : U32 := contextPc + 4

/-- `KernelTcb_t`. -/
structure KernelTcb where
  sp : U32
  stackBase : U32

/-- The statics and globals of `task.c`, and the memory of the stacks. -/
structure TaskTable where
  sTaskList : Vector KernelTcb MAX_TASK_NUM
  sAllocatedTcbIndex : U32
  sCurrentTcbIndex : U32
  gCurrentTcb : Option U32
  gNextTcb : Option U32
  memory : U32 → U32

namespace TaskTable

/-- The table at reset: the `.bss` section is zero, and the stacks hold anything. -/
def reset (memory : U32 → U32) : TaskTable :=
  ⟨Vector.replicate MAX_TASK_NUM ⟨0, 0⟩, 0, 0, none, none, memory⟩

/-- A store of one word. -/
def store (s : TaskTable) (address word : U32) : TaskTable :=
  { s with memory := fun a => if a = address then word else s.memory a }

/-- The loop body of `Kernel_task_init`: the stack of task `i`, and an empty context at its
upper end. -/
def initTcb (taskStackStart : U32) (s : TaskTable) (i : Fin MAX_TASK_NUM) : TaskTable :=
  let stackBase := taskStackStart + BitVec.ofNat 32 (i * USR_TASK_STACK_SIZE)
  let sp := stackBase + BitVec.ofNat 32 USR_TASK_STACK_SIZE - 4 - contextSize
  let s := { s with sTaskList := s.sTaskList.set i ⟨sp, stackBase⟩ i.isLt }
  (s.store (sp + contextPc) 0).store sp PSR_INIT

end TaskTable

/-- `Kernel_task_init`. The stacks start behind the `.bss` section. -/
def kernelTaskInit (taskStackStart : U32) (s : TaskTable) : TaskTable :=
  (List.finRange MAX_TASK_NUM).foldl (TaskTable.initTcb taskStackStart)
    { s with sAllocatedTcbIndex := 0, sCurrentTcbIndex := 0 }

/-- `Kernel_task_create`: the return value and the table. The index steps on before it is
compared with the bound. An index past the bound is stored only after the index has
wrapped, and then there is no entry that it stands for. -/
def kernelTaskCreate (s : TaskTable) (startFunc : U32) : U32 × TaskTable :=
  let newTcb := s.sTaskList[s.sAllocatedTcbIndex.toNat]?
  let s := { s with sAllocatedTcbIndex := s.sAllocatedTcbIndex + 1 }
  if s.sAllocatedTcbIndex > BitVec.ofNat 32 MAX_TASK_NUM then (NOT_ENOUGH_TASK_NUM, s)
  else
    (s.sAllocatedTcbIndex - 1,
      match newTcb with
      | some tcb => s.store (tcb.sp + contextPc) startFunc
      | none     => s)

/-- `Scheduler_round_robin_algorithm`: the entry it returns, and the table. -/
def schedulerRoundRobinAlgorithm (s : TaskTable) : U32 × TaskTable :=
  let current := (s.sCurrentTcbIndex + 1) % s.sAllocatedTcbIndex
  (current, { s with sCurrentTcbIndex := current })

/-- `Kernel_task_scheduler`, up to `Arch_context_switching`. -/
def kernelTaskScheduler (s : TaskTable) : TaskTable :=
  let s := { s with gCurrentTcb := some s.sCurrentTcbIndex }
  let r := schedulerRoundRobinAlgorithm s
  { r.2 with gNextTcb := some r.1 }

end PikvmHid
