import PikvmHid.Lib.RoundRobin
import PikvmHid.Spec.Tasks

/-!
# `PikvmHid.Proofs.Tasks`: the task table

`Kernel_task_create` steps `sAllocated_tcb_index` on before it looks at the bound. As long
as there is room, the index is the number of tasks, and the scheduler goes round them
(`TaskInv`). A create without room leaves the index one too high, and the index is what the
scheduler divides by.

`tasks_ok_iff`: a run keeps the table exactly if it does not call `Kernel_task_create` more
than `MAX_TASK_NUM` times. `select_outside`: after one call more, the scheduler selects an
entry that does not exist.
-/

set_option autoImplicit false

namespace PikvmHid

open Lib

/-! ### The calls -/

/-- A create with room gives the next index, and leaves the rest of the scheduler alone. -/
theorem kernelTaskCreate_room {s : TaskTable} (startFunc : U32)
    (h : s.sAllocatedTcbIndex.toNat < MAX_TASK_NUM) :
    (kernelTaskCreate s startFunc).1 = s.sAllocatedTcbIndex ∧
      (kernelTaskCreate s startFunc).2.sAllocatedTcbIndex.toNat
        = s.sAllocatedTcbIndex.toNat + 1 ∧
      (kernelTaskCreate s startFunc).2.sCurrentTcbIndex = s.sCurrentTcbIndex ∧
      (kernelTaskCreate s startFunc).2.gNextTcb = s.gNextTcb := by
  have hsucc : (s.sAllocatedTcbIndex + 1).toNat = s.sAllocatedTcbIndex.toNat + 1 := by
    rw [BitVec.toNat_add]
    exact Nat.mod_eq_of_lt (Nat.lt_of_le_of_lt h (by decide))
  have hroom : ¬ s.sAllocatedTcbIndex + 1 > BitVec.ofNat 32 MAX_TASK_NUM := by
    rw [gt_iff_lt, BitVec.lt_def, hsucc]
    exact Nat.not_lt_of_le h
  have hid : s.sAllocatedTcbIndex + 1 - 1 = s.sAllocatedTcbIndex := BitVec.add_sub_cancel _ _
  simp only [kernelTaskCreate, if_neg hroom]
  -- The start address goes into the context of the entry, or nowhere.
  split
  · exact ⟨hid, hsucc, rfl, rfl⟩
  · exact ⟨hid, hsucc, rfl, rfl⟩

/-- A create without room fails, and the index has stepped on. -/
theorem kernelTaskCreate_full {s : TaskTable} (startFunc : U32)
    (h : s.sAllocatedTcbIndex.toNat = MAX_TASK_NUM) :
    kernelTaskCreate s startFunc = (NOT_ENOUGH_TASK_NUM,
      { s with sAllocatedTcbIndex := s.sAllocatedTcbIndex + 1 }) := by
  have hfull : s.sAllocatedTcbIndex + 1 > BitVec.ofNat 32 MAX_TASK_NUM := by
    rw [gt_iff_lt, BitVec.lt_def, BitVec.toNat_add, h]
    decide
  simp only [kernelTaskCreate, if_pos hfull]

/-- The scheduler selects the entry behind the current one, and goes there. -/
theorem kernelTaskScheduler_spec (s : TaskTable) :
    (kernelTaskScheduler s).sCurrentTcbIndex
        = (s.sCurrentTcbIndex + 1) % s.sAllocatedTcbIndex ∧
      (kernelTaskScheduler s).gNextTcb
        = some ((s.sCurrentTcbIndex + 1) % s.sAllocatedTcbIndex) ∧
      (kernelTaskScheduler s).sAllocatedTcbIndex = s.sAllocatedTcbIndex :=
  ⟨rfl, rfl, rfl⟩

/-! ### The invariant -/

/-- The tasks created along a longer run. -/
@[simp] theorem createdIds_append (s t : List TaskObs) :
    createdIds (s ++ t) = createdIds s ++ createdIds t :=
  List.filterMap_append

/-- The tasks selected along it. -/
@[simp] theorem selectedIds_append (s t : List TaskObs) :
    selectedIds (s ++ t) = selectedIds s ++ selectedIds t :=
  List.filterMap_append

/-- An id as a number and back. -/
theorem ofNat_toNat_id (id : U32) : BitVec.ofNat 32 id.toNat = id :=
  (BitVec.ofNat_toNat 32 id).trans (BitVec.setWidth_eq id)

/-- The tasks have the indices below their number, in their order. The scheduler stands on
one of them, or on the first entry when there is none. -/
structure TaskInv (c : TaskTable × List TaskObs) : Prop where
  count : c.1.sAllocatedTcbIndex.toNat = (createdIds c.2).length
  le_max : (createdIds c.2).length ≤ MAX_TASK_NUM
  ids : createdIds c.2 = (List.range (createdIds c.2).length).map (BitVec.ofNat 32)
  current_lt : c.1.sCurrentTcbIndex.toNat < max 1 (createdIds c.2).length
  next_lt : ∀ id ∈ c.1.gNextTcb, id.toNat < (createdIds c.2).length

/-- Every id below the count was created. -/
theorem TaskInv.mem_createdIds {c : TaskTable × List TaskObs} (h : TaskInv c) {id : U32}
    (hid : id.toNat < (createdIds c.2).length) : id ∈ createdIds c.2 := by
  rw [h.ids]
  exact List.mem_map.mpr ⟨id.toNat, List.mem_range.mpr hid, ofNat_toNat_id id⟩

/-- And no other one was. -/
theorem TaskInv.lt_of_mem {c : TaskTable × List TaskObs} (h : TaskInv c) {id : U32}
    (hid : id ∈ createdIds c.2) : id.toNat < (createdIds c.2).length := by
  rw [h.ids] at hid
  obtain ⟨i, hi, rfl⟩ := List.mem_map.mp hid
  have hlt := List.mem_range.mp hi
  have hmax := h.le_max
  have hsmall : MAX_TASK_NUM < 2 ^ 32 := by decide
  rw [BitVec.toNat_ofNat, Nat.mod_eq_of_lt (by omega)]
  exact hlt

/-- There is room for one more task, if the call creates one. -/
def HasRoom (c : TaskTable × List TaskObs) : TaskCall → Prop
  | .create _ => (createdIds c.2).length < MAX_TASK_NUM
  | .schedule => True

/-- Creating a task keeps the invariant while there is room. -/
theorem taskInv_create {c : TaskTable × List TaskObs} (h : TaskInv c) (startFunc : U32)
    (hroom : (createdIds c.2).length < MAX_TASK_NUM) :
    TaskInv (tasks.next c (.create startFunc)) ∧
      createdIds (tasks.next c (.create startFunc)).2
        = createdIds c.2 ++ [c.1.sAllocatedTcbIndex] := by
  obtain ⟨hid, halloc, hcurrent, hnext⟩ :=
    kernelTaskCreate_room startFunc (s := c.1) (by rw [h.count]; exact hroom)
  have hne : c.1.sAllocatedTcbIndex ≠ NOT_ENOUGH_TASK_NUM := by
    intro heq
    have hcount := h.count
    have hbig : MAX_TASK_NUM < (NOT_ENOUGH_TASK_NUM).toNat := by decide
    rw [heq] at hcount
    omega
  have hcreated : createdIds (tasks.next c (.create startFunc)).2
      = createdIds c.2 ++ [c.1.sAllocatedTcbIndex] := by
    show createdIds (c.2 ++ [.create (kernelTaskCreate c.1 startFunc).1]) = _
    rw [createdIds_append, hid]
    exact congrArg (createdIds c.2 ++ ·) (List.filterMap_cons_some (if_neg hne))
  refine ⟨?_, hcreated⟩
  have hlen : (createdIds c.2 ++ [c.1.sAllocatedTcbIndex]).length
      = (createdIds c.2).length + 1 := List.length_append
  refine ⟨?_, ?_, ?_, ?_, ?_⟩
  · rw [hcreated, hlen]
    exact halloc.trans (by rw [h.count])
  · rw [hcreated, hlen]
    exact hroom
  · -- The new index is the number of the tasks before.
    rw [hcreated, hlen, List.range_succ, List.map_append, ← h.ids, ← h.count,
      List.map_singleton, ofNat_toNat_id]
  · rw [hcreated, hlen]
    have hlt := h.current_lt
    show (kernelTaskCreate c.1 startFunc).2.sCurrentTcbIndex.toNat < _
    rw [hcurrent]
    omega
  · rw [hcreated, hlen]
    intro id hmem
    have hmem' : id ∈ c.1.gNextTcb := by
      rw [← hnext]
      exact hmem
    have := h.next_lt id hmem'
    omega

/-- The index that the scheduler goes to. -/
theorem TaskInv.toNat_next {c : TaskTable × List TaskObs} (h : TaskInv c) :
    ((c.1.sCurrentTcbIndex + 1) % c.1.sAllocatedTcbIndex).toNat
      = (c.1.sCurrentTcbIndex.toNat + 1) % (createdIds c.2).length := by
  have hlt := h.current_lt
  have hmax := h.le_max
  have hsmall : MAX_TASK_NUM + 1 < 2 ^ 32 := by decide
  have hsucc : (c.1.sCurrentTcbIndex + 1).toNat = c.1.sCurrentTcbIndex.toNat + 1 := by
    rw [BitVec.toNat_add]
    exact Nat.mod_eq_of_lt (by rw [show (1 : U32).toNat = 1 from rfl]; omega)
  rw [BitVec.toNat_umod, hsucc, h.count]

/-- The scheduler selects the next one in turn. -/
theorem taskInv_schedule {c : TaskTable × List TaskObs} (h : TaskInv c)
    (hsome : createdIds c.2 ≠ []) :
    TaskInv (tasks.next c .schedule) ∧
      createdIds (tasks.next c .schedule).2 = createdIds c.2 ∧
      selectedIds (tasks.next c .schedule).2
        = selectedIds c.2 ++ [(c.1.sCurrentTcbIndex + 1) % c.1.sAllocatedTcbIndex] := by
  obtain ⟨hcurrent, hnext, halloc⟩ := kernelTaskScheduler_spec c.1
  have hobs : (tasks.next c .schedule).2
      = c.2 ++ [.select ((c.1.sCurrentTcbIndex + 1) % c.1.sAllocatedTcbIndex)] := rfl
  have hcreated : createdIds (tasks.next c .schedule).2 = createdIds c.2 := by
    rw [hobs, createdIds_append]
    exact List.append_nil _
  have hpos : 0 < (createdIds c.2).length := List.length_pos_of_ne_nil hsome
  -- The next index is one of a created task.
  have hlt : ((c.1.sCurrentTcbIndex + 1) % c.1.sAllocatedTcbIndex).toNat
      < (createdIds c.2).length := by
    rw [h.toNat_next]
    exact Nat.mod_lt _ hpos
  refine ⟨⟨?_, ?_, ?_, ?_, ?_⟩, hcreated, ?_⟩
  · rw [hcreated]
    exact h.count
  · rw [hcreated]
    exact h.le_max
  · rw [hcreated]
    exact h.ids
  · rw [hcreated]
    show (kernelTaskScheduler c.1).sCurrentTcbIndex.toNat < _
    rw [hcurrent]
    omega
  · rw [hcreated]
    intro id hid
    have hid' : id ∈ (kernelTaskScheduler c.1).gNextTcb := hid
    rw [hnext, Option.mem_some_iff] at hid'
    rw [← hid']
    exact hlt
  · rw [hobs, selectedIds_append]
    rfl

/-- Every call keeps the invariant. -/
theorem taskInv_next (c : TaskTable × List TaskObs) (i : TaskCall) (h : TaskInv c)
    (hok : HasRoom c i ∧ SchedulesTask c i) : TaskInv (tasks.next c i) := by
  cases i with
  | create startFunc => exact (taskInv_create h startFunc hok.1).1
  | schedule => exact (taskInv_schedule h hok.2).1

/-- The table behind `Kernel_task_init`. -/
def initialTable (taskStackStart : U32) (memory : U32 → U32) : TaskTable :=
  kernelTaskInit taskStackStart (.reset memory)

/-- It holds of the table at the start. -/
theorem taskInv_initial (taskStackStart : U32) (memory : U32 → U32) :
    TaskInv (initialTable taskStackStart memory, []) :=
  ⟨rfl, Nat.zero_le _, rfl, Nat.zero_lt_one, nofun⟩

/-- It is what the property asks for. -/
theorem TaskInv.tableOk {c : TaskTable × List TaskObs} (h : TaskInv c) : TableOk c := by
  refine ⟨h.count, ?_, ?_⟩
  · intro hsome
    have hpos : 0 < (createdIds c.2).length := List.length_pos_of_ne_nil hsome
    have hlt := h.current_lt
    exact h.mem_createdIds (by omega)
  · intro id hid
    have hlt := h.next_lt id hid
    exact ⟨h.mem_createdIds hlt, Nat.lt_of_lt_of_le hlt h.le_max⟩

/-! ### Room -/

/-- A create is in order exactly when there is room. -/
theorem createOk_iff {c : TaskTable × List TaskObs} (h : TaskInv c) (i : TaskCall) :
    CreateOk c i ↔ HasRoom c i := by
  cases i with
  | schedule => exact Iff.rfl
  | create startFunc =>
      constructor
      · intro hok
        refine Nat.lt_of_le_of_ne h.le_max fun hfull => ?_
        have heq := kernelTaskCreate_full startFunc (h.count.trans hfull)
        simp only [CreateOk, heq] at hok
        rcases hok with ⟨hlt, -⟩ | ⟨-, hsame⟩
        · exact absurd hlt (by decide)
        · -- The index of the table has changed.
          have hindex := congrArg (fun s => s.sAllocatedTcbIndex.toNat) hsame
          simp only [BitVec.toNat_add, h.count, hfull] at hindex
          exact absurd hindex (by decide)
      · intro hroom
        obtain ⟨hid, -⟩ := kernelTaskCreate_room startFunc (s := c.1)
          (by rw [h.count]; exact hroom)
        refine Or.inl ⟨?_, ?_⟩
        · rw [hid, h.count]
          exact hroom
        · intro hmem
          rw [hid] at hmem
          have := h.lt_of_mem hmem
          have := h.count
          omega

/-- Every create of a run has room exactly if there is room for all of them. -/
theorem meets_hasRoom_iff {c : TaskTable × List TaskObs} (h : TaskInv c)
    {calls : List TaskCall} (hsched : tasks.Meets SchedulesTask c calls) :
    tasks.Meets (fun c i => HasRoom c i ∧ SchedulesTask c i) c calls ↔
      (createdIds c.2).length + createCalls calls ≤ MAX_TASK_NUM := by
  induction calls generalizing c with
  | nil => exact iff_of_true trivial h.le_max
  | cons i calls ih =>
      cases i with
      | create startFunc =>
          have hcalls : createCalls (.create startFunc :: calls) = createCalls calls + 1 :=
            List.countP_cons_of_pos rfl
          rw [hcalls]
          by_cases hroom : (createdIds c.2).length < MAX_TASK_NUM
          · -- The new task takes one of the places.
            obtain ⟨hinv, hcreated⟩ := taskInv_create h startFunc hroom
            have hrest := ih hinv hsched.2
            rw [hcreated, List.length_append, List.length_singleton] at hrest
            rw [Machine.Meets, hrest, and_iff_right ⟨hroom, hsched.1⟩]
            omega
          · refine iff_of_false (fun hmeets => hroom hmeets.1.1) ?_
            omega
      | schedule =>
          have hcalls : createCalls (.schedule :: calls) = createCalls calls :=
            List.countP_cons_of_neg (by decide)
          obtain ⟨hinv, hcreated, -⟩ := taskInv_schedule h hsched.1
          have hrest := ih hinv hsched.2
          rw [hcreated] at hrest
          rw [hcalls, Machine.Meets, hrest, and_iff_right ⟨trivial, hsched.1⟩]

/-! ### Rotation -/

/-- `n` scheduler calls in a row take the next `n` turns. -/
theorem selectedIds_schedule (n : Nat) :
    ∀ c : TaskTable × List TaskObs, TaskInv c → createdIds c.2 ≠ [] →
      selectedIds (tasks.exec c (List.replicate n .schedule)).2 = selectedIds c.2
        ++ (RoundRobin.turns (createdIds c.2).length n c.1.sCurrentTcbIndex.toNat).map
          (BitVec.ofNat 32) := by
  induction n with
  | zero => exact fun c _ _ => (List.append_nil _).symm
  | succ n ih =>
      intro c h hsome
      obtain ⟨hinv, hcreated, hselected⟩ := taskInv_schedule h hsome
      have hcurrent : (tasks.next c .schedule).1.sCurrentTcbIndex
          = (c.1.sCurrentTcbIndex + 1) % c.1.sAllocatedTcbIndex := rfl
      have hid : BitVec.ofNat 32 ((c.1.sCurrentTcbIndex.toNat + 1) % (createdIds c.2).length)
          = (c.1.sCurrentTcbIndex + 1) % c.1.sAllocatedTcbIndex := by
        rw [← h.toNat_next, ofNat_toNat_id]
      rw [List.replicate_succ, Machine.exec_cons, ih _ hinv (by rw [hcreated]; exact hsome),
        hselected, hcreated, hcurrent, h.toNat_next, RoundRobin.turns, List.map_cons, hid,
        List.append_assoc]
      rfl

/-- As many turns as there are tasks give each task one. -/
theorem TaskInv.rotates {c : TaskTable × List TaskObs} (h : TaskInv c) :
    ∃ selected, selectedIds (tasks.exec c (List.replicate (createdIds c.2).length .schedule)).2
        = selectedIds c.2 ++ selected ∧
      selected.Perm (createdIds c.2) ∧ selected.Nodup := by
  by_cases hsome : createdIds c.2 = []
  · rw [hsome]
    exact ⟨[], (List.append_nil _).symm, List.Perm.refl _, List.nodup_nil⟩
  · have hperm : ((RoundRobin.turns (createdIds c.2).length (createdIds c.2).length
        c.1.sCurrentTcbIndex.toNat).map (BitVec.ofNat 32)).Perm (createdIds c.2) := by
      have hturns := RoundRobin.turns_perm (k := (createdIds c.2).length)
        (i := c.1.sCurrentTcbIndex.toNat)
      have hmap := hturns.map (BitVec.ofNat 32)
      rwa [← h.ids] at hmap
    -- The identifiers are the first numbers, and there are too few to wrap.
    have hnodup : (createdIds c.2).Nodup := by
      rw [h.ids]
      refine List.Nodup.map_on ?_ List.nodup_range
      intro i hi j hj heq
      have hmax := h.le_max
      have hi' := List.mem_range.mp hi
      have hj' := List.mem_range.mp hj
      have hsmall : MAX_TASK_NUM < 2 ^ 32 := by decide
      have hmod := congrArg BitVec.toNat heq
      rwa [BitVec.toNat_ofNat, BitVec.toNat_ofNat, Nat.mod_eq_of_lt (by omega),
        Nat.mod_eq_of_lt (by omega)] at hmod
    exact ⟨_, selectedIds_schedule _ c h hsome, hperm, hperm.nodup_iff.mpr hnodup⟩

/-! ### The table in a run -/

/-- In a run behind `Kernel_task_init` that calls the scheduler once a task exists, each
create gives a fresh index or changes nothing, the table counts its tasks and stands on one
of them, and the scheduler goes round them, exactly if there are at most `MAX_TASK_NUM`
creates. -/
theorem tasks_ok_iff (taskStackStart : U32) (memory : U32 → U32) (calls : List TaskCall)
    (hsched : tasks.Meets SchedulesTask (initialTable taskStackStart memory, []) calls) :
    TasksOk (initialTable taskStackStart memory) calls ↔ createCalls calls ≤ MAX_TASK_NUM := by
  have hinit := taskInv_initial taskStackStart memory
  have hroom := meets_hasRoom_iff hinit hsched
  rw [show (createdIds (initialTable taskStackStart memory, ([] : List TaskObs)).2).length = 0
    from rfl, Nat.zero_add] at hroom
  have hcreate : tasks.Meets (fun c i => CreateOk c i ∧ SchedulesTask c i)
        (initialTable taskStackStart memory, []) calls ↔
      tasks.Meets (fun c i => HasRoom c i ∧ SchedulesTask c i)
        (initialTable taskStackStart memory, []) calls :=
    tasks.meets_congr (I := TaskInv) taskInv_next
      (fun c i h => and_congr_left' (createOk_iff h i)) hinit
  constructor
  · intro hok
    exact hroom.mp (hcreate.mp (tasks.meets_and hok.create hsched))
  · intro hle
    have hmeets := hroom.mpr hle
    -- The invariant holds all along the run.
    have hinv : ∀ pre, pre <+: calls →
        TaskInv (tasks.exec (initialTable taskStackStart memory, []) pre) := fun pre hpre =>
      tasks.invariant_along taskInv_next hinit hmeets hpre
    refine ⟨tasks.meets_mono (fun _ _ h => h.1) (hcreate.mpr hmeets),
      fun pre hpre => (hinv pre hpre).tableOk, ?_⟩
    intro pre c turns hpre
    exact (hinv pre ((List.prefix_append _ _).trans hpre)).rotates

/-- Three tasks, and the scheduler goes once round them and one further. -/
theorem tasks_ok_three :
    TasksOk (initialTable 0x20001000 fun _ => 0)
      [.create 1, .schedule, .create 2, .create 3, .schedule, .schedule, .schedule] :=
  (tasks_ok_iff 0x20001000 (fun _ => 0) _ (by decide +kernel)).mpr (by decide)

/-- After a fourth create that fails, the scheduler selects an entry behind the end of the
task list. -/
theorem select_outside :
    let calls := [TaskCall.create 1, .create 2, .create 3, .create 4, .schedule, .schedule,
      .schedule]
    let c := tasks.exec (initialTable 0x20001000 fun _ => 0, []) calls
    (createdIds c.2).length = 3 ∧ c.1.gNextTcb = some 3 ∧
      ¬ TasksOk (initialTable 0x20001000 fun _ => 0) calls := by
  intro calls c
  have hlen : (createdIds c.2).length = 3 := by decide +kernel
  have hnext : c.1.gNextTcb = some 3 := by decide +kernel
  refine ⟨hlen, hnext, fun hok => ?_⟩
  have hlt := ((hok.table calls (List.prefix_refl _)).next 3 (by rw [hnext]; rfl)).2
  exact absurd hlt (by decide)

end PikvmHid
