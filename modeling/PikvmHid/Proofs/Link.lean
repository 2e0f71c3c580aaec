import PikvmHid.Spec.Link

/-!
# `PikvmHid.Proofs.Link`: the device implements the link

`device_simulates_link`: a step of the device maps to the step of the link under the
same label, with the same observations. By `device_exec` every run of the device makes
exactly the observations of the same run of the link, so what holds of the link's runs
holds of the device's.
-/

set_option autoImplicit false

namespace PikvmHid

open Lib

/-- The queue of the commands is one of the kernel's. -/
theorem debugCmd_lt : KernelMsgQ_DebugCmd < KernelMsgQ_Num := by decide

/-- Setting the flag shows as true. -/
theorem cmdIn_set (flags : U32) :
    decide ((flags ||| KernelEventFlag_CmdIn) &&& KernelEventFlag_CmdIn ≠ 0) = true := by
  have h : (flags ||| KernelEventFlag_CmdIn) &&& KernelEventFlag_CmdIn
      = KernelEventFlag_CmdIn := by
    ext i hi
    simp only [BitVec.getElem_and, BitVec.getElem_or]
    cases flags[i] <;> cases KernelEventFlag_CmdIn[i] <;> rfl
  rw [h]
  decide

/-- Clearing the flag shows as false. -/
theorem cmdIn_clear (flags : U32) :
    decide ((flags &&& ~~~KernelEventFlag_CmdIn) &&& KernelEventFlag_CmdIn ≠ 0) = false := by
  have h : (flags &&& ~~~KernelEventFlag_CmdIn) &&& KernelEventFlag_CmdIn = 0 := by
    ext i hi
    simp only [BitVec.getElem_and, BitVec.getElem_not]
    cases flags[i] <;> cases KernelEventFlag_CmdIn[i] <;> simp
  rw [h]
  decide

/-- The interrupt maps to the interrupt of the link. -/
theorem isr_toLink (d : Dev) (ch : U8) (tick : U32) :
    d.toLink.step (.isr ch tick)
      = ((d.step (.isr ch tick)).1.toLink, (d.step (.isr ch tick)).2) := by
  obtain ⟨htick, h⟩ := halUartIsr_spec d.isr d.kernel ch tick
  show d.toLink.isrStep ch tick
    = (Dev.toLink { d with
        kernel := (halUartIsr d.isr d.kernel ch tick).kernel
        isr := (halUartIsr d.isr d.kernel ch tick).isr },
      ((halUartIsr d.isr d.kernel ch tick).accepted.map Obs.accept).toList)
  unfold Link.isrStep Link.completes
  simp only [show d.toLink.lastTick = d.isr.lastTick from rfl,
    show d.toLink.collected = d.isr.collected from rfl]
  generalize hframe : withByte d.isr.lastTick d.isr.collected ch tick = frame at h ⊢
  by_cases hsend : sendFrame (frame.headD 0) frame.length ch = true
  · rw [if_pos hsend] at h
    obtain ⟨hcoll, hkernel, hacc⟩ := h
    rw [if_pos hsend, hkernel, hacc]
    unfold Link.deliver Dev.toLink
    simp only [hcoll, htick]
    -- The two outcomes of `Kernel_send_msg`.
    by_cases hfit : (d.kernel.contents KernelMsgQ_DebugCmd).length + frame.length
        ≤ MSG_Q_SIZE_BYTE - 1
    · obtain ⟨hacc', hcont, hflag⟩ := deliverFrame_fits d.kernel frame hfit
      rw [if_pos hfit, hacc', hcont, hflag, cmdIn_set]
      rfl
    · obtain ⟨hacc', hcont, hflag⟩ := deliverFrame_overflow d.kernel frame hfit
      rw [if_neg hfit, hacc', hcont, hflag]
      rfl
  · -- No frame: the byte is collected and the kernel stays.
    rw [if_neg hsend] at h
    obtain ⟨hcoll, hkernel, hacc⟩ := h
    rw [if_neg hsend, hkernel, hacc]
    unfold Dev.toLink
    simp only [hcoll, htick]
    rfl

/-- A step of the task maps to the step of the link's task. Only the two kernel calls
touch what the map abstracts. -/
theorem task_toLink (d : Dev) (env : TaskEnv) :
    d.toLink.step (.task env)
      = ((d.step (.task env)).1.toLink, (d.step (.task env)).2) := by
  show d.toLink.taskStep env = ((cliTaskStep d env).1.toLink, (cliTaskStep d env).2)
  unfold Link.taskStep cliTaskStep
  obtain ⟨kernel, isr, kvm, pc⟩ := d
  -- One case for each place where the task can be interrupted.
  cases pc with
  | waitEvents =>
      simp only [Dev.toLink, kernelWaitEvents_cmdIn]
      by_cases h : kernel.sEventFlag &&& KernelEventFlag_CmdIn ≠ 0
      · simp only [if_pos h, cmdIn_clear, decide_eq_true h, if_true]
        rfl
      · have hne : KernelEventFlag_Empty ≠ KernelEventFlag_CmdIn := by decide
        simp only [if_neg h, decide_eq_false h, if_neg hne, Bool.false_eq_true, if_false]
  | recvMsg i cmdBuf =>
      have h := kernelRecvMsg_one kernel debugCmd_lt
      simp only [Dev.toLink]
      cases hc : kernel.contents KernelMsgQ_DebugCmd with
      | nil =>
          rw [hc] at h
          simp only [show kernelRecvMsg kernel KernelMsgQ_DebugCmd 1 = ([], kernel) from h, hc]
          rfl
      | cons b rest =>
          rw [hc] at h
          obtain ⟨k', hk', hrest, hsame⟩ := h
          simp only [hk', hrest, hsame.sEventFlag]
          rfl
  | dispatch i cmdBuf => rfl
  | transmit rest => cases rest <;> rfl
  | yield => rfl

/-- The device implements the link. -/
theorem device_simulates_link : device.Simulates link Dev.toLink := fun d a =>
  match a with
  | .isr ch tick => isr_toLink d ch tick
  | .task env    => task_toLink d env

/-- A run of the device from reset and the same run of the link make the same
observations, and end in states that correspond. -/
theorem device_exec (acts : List Act) :
    link.exec (Link.boot, []) acts
      = ((device.exec (Dev.boot, []) acts).1.toLink, (device.exec (Dev.boot, []) acts).2) :=
  device_simulates_link.exec_map (Dev.boot, []) acts

end PikvmHid
