import PikvmHid.Proofs.Keyboard
import PikvmHid.Spec.Paths

/-!
# `PikvmHid.Proofs.Paths`: the filter of one path against the reports of the other

A raw command leaves the statics alone, `last_crc` among them, so `last_crc` stands for the
calls of `CMD_KEY` only, whatever the host has received since (`pathsInv_next`).

`paths_agree_iff`: the two paths agree exactly if no `CMD_KEY` builds its own last report
again after a raw command has sent another one. `raw_key_stuck` does: a release leaves a key
down that was pressed by a raw command.
-/

set_option autoImplicit false

namespace PikvmHid

open Lib

/-- A raw command leaves the statics alone. -/
theorem handleRawkvmCommand_state (env : HandlerEnv) (st : KvmState) (cmdBuf : Buffer)
    (cmdLen : Nat) : (handleRawkvmCommand env st cmdBuf cmdLen).state = st := by
  unfold handleRawkvmCommand
  cases rawTarget (cmdBuf 0) with
  | none => rfl
  | some target =>
      by_cases hlen : cmdLen = 0
      · simp only [if_pos hlen]
      · simp only [if_neg hlen]

/-- `last_crc` stands for the calls of `CMD_KEY`. -/
def PathsInv (c : KvmState × Trace PathCommand) : Prop := FilterInv c.1 (keyCalls c.2)

/-- Every command, of either kind, keeps the invariant. -/
theorem pathsInv_next (c : KvmState × Trace PathCommand) (i : PathCommand)
    (h : PathsInv c) : PathsInv (paths.next c i) := by
  unfold PathsInv
  cases i with
  | raw r =>
      have hstate : (paths.next c (.raw r)).1 = c.1 := handleRawkvmCommand_state _ _ _ _
      have hcalls : keyCalls (paths.next c (.raw r)).2 = keyCalls c.2 := by
        simp [Machine.next, paths, keyCalls]
      rw [hstate, hcalls]
      exact h
  | key k =>
      have hcalls : keyCalls (paths.next c (.key k)).2 = keyCalls c.2 ++ k.calls c.1 := by
        simp [Machine.next, paths, keyCalls, PathCommand.handle, KeyCommand.calls]
      rw [hcalls]
      exact FilterInv.handle h k

/-- At each step the law says what the condition says. -/
theorem pathsAgree_iff (c : KvmState × Trace PathCommand) (i : PathCommand)
    (h : PathsInv c) : PathsAgree c i ↔ NotMasked c i := by
  cases i with
  | raw r => exact Iff.rfl
  | key k =>
      show (k.Builds → _) ↔ (k.Builds → _)
      refine imp_congr_right fun hbuild => forall₂_congr fun r _ => ?_
      rw [k.report_eq]
      refine imp_congr_right fun _ => ?_
      rw [ne_eq, FilterInv.calls_eq_nil_iff h hbuild, k.report_eq, not_exists]
      simp only [not_and, not_or, ne_eq]

/-- In a run of raw keyboard commands and `CMD_KEY` commands from reset, with any outcomes of
the calls, every `CMD_KEY` that builds a report other than the raw one the host has makes a
call, exactly if none of them builds the last report of `CMD_KEY` again or an alias of
it. -/
theorem paths_agree_iff (cmds : List PathCommand) :
    paths.Meets PathsAgree (.boot, []) cmds ↔ paths.Meets NotMasked (.boot, []) cmds :=
  paths.meets_congr (I := PathsInv) (fun c i h _ => pathsInv_next c i h) pathsAgree_iff
    (show FilterInv .boot [] from ⟨rfl, nofun⟩)

/-- The raw command that presses A. -/
def rawPressA (env : HandlerEnv) : RawCommand :=
  ⟨.ofList [CHAR_AT, 0, 0, KEY_A] .zero, 4, env, rfl⟩

/-- A goes down and up by `CMD_KEY`, down by a raw command, and up by `CMD_KEY`: the last
release makes no call, and the host is left with A down. -/
theorem raw_key_stuck :
    let env : HandlerEnv := ⟨.zero, fun _ => true⟩
    let release := KeyCommand.ofCode env 1 0
    let c := paths.exec (.boot, [])
      [.key (.ofCode env 1 1), .key release, .raw (rawPressA env)]
    release.report c.1 = keyReport 0 0 ∧ release.calls c.1 = [] ∧
      HasRaw c.2 (keyReport 0 KEY_A) ∧ ¬ PathsAgree c (.key release) := by
  intro env release c
  have hreport : release.report c.1 = keyReport 0 0 := by decide +kernel
  have hnone : release.calls c.1 = [] := by decide +kernel
  have hraw : HasRaw c.2 (keyReport 0 KEY_A) := by decide +kernel
  refine ⟨hreport, hnone, hraw, fun hagree => ?_⟩
  have hbuild : release.Builds := by decide +kernel
  refine hagree hbuild _ hraw ?_ hnone
  rw [hreport]
  decide

end PikvmHid
