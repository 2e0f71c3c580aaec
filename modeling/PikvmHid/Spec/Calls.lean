import PikvmHid.Spec.Keyboard
import PikvmHid.Spec.Mouse

/-!
# `PikvmHid.Spec.Calls`: runs of `handle_pikvm_command`

A call is any buffer with any length, and what the handler finds around it. Most buffers are
no valid frame. A run keeps what each call left: the statics, the `USBD_HID_ReportIn` calls
and the response.

* `SendsAfresh`: a `CMD_KEY` tries to send its report, whatever was sent before.
-/

set_option autoImplicit false

namespace PikvmHid

open Lib

/-- A call of `handle_pikvm_command`. -/
structure Call where
  cmdBuf : Buffer
  cmdLen : Nat
  env : HandlerEnv

namespace Call

def handle (st : KvmState) (c : Call) : HandlerOut :=
  handlePikvmCommand c.env st c.cmdBuf c.cmdLen

/-- Both checks pass. -/
def Valid (c : Call) : Prop := headerCheck c.cmdBuf c.cmdLen = RESP_NONE

instance (c : Call) : Decidable c.Valid := inferInstanceAs (Decidable (_ = _))

def code (c : Call) : U8 := c.cmdBuf 1

def IsKey (c : Call) : Prop := c.Valid ∧ c.code = CMD_KEY

def IsMouse (c : Call) : Prop :=
  c.Valid ∧ (c.code = CMD_MOVE ∨ c.code = CMD_BUTTON ∨ c.code = CMD_WHEEL)

instance (c : Call) : Decidable c.IsKey := inferInstanceAs (Decidable (_ ∧ _))

instance (c : Call) : Decidable c.IsMouse := inferInstanceAs (Decidable (_ ∧ _))

/-- A keyboard call is no mouse call. -/
theorem IsKey.not_isMouse {c : Call} (h : c.IsKey) : ¬ c.IsMouse := by
  rintro ⟨-, hcode | hcode | hcode⟩
  · exact absurd (h.2.symm.trans hcode) (by decide)
  · exact absurd (h.2.symm.trans hcode) (by decide)
  · exact absurd (h.2.symm.trans hcode) (by decide)

/-- A valid call hands over a whole frame. -/
theorem Valid.cmdLen_eq {c : Call} (h : c.Valid) : c.cmdLen = 8 := by
  unfold Valid headerCheck at h
  by_contra hne
  simp only [if_pos (Or.inr hne : c.cmdBuf 0 ≠ MAGIC ∨ c.cmdLen ≠ 8)] at h
  split at h
  · exact absurd h (by decide)
  · exact absurd h (by decide)

/-- A valid call is a frame of eight bytes. -/
def toCommand (c : Call) (h : c.Valid) : Command :=
  ⟨c.cmdBuf, c.env, by rw [← h.cmdLen_eq]; exact h⟩

def toKey (c : Call) (h : c.IsKey) : KeyCommand := ⟨c.toCommand h.1, h.2⟩

def toMouse (c : Call) (h : c.IsMouse) : MouseCommand := ⟨c.toCommand h.1, h.2⟩

end Call

/-- A valid command as a call. -/
def Command.call (c : Command) : Call := ⟨c.cmdBuf, 8, c.env⟩

/-- The `USBD_HID_ReportIn` calls on one interface. -/
def HandlerOut.reports (itf : HidIf) (out : HandlerOut) : List ReportIn :=
  out.reportIns.filter (·.itf = itf)

/-- The calls of a run, each with what it left. -/
abbrev CallTrace (ι : Type) := List (ι × HandlerOut)

namespace CallTrace

variable {ι : Type}

/-- The `USBD_HID_ReportIn` calls on one interface, in their order. -/
def reports (itf : HidIf) (t : CallTrace ι) : List ReportIn :=
  t.flatMap fun p => p.2.reports itf

/-- The tries of the latest attempt to send a report on the interface. -/
def lastAttempt (itf : HidIf) (t : CallTrace ι) : Option (List ReportIn) :=
  ((t.map fun p => p.2.reports itf).filter (· ≠ [])).getLast?

/-- The calls of the handler. -/
def commands (t : CallTrace ι) : List ι := t.map Prod.fst

end CallTrace

/-- `handle_pikvm_command` as a machine. -/
def pikvm : Machine KvmState Call (Call × HandlerOut) where
  step st c := ((c.handle st).state, [(c, c.handle st)])

/-- The configuration at reset. -/
def start : KvmState × CallTrace Call := (.boot, [])

/-! ### Failed attempts -/

/-- There was no attempt on the interface yet, or the latest one failed in all its tries. -/
def LastAttemptFailed (itf : HidIf) (t : CallTrace Call) : Prop :=
  ∀ tries ∈ t.lastAttempt itf, ∀ call ∈ tries, call.ok = false

instance (itf : HidIf) (t : CallTrace Call) : Decidable (LastAttemptFailed itf t) :=
  inferInstanceAs (Decidable (∀ tries ∈ t.lastAttempt itf, _))

/-- A `CMD_KEY` sends its report: it tries up to four times until a try succeeds, and
`last_crc` is set exactly if one does. -/
structure SendsAfresh (st : KvmState) (i : KeyCommand) : Prop where
  tries : i.calls st ≠ []
  at_most_four : (i.calls st).length ≤ 4
  report_eq : ∀ call ∈ i.calls st, call.itf = .hidKbIf ∧ call.report = i.report st
  stops : ∀ call ∈ (i.calls st).dropLast, call.ok = false
  gives_up : (∀ call ∈ i.calls st, call.ok = false) → (i.calls st).length = 4
  lastCrc_iff : (i.handle st).state.lastCrc ≠ 0 ↔ ∃ call ∈ i.calls st, call.ok = true

end PikvmHid
