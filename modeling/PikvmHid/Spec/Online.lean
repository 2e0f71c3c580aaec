import Mathlib.Data.List.DropRight
import PikvmHid.App.CliTask
import PikvmHid.Spec.Calls

/-!
# `PikvmHid.Spec.Online`: the online flags

`handle_command` samples the frame number register before each command and looks whether the
bus is locked. A PONG says for each device whether it is offline.

* `sinceLock`: the commands behind the last one whose sample has no lock.
* `FlagsFollow`: without lock, only an attempt of the command itself that succeeds shows its
  device online. With lock, the latest attempt since then decides.
* `FlagsTruthful`: without lock both devices are offline, and an attempt without lock counts
  once the lock is back.
-/

set_option autoImplicit false

namespace PikvmHid

open Lib

/-- A valid command of `handle_command` for the binary handler. -/
structure BinaryCommand where
  cmdBuf : Buffer
  cmdLen : Nat
  env : TaskEnv
  isBinary : cmdBuf 0 = MAGIC

namespace BinaryCommand

def handle (st : KvmState) (c : BinaryCommand) : HandlerOut :=
  handleCommandTail c.env st c.cmdBuf c.cmdLen

/-- The sample has the lock. -/
def locked (c : BinaryCommand) : Bool := decide (c.env.fnr &&& USB_FNR_LCK ≠ 0)

end BinaryCommand

/-- `handle_command` on runs of binary frames. -/
def binary : Machine KvmState BinaryCommand (BinaryCommand × HandlerOut) where
  step st c := ((c.handle st).state, [(c, c.handle st)])

/-- The commands behind the last one whose sample has no lock. -/
def sinceLock (t : CallTrace BinaryCommand) : CallTrace BinaryCommand :=
  t.rtakeWhile (·.1.locked)

/-- The same, with that one. -/
def sinceSample (t : CallTrace BinaryCommand) : CallTrace BinaryCommand :=
  t.rtake ((sinceLock t).length + 1)

/-- The latest attempt to send a report on the interface succeeded, or there was none. -/
def lastSucceeded (itf : HidIf) (t : CallTrace BinaryCommand) : Bool :=
  (t.lastAttempt itf).all (·.any (·.ok))

/-- The response is a PONG. -/
def IsPong (r : List U8) : Prop := r.getD 1 0 &&& PONG_OK ≠ 0

instance (r : List U8) : Decidable (IsPong r) := inferInstanceAs (Decidable (_ ≠ _))

/-- The offline bit of the device behind an interface. -/
def offlineBit : HidIf → U8
  | .hidKbIf => PONG_KEYBOARD_OFFLINE
  | .hidMsIf => PONG_MOUSE_OFFLINE

/-- The response shows the device offline. -/
def ShowsOffline (itf : HidIf) (r : List U8) : Prop := r.getD 1 0 &&& offlineBit itf ≠ 0

instance (itf : HidIf) (r : List U8) : Decidable (ShowsOffline itf r) :=
  inferInstanceAs (Decidable (_ ≠ _))

/-- A PONG without lock shows a device offline unless the command itself sent it a report,
and a PONG with lock by the latest attempt since the lock. -/
structure FlagsFollow (c : KvmState × CallTrace BinaryCommand) (i : BinaryCommand) : Prop where
  unlocked : IsPong (i.handle c.1).response → i.locked = false → ∀ itf,
    (ShowsOffline itf (i.handle c.1).response ↔
      ∀ call ∈ (i.handle c.1).reports itf, call.ok = false)
  locked : IsPong (i.handle c.1).response → i.locked = true → ∀ itf,
    (¬ ShowsOffline itf (i.handle c.1).response ↔
      lastSucceeded itf (sinceLock (c.2 ++ [(i, i.handle c.1)])) = true)

/-- A PONG without lock shows both devices offline, and a PONG with lock by the latest attempt
since the last sample without. -/
structure FlagsTruthful (c : KvmState × CallTrace BinaryCommand) (i : BinaryCommand) :
    Prop where
  unlocked : IsPong (i.handle c.1).response → i.locked = false → ∀ itf,
    ShowsOffline itf (i.handle c.1).response
  locked : IsPong (i.handle c.1).response → i.locked = true → ∀ itf,
    (¬ ShowsOffline itf (i.handle c.1).response ↔
      lastSucceeded itf (sinceSample (c.2 ++ [(i, i.handle c.1)])) = true)

end PikvmHid
