import PikvmHid.Spec.Commands

/-!
# `PikvmHid.Spec.Mouse`: what the mouse reports should show

A mouse report carries the buttons, the absolute position and a wheel movement. The
position should be that of the latest `CMD_MOVE`, the buttons those of the latest
`CMD_BUTTON`, and the wheel should move by what the `CMD_WHEEL` commands say.

* `Conforms`: the reports of a command show the latest position and buttons.
* `WheelZero`: the reports of a `CMD_MOVE` or `CMD_BUTTON` leave the wheel alone.
* `scrolled`, `commanded`: what the USB host has scrolled, and what it was to scroll.
-/

set_option autoImplicit false

namespace PikvmHid

open Lib

/-- A valid frame with one of the three command codes of the mouse. -/
structure MouseCommand extends Command where
  isMouse : cmdBuf 1 = CMD_MOVE ∨ cmdBuf 1 = CMD_BUTTON ∨ cmdBuf 1 = CMD_WHEEL

namespace MouseCommand

def code (c : MouseCommand) : U8 := c.cmdBuf 1

/-- The coordinates of a `CMD_MOVE`, high byte first. -/
def x (c : MouseCommand) : Int := (c.cmdBuf 2 ++ c.cmdBuf 3 : U16).toInt

def y (c : MouseCommand) : Int := (c.cmdBuf 4 ++ c.cmdBuf 5 : U16).toInt

/-- The wheel movement of a `CMD_WHEEL`. -/
def delta (c : MouseCommand) : Int := (c.cmdBuf 3).toInt

/-- The calls of the command in a state. -/
def calls (st : KvmState) (c : MouseCommand) : List ReportIn := (c.handle st).reportIns

end MouseCommand

/-- `handle_pikvm_command` on runs of mouse commands. -/
abbrev mouse : Machine KvmState MouseCommand (MouseCommand × List ReportIn) :=
  handler MouseCommand.toCommand

/-! ### The fields of a report -/

def reportButton (r : List U8) : U8 := r.getD 0 0

def reportX (r : List U8) : Int := (r.getD 2 0 ++ r.getD 1 0 : U16).toNat

def reportY (r : List U8) : Int := (r.getD 4 0 ++ r.getD 3 0 : U16).toNat

def reportWheel (r : List U8) : Int := (r.getD 5 0).toInt

/-! ### Position and buttons -/

/-- A signed 16-bit coordinate on the range of the report, rounded down. -/
def scale (v : Int) : Int := (v + 32768) / 2

/-- The latest command with a code. -/
def latest (code : U8) (cmds : List MouseCommand) : Option MouseCommand :=
  (cmds.filter (·.code = code)).getLast?

def expectedX (cmds : List MouseCommand) : Int :=
  (latest CMD_MOVE cmds).elim 0 fun c => scale c.x

def expectedY (cmds : List MouseCommand) : Int :=
  (latest CMD_MOVE cmds).elim 0 fun c => scale c.y

def expectedButton (cmds : List MouseCommand) : U8 :=
  (latest CMD_BUTTON cmds).elim 0 fun c => buttonMask (c.cmdBuf 2)

/-- The reports of the command show the latest position and buttons. -/
def Conforms (c : KvmState × Trace MouseCommand) (i : MouseCommand) : Prop :=
  ∀ call ∈ i.calls c.1,
    reportX call.report = expectedX (c.2.commands ++ [i]) ∧
    reportY call.report = expectedY (c.2.commands ++ [i]) ∧
    reportButton call.report = expectedButton (c.2.commands ++ [i])

/-- A `CMD_WHEEL` comes while the pointer is in the corner and no button is down. -/
def WheelAtRest (c : KvmState × Trace MouseCommand) (i : MouseCommand) : Prop :=
  i.code = CMD_WHEEL → expectedX c.2.commands = 0 ∧ expectedY c.2.commands = 0 ∧
    expectedButton c.2.commands = 0

/-! ### The wheel -/

/-- The reports of a command that is no `CMD_WHEEL` leave the wheel alone. -/
def WheelZero (c : KvmState × Trace MouseCommand) (i : MouseCommand) : Prop :=
  i.code ≠ CMD_WHEEL → ∀ call ∈ i.calls c.1, reportWheel call.report = 0

/-- The sum of the wheel bytes that the USB host received. -/
def scrolled (t : Trace MouseCommand) : Int :=
  ((t.calls.filter (·.ok)).map fun call => reportWheel call.report).sum

/-- The sum of the movements of the `CMD_WHEEL` commands whose report was received. -/
def commanded (t : Trace MouseCommand) : Int :=
  ((t.filter fun p => p.1.code = CMD_WHEEL ∧ p.2.any (·.ok)).map fun p => p.1.delta).sum

end PikvmHid
