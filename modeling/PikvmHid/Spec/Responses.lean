import PikvmHid.Spec.Calls

/-!
# `PikvmHid.Spec.Responses`: the response protocol

Every call of `handle_pikvm_command` is answered at once. A valid `CMD_REPEAT` asks for the
outcome of the call before it, and any other call has an outcome of its own.

* `Call.outcome`: the outcome, from the frame alone.
* `answered`: the outcome that the latest call is answered with.
* `Responds`: the response has its form, carries that outcome and the current online flags,
  and a `CMD_REPEAT` sends no report.
-/

set_option autoImplicit false

namespace PikvmHid

/-- Bytes 6 and 7 are the `crc16` of the first six bytes, high byte first. -/
def CrcOk (b : Buffer) : Prop := crc16 b 6 = b 6 ++ b 7

instance (b : Buffer) : Decidable (CrcOk b) := inferInstanceAs (Decidable (_ = _))

/-- The command codes of the protocol. -/
def Supported (code : U8) : Prop :=
  code ∈ [CMD_PING, CMD_REPEAT, CMD_CLEAR_HID, CMD_KEY, CMD_MOVE, CMD_BUTTON, CMD_WHEEL]

instance (code : U8) : Decidable (Supported code) := inferInstanceAs (Decidable (_ ∈ _))

/-- The outcomes of a call. Before the first one there is `none` to repeat. -/
inductive Outcome where
  | none
  | crcError
  | invalidError
  | pong
  deriving DecidableEq, Repr

/-- The first six bytes of the response. A PONG carries the online flags. -/
def Outcome.head (st : KvmState) : Outcome → List U8
  | .none         => [MAGIC_RESP, RESP_NONE, 0, 0, 0, 0]
  | .crcError     => [MAGIC_RESP, RESP_CRC_ERROR, 0, 0, 0, 0]
  | .invalidError => [MAGIC_RESP, RESP_INVALID_ERROR, 0, 0, 0, 0]
  | .pong         =>
      [MAGIC_RESP,
        PONG_OK
          ||| (if getHidState st.hidState HID_DEV_KEYBOARD then 0 else PONG_KEYBOARD_OFFLINE)
          ||| (if getHidState st.hidState HID_DEV_MOUSE then 0 else PONG_MOUSE_OFFLINE),
        OUTPUTS_KEYBOARD_USB ||| OUTPUTS_MOUSE_USB_ABS, FEATURES_HAS_USB, 0, 0]

/-- The outcome of a call, or nothing for a valid `CMD_REPEAT`. -/
def Call.outcome (c : Call) : Option Outcome :=
  if ¬ CrcOk c.cmdBuf then some .crcError
  else if c.cmdBuf 0 ≠ MAGIC ∨ c.cmdLen ≠ 8 ∨ ¬ Supported c.code then some .invalidError
  else if c.code = CMD_REPEAT then none
  else some .pong

/-- The latest outcome of the calls. -/
def answered (cmds : List Call) : Outcome :=
  (cmds.filterMap Call.outcome).getLast?.getD .none

/-- The call is answered as the protocol says. -/
structure Responds (c : KvmState × CallTrace Call) (i : Call) : Prop where
  length_eq : (i.handle c.1).response.length = 8
  head_eq : (i.handle c.1).response.take 6
    = (answered (c.2.commands ++ [i])).head (i.handle c.1).state
  crc_ok : CrcOk (.ofList (i.handle c.1).response .zero)
  /-- The check that `handle_pikvm_command` makes of a checksum accepts it. -/
  accepted : headerCheck (.ofList (i.handle c.1).response .zero) 8 ≠ RESP_CRC_ERROR
  quiet : i.outcome = none → (i.handle c.1).reportIns = []

end PikvmHid
