import PikvmHid.App.HidPikvm
import PikvmHid.Brd.Uart

/-!
# `PikvmHid.App.HidRawkvm`: the raw commands

`app/hid_rawkvm.c`. A raw command is one character for the interface and the bytes of a
report, cut to the report size or filled up with zeros. It leaves the statics alone.
-/

set_option autoImplicit false

namespace PikvmHid

/-- The response to a raw command: `"$OK\n"`, or `"$ERR0\n"` with the digit of the error
written over the byte at index 3. -/
def rawResponse (error : Nat) : List U8 :=
  if error = 0 then [0x24, 0x4F, 0x4B, 0x0A]
  else [0x24, 0x45, 0x52, 0x30 + BitVec.ofNat 8 error, 0x30, 0x0A]

/-- The interface, the size of its report and the report id, from the first
character. -/
def rawTarget (ch : U8) : Option (HidIf × Nat × U8) :=
  if ch = CHAR_AT then some (.hidKbIf, HID_KB_REPORT_BYTE, 1)
  else if ch = CHAR_HASH then some (.hidMsIf, HID_MS_REPORT_BYTE, 2)
  else none

/-- The report buffer: the id, and the first `n` bytes of `data` over zeros. -/
def rawReport (rptId : U8) (data : Buffer) (n : Nat) : Buffer :=
  fun i => if i = 0 then rptId else if i - 1 < n then data (i - 1) else 0

/-- `handle_rawkvm_command`. An unknown first character hides an empty command. -/
def handleRawkvmCommand (env : HandlerEnv) (st : KvmState) (cmdBuf : Buffer) (cmdLen : Nat) :
    HandlerOut :=
  match rawTarget (cmdBuf 0) with
  | none => ⟨st, [], rawResponse 2⟩
  | some (itf, rptLen, rptId) =>
      if cmdLen = 0 then ⟨st, [], rawResponse 1⟩
      else
        let len := if cmdLen - 1 > rptLen then rptLen else cmdLen - 1
        let hidRpt := rawReport rptId (cmdBuf.drop 1) len
        let r := sendHidReport env.reportIn itf (hidRpt.drop (1 - HID_KB_MS_COMB)) rptLen 3
        ⟨st, r.1, rawResponse (if r.2 = rptLen then 0 else 3)⟩

end PikvmHid
