import PikvmHid.App.CommonKvm
import PikvmHid.App.UsbHidKeys

/-!
# `PikvmHid.App.HidPikvm`: the binary commands

`app/hid_pikvm.h` and `app/hid_pikvm.c`. The static locals of `handle_pikvm_command`,
`send_uart_rsp` and `handle_command`, and the static `hid_state` of `common_kvm.c`, are
the fields of `KvmState`. The contents of the uninitialised local array `hid_rpt` at
entry are an argument.

The branches of the command switch are definitions of their own. `CMD_WHEEL` and
`CMD_BUTTON`/`CMD_MOVE` end in the same lines, `sendMouseReport`.
-/

set_option autoImplicit false

namespace PikvmHid

/-! ### `hid_pikvm.h` -/

abbrev MAGIC : U8 := 0x33
abbrev MAGIC_RESP : U8 := 0x34
abbrev RESP_NONE : U8 := 0x24
abbrev RESP_CRC_ERROR : U8 := 0x40
abbrev RESP_INVALID_ERROR : U8 := 0x45
abbrev CMD_PING : U8 := 0x01
abbrev CMD_REPEAT : U8 := 0x02
abbrev CMD_CLEAR_HID : U8 := 0x10
abbrev CMD_KEY : U8 := 0x11
abbrev CMD_MOVE : U8 := 0x12
abbrev CMD_BUTTON : U8 := 0x13
abbrev CMD_WHEEL : U8 := 0x14
abbrev PONG_OK : U8 := 0x80
abbrev PONG_KEYBOARD_OFFLINE : U8 := 0x08
abbrev PONG_MOUSE_OFFLINE : U8 := 0x10
abbrev OUTPUTS_KEYBOARD_USB : U8 := 0x01
abbrev OUTPUTS_MOUSE_USB_ABS : U8 := 0x08
abbrev FEATURES_HAS_USB : U8 := 0x01

/-- The statics of the command handlers. -/
structure KvmState where
  modifier : U8
  lastCrc : U16
  posx : U16
  posy : U16
  button : U8
  /-- `prev_code` of `send_uart_rsp`. -/
  prevCode : U8
  /-- `hid_state` of `common_kvm.c`. -/
  hidState : U8
  /-- `last_fnr` of `handle_command`. -/
  lastFnr : U16
  deriving DecidableEq, Repr

/-- The statics at reset. -/
def KvmState.boot : KvmState := ⟨0, 0, 0, 0, 0, RESP_NONE, 0xff, 0⟩

/-- What a handler finds around it: the stack where its `hid_rpt` lies, and the outcomes
of its `USBD_HID_ReportIn` calls. -/
structure HandlerEnv where
  hidRpt : Buffer
  reportIn : Nat → Bool

/-- What a handler leaves: the statics, its `USBD_HID_ReportIn` calls, and its response
on UART3. -/
structure HandlerOut where
  state : KvmState
  reportIns : List ReportIn
  response : List U8

/-- `key_map_usb`. -/
def keyMapUsb (code : U8) : U8 :=
  match code.toNat with
  | 1 => KEY_A
  | 2 => KEY_B
  | 3 => KEY_C
  | 4 => KEY_D
  | 5 => KEY_E
  | 6 => KEY_F
  | 7 => KEY_G
  | 8 => KEY_H
  | 9 => KEY_I
  | 10 => KEY_J
  | 11 => KEY_K
  | 12 => KEY_L
  | 13 => KEY_M
  | 14 => KEY_N
  | 15 => KEY_O
  | 16 => KEY_P
  | 17 => KEY_Q
  | 18 => KEY_R
  | 19 => KEY_S
  | 20 => KEY_T
  | 21 => KEY_U
  | 22 => KEY_V
  | 23 => KEY_W
  | 24 => KEY_X
  | 25 => KEY_Y
  | 26 => KEY_Z
  | 27 => KEY_1
  | 28 => KEY_2
  | 29 => KEY_3
  | 30 => KEY_4
  | 31 => KEY_5
  | 32 => KEY_6
  | 33 => KEY_7
  | 34 => KEY_8
  | 35 => KEY_9
  | 36 => KEY_0
  | 37 => KEY_ENTER
  | 38 => KEY_ESC
  | 39 => KEY_BACKSPACE
  | 40 => KEY_TAB
  | 41 => KEY_SPACE
  | 42 => KEY_MINUS
  | 43 => KEY_EQUAL
  | 44 => KEY_LEFT_BRACE
  | 45 => KEY_RIGHT_BRACE
  | 46 => KEY_BACKSLASH
  | 47 => KEY_SEMICOLON
  | 48 => KEY_QUOTE
  | 49 => KEY_TILDE
  | 50 => KEY_COMMA
  | 51 => KEY_PERIOD
  | 52 => KEY_SLASH
  | 53 => KEY_CAPS_LOCK
  | 54 => KEY_F1
  | 55 => KEY_F2
  | 56 => KEY_F3
  | 57 => KEY_F4
  | 58 => KEY_F5
  | 59 => KEY_F6
  | 60 => KEY_F7
  | 61 => KEY_F8
  | 62 => KEY_F9
  | 63 => KEY_F10
  | 64 => KEY_F11
  | 65 => KEY_F12
  | 66 => KEY_PRINT
  | 67 => KEY_INSERT
  | 68 => KEY_HOME
  | 69 => KEY_PAGE_UP
  | 70 => KEY_DELETE
  | 71 => KEY_END
  | 72 => KEY_PAGE_DOWN
  | 73 => KEY_RIGHT_ARROW
  | 74 => KEY_LEFT_ARROW
  | 75 => KEY_DOWN_ARROW
  | 76 => KEY_UP_ARROW
  | 77 => KEY_LEFT_CTRL
  | 78 => KEY_LEFT_SHIFT
  | 79 => KEY_LEFT_ALT
  | 80 => KEY_LEFT_GUI
  | 81 => KEY_RIGHT_CTRL
  | 82 => KEY_RIGHT_SHIFT
  | 83 => KEY_RIGHT_ALT
  | 84 => KEY_RIGHT_GUI
  | 85 => KEY_PAUSE
  | 86 => KEY_SCROLL_LOCK
  | 87 => KEY_NUM_LOCK
  | 88 => KEY_MENU
  | 89 => KEYPAD_DIVIDE
  | 90 => KEYPAD_MULTIPLY
  | 91 => KEYPAD_SUBTRACT
  | 92 => KEYPAD_ADD
  | 93 => KEYPAD_ENTER
  | 94 => KEYPAD_1
  | 95 => KEYPAD_2
  | 96 => KEYPAD_3
  | 97 => KEYPAD_4
  | 98 => KEYPAD_5
  | 99 => KEYPAD_6
  | 100 => KEYPAD_7
  | 101 => KEYPAD_8
  | 102 => KEYPAD_9
  | 103 => KEYPAD_0
  | 104 => KEYPAD_DOT
  | 105 => KEY_POWER
  | 106 => KEY_NON_US
  | _ => KEY_ERROR_UNDEFINED

/-! ### `crc16` -/

/-- The bit loop of `crc16`, for `n` more bits. -/
def crc16.bits : Nat → U16 → U16
  | 0,     crc => crc
  | n + 1, crc =>
      if crc &&& 0x0001 = 0 then bits n (crc >>> 1)
      else bits n ((crc >>> 1) ^^^ 0xA001)

/-- The byte loop of `crc16`. -/
def crc16.step (crc : U16) (b : U8) : U16 := crc16.bits 8 (crc ^^^ b.setWidth 16)

/-- `crc16`. -/
def crc16 (buffer : Buffer) (length : Nat) : U16 :=
  (buffer.bytes length).foldl crc16.step 0xFFFF

/-! ### `send_uart_rsp` -/

/-- The first six bytes of the response to `code`. -/
def responseHead (hidState code : U8) : List U8 :=
  if code &&& PONG_OK ≠ 0 then
    let r1 := PONG_OK
      ||| (if getHidState hidState HID_DEV_KEYBOARD then 0 else PONG_KEYBOARD_OFFLINE)
      ||| (if getHidState hidState HID_DEV_MOUSE then 0 else PONG_MOUSE_OFFLINE)
    [MAGIC_RESP, r1, OUTPUTS_KEYBOARD_USB ||| OUTPUTS_MOUSE_USB_ABS, FEATURES_HAS_USB, 0, 0]
  else [MAGIC_RESP, code, 0, 0, 0, 0]

/-- A frame: six bytes and their `crc16`, high byte first. -/
def withCrc (head : List U8) : List U8 :=
  let crc := crc16 (Buffer.ofList head Buffer.zero) 6
  head ++ [highByte crc, lowByte crc]

/-- `send_uart_rsp`: the response. Code 0 repeats the last one. -/
def sendUartRsp (st : KvmState) (code : U8) : KvmState × List U8 :=
  if code = 0 then (st, withCrc (responseHead st.hidState st.prevCode))
  else ({ st with prevCode := code }, withCrc (responseHead st.hidState code))

/-! ### The command switch -/

/-- The end of the mouse branches: the six bytes behind the report id go out, and the
outcome is noted in `hid_state`. -/
def sendMouseReport (env : HandlerEnv) (st : KvmState) (hidRpt : Buffer) :
    KvmState × List ReportIn :=
  let r := sendHidReport env.reportIn .hidMsIf (hidRpt.drop (1 - HID_KB_MS_COMB))
    HID_MS_REPORT_BYTE 3
  ({ st with
      hidState := setHidState st.hidState HID_DEV_MOUSE (decide (r.2 = HID_MS_REPORT_BYTE)) },
    r.1)

/-- The branch `CMD_WHEEL`. -/
def cmdWheel (env : HandlerEnv) (st : KvmState) (cmdBuf : Buffer) :
    KvmState × List ReportIn :=
  let deltaY := cmdBuf 3
  let st := { st with button := 0 }
  let hidRpt := env.hidRpt |>.set 0 2 |>.set 1 st.button |>.set 2 0 |>.set 3 0 |>.set 4 0
    |>.set 5 0 |>.set 6 deltaY
  sendMouseReport env st hidRpt

/-- A signed 16-bit coordinate from its two bytes, high byte first. -/
def coordinate (hi lo : U8) : Int :=
  (BitVec.ofNat 16 ((hi.toNat <<< 8) + lo.toNat)).toInt

/-- The report coordinate, `(x + 32768) / 2` as a `uint16_t`. -/
def position (x : Int) : U16 := BitVec.ofInt 16 ((x + 32768).tdiv 2)

/-- The button mask of a `CMD_BUTTON`. -/
def buttonMask (b : U8) : U8 :=
  (if b &&& 0x08 ≠ 0 then 1 else 0) ||| (if b &&& 0x04 ≠ 0 then 2 else 0)
    ||| (if b &&& 0x02 ≠ 0 then 4 else 0)

/-- The branch `CMD_BUTTON`, `CMD_MOVE`. Byte 6 of `hid_rpt` is not written. -/
def cmdButtonMove (env : HandlerEnv) (st : KvmState) (cmdBuf : Buffer) :
    KvmState × List ReportIn :=
  let st :=
    if cmdBuf 1 = CMD_MOVE then
      { st with
          posx := position (coordinate (cmdBuf 2) (cmdBuf 3))
          posy := position (coordinate (cmdBuf 4) (cmdBuf 5)) }
    else { st with button := buttonMask (cmdBuf 2) }
  let hidRpt := env.hidRpt |>.set 0 2 |>.set 1 st.button |>.set 2 (lowByte st.posx)
    |>.set 3 (highByte st.posx) |>.set 4 (lowByte st.posy) |>.set 5 (highByte st.posy)
  sendMouseReport env st hidRpt

/-- The modifier keys, `KEY_LEFT_CTRL` to `KEY_RIGHT_WINDOWS`. -/
def IsModifier (key : U8) : Prop := KEY_LEFT_CTRL ≤ key ∧ key ≤ KEY_RIGHT_WINDOWS

instance : DecidablePred IsModifier := fun key =>
  inferInstanceAs (Decidable (KEY_LEFT_CTRL ≤ key ∧ key ≤ KEY_RIGHT_WINDOWS))

/-- The bit of a modifier key. -/
def modifierBit (key : U8) : U8 := (1 : U8) <<< (key - KEY_LEFT_CTRL)

/-- What the first half of the branch `CMD_KEY` leaves. -/
structure KeyBuild where
  modifier : U8
  hidRpt : Buffer
  skip : Bool

/-- The first half of the branch `CMD_KEY`: the report, and whether it is skipped. The
report is cleared first, so nothing of the stack is left in it. -/
def cmdKeyBuild (st : KvmState) (cmdBuf : Buffer) : KeyBuild :=
  let key := keyMapUsb (cmdBuf 2)
  let hidRpt := Buffer.zero |>.set 0 1 |>.set 3 key
  if cmdBuf 3 ≠ 0 then
    -- key press
    let hidRpt := hidRpt.set 1 st.modifier
    if IsModifier key then ⟨st.modifier ||| modifierBit key, hidRpt, true⟩
    else ⟨st.modifier, hidRpt, decide (key = KEY_ERROR_UNDEFINED)⟩
  else
    -- key release
    let modifier := if IsModifier key then st.modifier &&& ~~~modifierBit key else st.modifier
    ⟨modifier, hidRpt |>.set 1 0 |>.set 3 0, false⟩

/-- The branch `CMD_KEY`. A report with the checksum of the last one is not sent. -/
def cmdKey (env : HandlerEnv) (st : KvmState) (cmdBuf : Buffer) :
    KvmState × List ReportIn :=
  let b := cmdKeyBuild st cmdBuf
  let st := { st with modifier := b.modifier }
  if b.skip then (st, [])
  else
    let data := b.hidRpt.drop (1 - HID_KB_MS_COMB)
    let crc := crc16 data HID_KB_REPORT_BYTE
    if st.lastCrc = crc then (st, [])
    else
      let r := sendHidReport env.reportIn .hidKbIf data HID_KB_REPORT_BYTE 3
      let sent := decide (r.2 = HID_KB_REPORT_BYTE)
      ({ st with
          lastCrc := if sent then crc else 0
          hidState := setHidState st.hidState HID_DEV_KEYBOARD sent }, r.1)

/-- The two checks before the switch. A failed checksum hides a wrong header. -/
def headerCheck (cmdBuf : Buffer) (cmdLen : Nat) : U8 :=
  let resp := if cmdBuf 0 ≠ MAGIC ∨ cmdLen ≠ 8 then RESP_INVALID_ERROR else RESP_NONE
  let crc := crc16 cmdBuf 6
  if crc &&& 0xFF ≠ (cmdBuf 7).setWidth 16 ∨ crc >>> 8 ≠ (cmdBuf 6).setWidth 16 then
    RESP_CRC_ERROR
  else resp

/-- The switch over the command code. -/
def commandSwitch (env : HandlerEnv) (st : KvmState) (cmdBuf : Buffer) :
    (KvmState × List ReportIn) × U8 :=
  if cmdBuf 1 = CMD_PING then ((st, []), PONG_OK)
  else if cmdBuf 1 = CMD_CLEAR_HID then ((st, []), PONG_OK)
  else if cmdBuf 1 = CMD_REPEAT then ((st, []), 0)
  else if cmdBuf 1 = CMD_WHEEL then (cmdWheel env st cmdBuf, PONG_OK)
  else if cmdBuf 1 = CMD_BUTTON ∨ cmdBuf 1 = CMD_MOVE then
    (cmdButtonMove env st cmdBuf, PONG_OK)
  else if cmdBuf 1 = CMD_KEY then (cmdKey env st cmdBuf, PONG_OK)
  else ((st, []), RESP_INVALID_ERROR)

/-- `handle_pikvm_command`. -/
def handlePikvmCommand (env : HandlerEnv) (st : KvmState) (cmdBuf : Buffer) (cmdLen : Nat) :
    HandlerOut :=
  let resp := headerCheck cmdBuf cmdLen
  let r := if resp = RESP_NONE then commandSwitch env st cmdBuf else ((st, []), resp)
  let rsp := sendUartRsp r.1.1 r.2
  ⟨rsp.1, r.1.2, rsp.2⟩

end PikvmHid
