import PikvmHid.Include.Stdint

/-!
# `PikvmHid.App.UsbHidKeys`: the usage codes of the keyboard page

`app/usb_hid_keys.h`, the enumerators that `key_map_usb` returns and the two bounds of
the modifier range. The left and right modifiers are the codes `0xE0` to `0xE7`, one
for each bit of the modifier byte of a report.
-/

set_option autoImplicit false

namespace PikvmHid

abbrev KEY_ERROR_UNDEFINED : U8 := 3
abbrev KEY_A : U8 := 4
abbrev KEY_B : U8 := 5
abbrev KEY_C : U8 := 6
abbrev KEY_D : U8 := 7
abbrev KEY_E : U8 := 8
abbrev KEY_F : U8 := 9
abbrev KEY_G : U8 := 10
abbrev KEY_H : U8 := 11
abbrev KEY_I : U8 := 12
abbrev KEY_J : U8 := 13
abbrev KEY_K : U8 := 14
abbrev KEY_L : U8 := 15
abbrev KEY_M : U8 := 16
abbrev KEY_N : U8 := 17
abbrev KEY_O : U8 := 18
abbrev KEY_P : U8 := 19
abbrev KEY_Q : U8 := 20
abbrev KEY_R : U8 := 21
abbrev KEY_S : U8 := 22
abbrev KEY_T : U8 := 23
abbrev KEY_U : U8 := 24
abbrev KEY_V : U8 := 25
abbrev KEY_W : U8 := 26
abbrev KEY_X : U8 := 27
abbrev KEY_Y : U8 := 28
abbrev KEY_Z : U8 := 29
abbrev KEY_1 : U8 := 30
abbrev KEY_2 : U8 := 31
abbrev KEY_3 : U8 := 32
abbrev KEY_4 : U8 := 33
abbrev KEY_5 : U8 := 34
abbrev KEY_6 : U8 := 35
abbrev KEY_7 : U8 := 36
abbrev KEY_8 : U8 := 37
abbrev KEY_9 : U8 := 38
abbrev KEY_0 : U8 := 39
abbrev KEY_ENTER : U8 := 40
abbrev KEY_ESC : U8 := 41
abbrev KEY_BACKSPACE : U8 := 42
abbrev KEY_TAB : U8 := 43
abbrev KEY_SPACE : U8 := 44
abbrev KEY_MINUS : U8 := 45
abbrev KEY_EQUAL : U8 := 46
abbrev KEY_LEFT_BRACE : U8 := 47
abbrev KEY_RIGHT_BRACE : U8 := 48
abbrev KEY_BACKSLASH : U8 := 49
abbrev KEY_SEMICOLON : U8 := 51
abbrev KEY_QUOTE : U8 := 52
abbrev KEY_TILDE : U8 := 53
abbrev KEY_COMMA : U8 := 54
abbrev KEY_PERIOD : U8 := 55
abbrev KEY_SLASH : U8 := 56
abbrev KEY_CAPS_LOCK : U8 := 0x39
abbrev KEY_F1 : U8 := 0x3A
abbrev KEY_F2 : U8 := 0x3B
abbrev KEY_F3 : U8 := 0x3C
abbrev KEY_F4 : U8 := 0x3D
abbrev KEY_F5 : U8 := 0x3E
abbrev KEY_F6 : U8 := 0x3F
abbrev KEY_F7 : U8 := 0x40
abbrev KEY_F8 : U8 := 0x41
abbrev KEY_F9 : U8 := 0x42
abbrev KEY_F10 : U8 := 0x43
abbrev KEY_F11 : U8 := 0x44
abbrev KEY_F12 : U8 := 0x45
abbrev KEY_PRINT : U8 := 0x46
abbrev KEY_SCROLL_LOCK : U8 := 0x47
abbrev KEY_PAUSE : U8 := 0x48
abbrev KEY_INSERT : U8 := 0x49
abbrev KEY_HOME : U8 := 0x4A
abbrev KEY_PAGE_UP : U8 := 0x4B
abbrev KEY_DELETE : U8 := 0x4C
abbrev KEY_END : U8 := 0x4D
abbrev KEY_PAGE_DOWN : U8 := 0x4E
abbrev KEY_RIGHT_ARROW : U8 := 0x4F
abbrev KEY_LEFT_ARROW : U8 := 0x50
abbrev KEY_DOWN_ARROW : U8 := 0x51
abbrev KEY_UP_ARROW : U8 := 0x52
abbrev KEY_NUM_LOCK : U8 := 0x53
abbrev KEYPAD_DIVIDE : U8 := 0x54
abbrev KEYPAD_MULTIPLY : U8 := 0x55
abbrev KEYPAD_SUBTRACT : U8 := 0x56
abbrev KEYPAD_ADD : U8 := 0x57
abbrev KEYPAD_ENTER : U8 := 0x58
abbrev KEYPAD_1 : U8 := 0x59
abbrev KEYPAD_2 : U8 := 0x5A
abbrev KEYPAD_3 : U8 := 0x5B
abbrev KEYPAD_4 : U8 := 0x5C
abbrev KEYPAD_5 : U8 := 0x5D
abbrev KEYPAD_6 : U8 := 0x5E
abbrev KEYPAD_7 : U8 := 0x5F
abbrev KEYPAD_8 : U8 := 0x60
abbrev KEYPAD_9 : U8 := 0x61
abbrev KEYPAD_0 : U8 := 0x62
abbrev KEYPAD_DOT : U8 := 0x63
abbrev KEY_NON_US : U8 := 0x64
abbrev KEY_MENU : U8 := 0x65
abbrev KEY_POWER : U8 := 0x66
abbrev KEY_LEFT_CTRL : U8 := 0xE0
abbrev KEY_LEFT_SHIFT : U8 := 0xE1
abbrev KEY_LEFT_ALT : U8 := 0xE2
abbrev KEY_LEFT_GUI : U8 := 0xE3
abbrev KEY_RIGHT_CTRL : U8 := 0xE4
abbrev KEY_RIGHT_SHIFT : U8 := 0xE5
abbrev KEY_RIGHT_ALT : U8 := 0xE6
abbrev KEY_RIGHT_GUI : U8 := 0xE7
abbrev KEY_RIGHT_WINDOWS : U8 := 0xE7

end PikvmHid
