/-! Key codes of a window system and their names. The code of a printable key is its character;
other keys are numbered by their place on the keyboard, above a mark. -/

namespace SpriteStage

abbrev Keycode := Nat

structure Modifiers where
  shift : Bool
  capsLock : Bool
  deriving DecidableEq, Repr

namespace Keycode

/-- The mark of keys that are numbered by their place. -/
def placeMark : Nat := Nat.pow 2 30

/-- Names of keys by their place, in rows of consecutive places. -/
def placeNames : List (Nat × List String) := [
  (4, ["A", "B", "C", "D", "E", "F", "G", "H", "I", "J", "K", "L", "M", "N", "O", "P", "Q", "R",
    "S", "T", "U", "V", "W", "X", "Y", "Z", "1", "2", "3", "4", "5", "6", "7", "8", "9", "0",
    "Return", "Escape", "Backspace", "Tab", "Space", "-", "=", "[", "]", "\\", "#", ";", "'",
    "`", ",", ".", "/", "CapsLock", "F1", "F2", "F3", "F4", "F5", "F6", "F7", "F8", "F9", "F10",
    "F11", "F12", "PrintScreen", "ScrollLock", "Pause", "Insert", "Home", "PageUp", "Delete",
    "End", "PageDown", "Right", "Left", "Down", "Up", "Numlock", "Keypad /", "Keypad *",
    "Keypad -", "Keypad +", "Keypad Enter", "Keypad 1", "Keypad 2", "Keypad 3", "Keypad 4",
    "Keypad 5", "Keypad 6", "Keypad 7", "Keypad 8", "Keypad 9", "Keypad 0", "Keypad .", "",
    "Application", "Power", "Keypad =", "F13", "F14", "F15", "F16", "F17", "F18", "F19", "F20",
    "F21", "F22", "F23", "F24", "Execute", "Help", "Menu", "Select", "Stop", "Again", "Undo",
    "Cut", "Copy", "Paste", "Find", "Mute", "VolumeUp", "VolumeDown"]),
  (133, ["Keypad ,", "Keypad = (AS400)"]),
  (153, ["AltErase", "SysReq", "Cancel", "Clear", "Prior", "Return", "Separator", "Out", "Oper",
    "Clear / Again", "CrSel", "ExSel"]),
  (176, ["Keypad 00", "Keypad 000", "ThousandsSeparator", "DecimalSeparator", "CurrencyUnit",
    "CurrencySubUnit", "Keypad (", "Keypad )", "Keypad \x7b", "Keypad \x7d", "Keypad Tab",
    "Keypad Backspace", "Keypad A", "Keypad B", "Keypad C", "Keypad D", "Keypad E", "Keypad F",
    "Keypad XOR", "Keypad ^", "Keypad %", "Keypad <", "Keypad >", "Keypad &", "Keypad &&",
    "Keypad |", "Keypad ||", "Keypad :", "Keypad #", "Keypad Space", "Keypad @", "Keypad !",
    "Keypad MemStore", "Keypad MemRecall", "Keypad MemClear", "Keypad MemAdd",
    "Keypad MemSubtract", "Keypad MemMultiply", "Keypad MemDivide", "Keypad +/-", "Keypad Clear",
    "Keypad ClearEntry", "Keypad Binary", "Keypad Octal", "Keypad Decimal",
    "Keypad Hexadecimal"]),
  (224, ["Left Ctrl", "Left Shift", "Left Alt", "Left GUI", "Right Ctrl", "Right Shift",
    "Right Alt", "Right GUI"]),
  (257, ["ModeSwitch", "AudioNext", "AudioPrev", "AudioStop", "AudioPlay", "AudioMute",
    "MediaSelect", "WWW", "Mail", "Calculator", "Computer", "AC Search", "AC Home", "AC Back",
    "AC Forward", "AC Stop", "AC Refresh", "AC Bookmarks", "BrightnessDown", "BrightnessUp",
    "DisplaySwitch", "KBDIllumToggle", "KBDIllumDown", "KBDIllumUp", "Eject", "Sleep", "App1",
    "App2", "AudioRewind", "AudioFastForward", "SoftLeft", "SoftRight", "Call", "EndCall"])]

def placeName (place : Nat) : String :=
  match placeNames.find? fun row => row.1 ≤ place && place < row.1 + row.2.length with
  | some row => row.2.getD (place - row.1) ""
  | none => ""

/-- What stands on the key. -/
def label (code : Keycode) : String :=
  if placeMark ≤ code then placeName (code - placeMark)
  else if code = 13 then "Return"
  else if code = 27 then "Escape"
  else if code = 8 then "Backspace"
  else if code = 9 then "Tab"
  else if code = 32 then "Space"
  else if code = 127 then "Delete"
  else String.ofList [(Char.ofNat code).toUpper]

/-- Keys with a name of their own for the host, by their code. -/
def hostNames : List (Keycode × String) := [
  (placeMark + 80, "ArrowLeft"), (placeMark + 79, "ArrowRight"), (placeMark + 82, "ArrowUp"),
  (placeMark + 81, "ArrowDown"), (32, " "), (13, "Enter"), (placeMark + 88, "Enter"),
  (27, "Escape"), (8, "Backspace"), (9, "Tab"), (placeMark + 225, "Shift"),
  (placeMark + 229, "Shift"), (placeMark + 224, "Control"), (placeMark + 228, "Control"),
  (placeMark + 226, "Alt"), (placeMark + 230, "Alt")]

/-- A letter as the modifiers make it: shift and caps lock undo each other. -/
def letterCase (modifiers : Modifiers) (c : Char) : Char :=
  if modifiers.shift != modifiers.capsLock then c.toUpper else c.toLower

def hostName (code : Keycode) (modifiers : Modifiers) : String :=
  match hostNames.lookup code with
  | some name => name
  | none =>
    let label := label code
    match label.toList with
    | [c] => if c.isAlpha then String.ofList [letterCase modifiers c] else label
    | _ => label

end Keycode
end SpriteStage
