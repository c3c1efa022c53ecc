import SpriteStage.Number.Basic
import SpriteStage.Text.Basic

namespace SpriteStage

structure Colour where
  red : UInt8
  green : UInt8
  blue : UInt8
  alpha : UInt8
  deriving Repr, DecidableEq, Inhabited

structure ColourError where
  text : String
  deriving Repr, DecidableEq

def ColourError.message (e : ColourError) : String :=
  "invalid colour: " ++ Text.quote e.text

namespace Colour

/-- A colour that hides what is below it. -/
def rgb (red green blue : UInt8) : Colour := ⟨red, green, blue, 255⟩

def white : Colour := rgb 255 255 255
def black : Colour := rgb 0 0 0

def hexDigit (n : Nat) : Char := Nat.digitChar n

def hexByte (channel : UInt8) : List Char :=
  [hexDigit (channel.toNat / 16), hexDigit (channel.toNat % 16)]

/-- The alpha channel is written only when something shows through. -/
def text (c : Colour) : String :=
  String.ofList ('#' :: hexByte c.red ++ hexByte c.green ++ hexByte c.blue ++
    if c.alpha = 255 then [] else hexByte c.alpha)

open Text Number

def hexValue? (c : Char) : Option UInt8 :=
  if isDigit c then some (UInt8.ofNat (digitValue c))
  else if 'a' ≤ c && c ≤ 'f' then some (UInt8.ofNat (c.toNat - 'a'.toNat + 10))
  else none

/-- A digit alone stands for the digit written twice. -/
def nibble? (c : Char) : Option UInt8 := (hexValue? c).map (· * 17)

def byte? (high low : Char) : Option UInt8 := do
  return (← hexValue? high) * 16 + (← hexValue? low)

/-- Three or four short channels, or as many channels of two digits. -/
def ofHex? : List Char → Option Colour
  | [r, g, b] => do return rgb (← nibble? r) (← nibble? g) (← nibble? b)
  | [r, g, b, a] => do return ⟨← nibble? r, ← nibble? g, ← nibble? b, ← nibble? a⟩
  | [r, r', g, g', b, b'] => do return rgb (← byte? r r') (← byte? g g') (← byte? b b')
  | [r, r', g, g', b, b', a, a'] => do
    return ⟨← byte? r r', ← byte? g g', ← byte? b b', ← byte? a a'⟩
  | _ => none

def channel? (cs : List Char) : Option UInt8 :=
  (Literal.parse? cs).map fun literal => nearestByte (clamp 0 255 literal.toSingle)

/-- An opacity from 0 to 1, scaled to a byte and rounded. -/
def opacity? (cs : List Char) : Option UInt8 :=
  (Literal.parse? cs).map fun literal => nearestByte (clamp 0 1 literal.toSingle * 255)

def ofCall? (cs : List Char) : Option Colour := do
  let (name, rest) ← cut? '(' cs
  let arguments ← dropEnd? ')' rest
  match String.ofList (trimChars name), (fields ',' arguments).map trimChars with
  | "rgb", [r, g, b] => return rgb (← channel? r) (← channel? g) (← channel? b)
  | "rgba", [r, g, b, a] => return ⟨← channel? r, ← channel? g, ← channel? b, ← opacity? a⟩
  | _, _ => none

def names : List (String × Colour) := [
  ("white", white), ("black", black), ("red", rgb 255 0 0), ("green", rgb 0 128 0),
  ("lime", rgb 0 255 0), ("blue", rgb 0 0 255), ("yellow", rgb 255 255 0),
  ("orange", rgb 255 165 0), ("purple", rgb 128 0 128), ("pink", rgb 255 192 203),
  ("gray", rgb 128 128 128), ("grey", rgb 128 128 128), ("brown", rgb 165 42 42),
  ("cyan", rgb 0 255 255), ("magenta", rgb 255 0 255), ("transparent", ⟨0, 0, 0, 0⟩)]

/-- Read a text that is trimmed and in lower case. -/
def ofNormal? : List Char → Option Colour
  | '#' :: digits => ofHex? digits
  | cs => if cs.contains '(' then ofCall? cs else names.lookup (String.ofList cs)

def parse? (s : String) : Option Colour :=
  ofNormal? ((trimChars s.toList).map Char.toLower)

def parse (s : String) : Except ColourError Colour :=
  match parse? s with
  | some colour => .ok colour
  | none => .error ⟨s⟩

/-- What drawing calls use: a blank or unknown text stands for white. -/
def parseOrWhite (s : String) : Colour :=
  if (trimChars s.toList).isEmpty then white else (parse? s).getD white

end Colour
end SpriteStage
