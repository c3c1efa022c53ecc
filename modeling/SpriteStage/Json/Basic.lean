import SpriteStage.Number.Basic
import SpriteStage.Number.Shortest

namespace SpriteStage.Json
open SpriteStage.Number

/-- A number as it is written: sign, digits before the point, digits after it, exponent. -/
structure Numeral where
  negative : Bool
  whole : List Char
  fraction : Option (List Char)
  power : Option Int
  deriving Repr, DecidableEq

/-- What a numeral stands for. Integers beyond a machine word become real numbers. -/
inductive NumeralValue where
  | natural (n : Nat)
  | negative (n : Nat)
  | real (x : Float)

def wordLimit : Nat := Nat.pow 2 64

/-- Append digits to a significand as long as it fits a machine word; tells how many fitted. -/
def accumulate (significand taken : Nat) : List Char → Nat × Nat
  | [] => (significand, taken)
  | digit :: rest =>
    let grown := 10 * significand + digitValue digit
    if grown < wordLimit then accumulate grown (taken + 1) rest else (significand, taken)

def powerOfTen (n : Nat) : Float := Float.ofScientific 1 false n

/-- Scale a significand by a power of ten: by one factor where the power is representable, else
down in steps of 308 places. There is no value beyond the double range. -/
def scale? (x : Float) (exponent : Int) : Option Float :=
  if 0 ≤ exponent then
    if exponent ≤ 308 then
      let scaled := x * powerOfTen exponent.toNat
      if scaled.isInf then none else some scaled
    else if x == 0 then some x
    else none
  else if -308 ≤ exponent then some (x / powerOfTen (-exponent).toNat)
  else if x == 0 then some x
  else scale? (x / powerOfTen 308) (exponent + 308)
termination_by exponent.natAbs
decreasing_by omega

/-- Digits that no longer fit the significand count as zeros before the point and are left out
after it. -/
def Numeral.real? (n : Numeral) : Option Float :=
  let (whole, kept) := accumulate 0 0 n.whole
  let (significand, places) := accumulate whole 0 (n.fraction.getD [])
  let exponent : Int := (n.whole.length - kept : Nat) - (places : Int) + n.power.getD 0
  (scale? (Float.ofNat significand) exponent).map fun x => if n.negative then -x else x

def Numeral.value? (n : Numeral) : Option NumeralValue :=
  let magnitude := valueOf n.whole
  if n.fraction.isSome || n.power.isSome || wordLimit ≤ magnitude then n.real?.map .real
  else if !n.negative then some (.natural magnitude)
  else if 0 < magnitude && magnitude ≤ Nat.pow 2 63 then some (.negative magnitude)
  else some (.real (-(Float.ofNat magnitude)))

def Numeral.ofInt (n : Int) : Numeral := ⟨n < 0, Nat.toDigits 10 n.natAbs, none, none⟩

end SpriteStage.Json

namespace SpriteStage

inductive Json where
  | null
  | bool (b : Bool)
  | int (n : Int)
  | single (x : Float32)
  | string (s : String)
  | array (items : List Json)
  | object (members : List (String × Json))
  deriving Inhabited

namespace Json
open SpriteStage.Number

def escapeChar (c : Char) : List Char :=
  if c = '"' then ['\\', '"']
  else if c = '\\' then ['\\', '\\']
  else if c = '\n' then ['\\', 'n']
  else if c = '\r' then ['\\', 'r']
  else if c = '\t' then ['\\', 't']
  else if c = '\x08' then ['\\', 'b']
  else if c = '\x0c' then ['\\', 'f']
  else if c.toNat < 32 then
    ['\\', 'u', '0', '0', Nat.digitChar (c.toNat / 16), Nat.digitChar (c.toNat % 16)]
  else [c]

def quoted (s : String) : List Char := '"' :: s.toList.flatMap escapeChar ++ ['"']

def zeros (n : Nat) : List Char := List.replicate n '0'

/-- A decimal is written with a point among its digits, or in scientific form where the point would
be more than thirteen places to the right of the first digit or more than five zeros before it. -/
def Numeral.ofDecimal (d : Decimal) : Numeral :=
  let digits := Nat.toDigits 10 d.significand
  let point := (digits.length : Int) + d.exponent
  if d.significand = 0 then ⟨d.negative, ['0'], some ['0'], none⟩
  else if 0 ≤ d.exponent && point ≤ 13 then
    ⟨d.negative, digits ++ zeros d.exponent.toNat, some ['0'], none⟩
  else if 0 < point && point ≤ 13 then
    ⟨d.negative, digits.take point.toNat, some (digits.drop point.toNat), none⟩
  else if -6 < point && point ≤ 0 then
    ⟨d.negative, ['0'], some (zeros (-point).toNat ++ digits), none⟩
  else
    ⟨d.negative, digits.take 1, if digits.length ≤ 1 then none else some (digits.drop 1),
      some (point - 1)⟩

def Numeral.chars (n : Numeral) : List Char :=
  let fraction := match n.fraction with
    | some digits => '.' :: digits
    | none => []
  let power := match n.power with
    | some power => ['e', if power < 0 then '-' else '+'] ++ Nat.toDigits 10 power.natAbs
    | none => []
  (if n.negative then ['-'] else []) ++ n.whole ++ fraction ++ power

def Numeral.ofSingle (x : Float32) : Numeral := .ofDecimal (shortest x)

/-- A value that is not finite has no JSON text and becomes null. -/
def singleText (x : Float32) : List Char :=
  if x.isFinite then (Numeral.ofSingle x).chars else ['n', 'u', 'l', 'l']

mutual

def chars : Json → List Char
  | .null => ['n', 'u', 'l', 'l']
  | .bool true => ['t', 'r', 'u', 'e']
  | .bool false => ['f', 'a', 'l', 's', 'e']
  | .int n => (toString n).toList
  | .single x => singleText x
  | .string s => quoted s
  | .array items => '[' :: itemChars items ++ [']']
  | .object members => '\x7b' :: memberChars members ++ ['\x7d']

def itemChars : List Json → List Char
  | [] => []
  | [item] => item.chars
  | item :: rest => item.chars ++ ',' :: itemChars rest

def memberChars : List (String × Json) → List Char
  | [] => []
  | [(key, value)] => quoted key ++ ':' :: value.chars
  | (key, value) :: rest => quoted key ++ ':' :: value.chars ++ ',' :: memberChars rest

end

def text (j : Json) : String := String.ofList j.chars

end Json
end SpriteStage
