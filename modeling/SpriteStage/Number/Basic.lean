namespace SpriteStage.Number

def isDigit (c : Char) : Bool := '0' ≤ c && c ≤ '9'

def digitValue (c : Char) : Nat := c.toNat - '0'.toNat

def valueOf (digits : List Char) : Nat := digits.foldl (fun n c => 10 * n + digitValue c) 0

def spanDigits (cs : List Char) : List Char × List Char := cs.span isDigit

/-- The value `significand * 10 ^ exponent` with a sign. -/
structure Decimal where
  negative : Bool
  significand : Nat
  exponent : Int
  deriving Repr, DecidableEq

/-- The nearest single precision value, a tie going to the even one. -/
def Decimal.toSingle (d : Decimal) : Float32 :=
  let magnitude := Float32.ofScientific d.significand (d.exponent < 0) d.exponent.natAbs
  if d.negative then -magnitude else magnitude

def Decimal.toDouble (d : Decimal) : Float :=
  let magnitude := Float.ofScientific d.significand (d.exponent < 0) d.exponent.natAbs
  if d.negative then -magnitude else magnitude

inductive Literal where
  | finite (value : Decimal)
  | infinite (negative : Bool)
  | notANumber
  deriving Repr, DecidableEq

/-- Take an optional sign; the flag tells a minus. -/
def takeSign : List Char → Bool × List Char
  | '-' :: rest => (true, rest)
  | '+' :: rest => (false, rest)
  | rest => (false, rest)

/-- An exponent that ends the text: its mark, a sign and at least one digit. -/
def exponent? : List Char → Option Int
  | [] => some 0
  | mark :: rest =>
    if mark = 'e' ∨ mark = 'E' then
      let (negative, digits) := takeSign rest
      if digits.isEmpty || !digits.all isDigit then none
      else some (if negative then -(valueOf digits : Int) else valueOf digits)
    else none

def unsigned? (cs : List Char) : Option (Nat × Int) :=
  let (whole, afterWhole) := spanDigits cs
  let (fraction, rest) := match afterWhole with
    | '.' :: more => spanDigits more
    | more => ([], more)
  if (whole ++ fraction).isEmpty then none
  else (exponent? rest).map fun power => (valueOf (whole ++ fraction), power - fraction.length)

def Literal.parse? (cs : List Char) : Option Literal :=
  let (negative, body) := takeSign cs
  let word := String.ofList (body.map Char.toLower)
  if word = "inf" || word = "infinity" then some (.infinite negative)
  else if word = "nan" then some .notANumber
  else (unsigned? body).map fun (significand, power) => .finite ⟨negative, significand, power⟩

def Literal.toSingle : Literal → Float32
  | .finite d => d.toSingle
  | .infinite negative => if negative then Float32.ofBits 0xFF800000 else Float32.ofBits 0x7F800000
  | .notANumber => Float32.ofBits 0x7FC00000

open Float.Model in
/-- The nearest single precision value, a tie going to the even one. -/
def narrow (x : Float) : Float32 :=
  .ofModel (.pack (match x.toModel.unpack with
    | .finite sign mantissa exponent _ => UnpackedFloat.round .binary32 sign mantissa exponent
    | other => other))

/-- Keep a value between two bounds; a NaN stays one. -/
def clamp (low high x : Float32) : Float32 :=
  if x < low then low else if high < x then high else x

/-- Nearest byte, a half going up; a NaN gives zero and other values stop at the ends. -/
def nearestByte (x : Float32) : UInt8 :=
  let whole := x.toUInt8
  if 0.5 ≤ x - whole.toFloat32 && whole < 255 then whole + 1 else whole

/-- The larger value; a NaN loses to any number. -/
def larger (x y : Float32) : Float32 :=
  if x.isNaN then y else if y.isNaN then x else if x < y then y else x

/-- The nearest whole number, a half going up, but at least one. From 2 ^ 23 on every value is
whole. -/
def wholeFromOne (x : Float32) : Float32 :=
  let x := larger x 1
  let whole := x.toUInt32.toFloat32
  if x < 8388608 then (if 0.5 ≤ x - whole then whole + 1 else whole) else x

def radiansPerDegree : Float32 := Float32.ofBits 0x3C8EFA35

/-- Whole seconds and the remaining nanoseconds are each rounded before they are added. -/
def secondsOfNanos (nanos : Nat) : Float32 :=
  Float32.ofNat (nanos / 1000000000) + Float32.ofNat (nanos % 1000000000) / 1e9

end SpriteStage.Number
