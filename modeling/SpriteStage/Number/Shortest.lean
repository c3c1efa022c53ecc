import SpriteStage.Number.Basic

/-! Shortest decimals of single precision values: the fewest digits that read back, and of those
the nearest. -/

namespace SpriteStage.Number

/-- A positive finite value `scaled / unit` and the values that round to it. -/
structure Neighbourhood where
  scaled : Nat
  unit : Nat
  below : Nat
  above : Nat
  /-- Whether the two ends round to the value. -/
  closed : Bool

/-- Decode the bits of a finite value; below a power of two the gap is half as wide. -/
def Neighbourhood.ofSingle (x : Float32) : Neighbourhood :=
  let bits := x.toBits.toNat % Nat.pow 2 31
  let biased := bits / Nat.pow 2 23
  let fraction := bits % Nat.pow 2 23
  let mantissa := if biased = 0 then fraction else fraction + Nat.pow 2 23
  let power : Int := (max biased 1 : Nat) - 152
  let widen (n : Nat) := n * Nat.pow 2 power.toNat
  let lower := if fraction = 0 && 1 < biased then 1 else 2
  ⟨widen (4 * mantissa), Nat.pow 2 (-power).toNat, widen (4 * mantissa - lower),
    widen (4 * mantissa + 2), mantissa % 2 = 0⟩

/-- The value as a multiple of `10 ^ exponent`, rounded down, and the remainder's denominator. -/
structure Grid where
  exponent : Int
  numerator : Nat
  denominator : Nat

/-- The grid with that spacing: a point `d` of it stands for `d * denominator`. -/
def Neighbourhood.grid (n : Neighbourhood) (exponent : Int) : Grid :=
  ⟨exponent, n.scaled * Nat.pow 10 (-exponent).toNat, n.unit * Nat.pow 10 exponent.toNat⟩

/-- Whether a point of the grid rounds to the value. -/
def Neighbourhood.accepts (n : Neighbourhood) (exponent : Int) (point : Nat) : Bool :=
  let place := point * n.unit * Nat.pow 10 exponent.toNat
  let low := n.below * Nat.pow 10 (-exponent).toNat
  let high := n.above * Nat.pow 10 (-exponent).toNat
  if n.closed then low ≤ place && place ≤ high else low < place && place < high

/-- The position of the leading digit: `10 ^ magnitude ≤ x < 10 ^ (magnitude + 1)`. -/
def Neighbourhood.magnitude (n : Neighbourhood) : Int :=
  ((Nat.toDigits 10 (n.scaled * Nat.pow 10 60 / n.unit)).length : Int) - 61

/-- Of the two grid points around the value, the nearest that rounds to it; a tie goes to the
even one. -/
def Neighbourhood.onGrid? (n : Neighbourhood) (exponent : Int) : Option Nat :=
  let grid := n.grid exponent
  let lower := grid.numerator / grid.denominator
  let twice := 2 * (grid.numerator % grid.denominator)
  let lowerFirst := twice < grid.denominator || (twice = grid.denominator && lower % 2 = 0)
  let candidates := if lowerFirst then [lower, lower + 1] else [lower + 1, lower]
  candidates.find? (n.accepts exponent)

def dropZeros (fuel : Nat) (significand : Nat) (exponent : Int) : Nat × Int :=
  match fuel with
  | 0 => (significand, exponent)
  | fuel + 1 =>
    if significand ≠ 0 ∧ significand % 10 = 0 then dropZeros fuel (significand / 10) (exponent + 1)
    else (significand, exponent)

/-- Try one digit, then two, up to the nine that always suffice. -/
def shortestFrom (n : Neighbourhood) : List Nat → Nat × Int
  | [] => (0, 0)
  | digits :: more =>
    let exponent := n.magnitude - digits
    match n.onGrid? exponent with
    | some point => dropZeros (digits + 2) point exponent
    | none => shortestFrom n more

def shortest (x : Float32) : Decimal :=
  let negative := Nat.pow 2 31 ≤ x.toBits.toNat
  if x.toBits.toNat % Nat.pow 2 31 = 0 then ⟨negative, 0, 0⟩
  else
    let (significand, exponent) := shortestFrom (.ofSingle x) (List.range 9)
    ⟨negative, significand, exponent⟩

end SpriteStage.Number
