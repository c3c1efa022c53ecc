import SpriteStage.Colour.Basic
import SpriteStage.Geometry.Affine
import SpriteStage.Number.Basic

/-! The bitmap font: five columns by seven rows, one number per row with its leftmost column in the
highest of five bits. A text size in pixels picks the nearest whole-number scale. -/

namespace SpriteStage.Glyph

/-- Rows of the capital letters, digits and marks; anything else is a full block, so that it is
seen. -/
def capitalRows : Char → List Nat
  | 'A' => [0b01110, 0b10001, 0b10001, 0b11111, 0b10001, 0b10001, 0b10001]
  | 'B' => [0b11110, 0b10001, 0b10001, 0b11110, 0b10001, 0b10001, 0b11110]
  | 'C' => [0b01110, 0b10001, 0b10000, 0b10000, 0b10000, 0b10001, 0b01110]
  | 'D' => [0b11110, 0b10001, 0b10001, 0b10001, 0b10001, 0b10001, 0b11110]
  | 'E' => [0b11111, 0b10000, 0b10000, 0b11110, 0b10000, 0b10000, 0b11111]
  | 'F' => [0b11111, 0b10000, 0b10000, 0b11110, 0b10000, 0b10000, 0b10000]
  | 'G' => [0b01110, 0b10001, 0b10000, 0b10111, 0b10001, 0b10001, 0b01110]
  | 'H' => [0b10001, 0b10001, 0b10001, 0b11111, 0b10001, 0b10001, 0b10001]
  | 'I' => [0b11111, 0b00100, 0b00100, 0b00100, 0b00100, 0b00100, 0b11111]
  | 'J' => [0b00111, 0b00010, 0b00010, 0b00010, 0b00010, 0b10010, 0b01100]
  | 'K' => [0b10001, 0b10010, 0b10100, 0b11000, 0b10100, 0b10010, 0b10001]
  | 'L' => [0b10000, 0b10000, 0b10000, 0b10000, 0b10000, 0b10000, 0b11111]
  | 'M' => [0b10001, 0b11011, 0b10101, 0b10001, 0b10001, 0b10001, 0b10001]
  | 'N' => [0b10001, 0b11001, 0b10101, 0b10011, 0b10001, 0b10001, 0b10001]
  | 'O' => [0b01110, 0b10001, 0b10001, 0b10001, 0b10001, 0b10001, 0b01110]
  | 'P' => [0b11110, 0b10001, 0b10001, 0b11110, 0b10000, 0b10000, 0b10000]
  | 'Q' => [0b01110, 0b10001, 0b10001, 0b10001, 0b10101, 0b10010, 0b01101]
  | 'R' => [0b11110, 0b10001, 0b10001, 0b11110, 0b10100, 0b10010, 0b10001]
  | 'S' => [0b01110, 0b10001, 0b10000, 0b01110, 0b00001, 0b10001, 0b01110]
  | 'T' => [0b11111, 0b00100, 0b00100, 0b00100, 0b00100, 0b00100, 0b00100]
  | 'U' => [0b10001, 0b10001, 0b10001, 0b10001, 0b10001, 0b10001, 0b01110]
  | 'V' => [0b10001, 0b10001, 0b10001, 0b10001, 0b10001, 0b01010, 0b00100]
  | 'W' => [0b10001, 0b10001, 0b10001, 0b10001, 0b10101, 0b11011, 0b10001]
  | 'X' => [0b10001, 0b10001, 0b01010, 0b00100, 0b01010, 0b10001, 0b10001]
  | 'Y' => [0b10001, 0b10001, 0b01010, 0b00100, 0b00100, 0b00100, 0b00100]
  | 'Z' => [0b11111, 0b00001, 0b00010, 0b00100, 0b01000, 0b10000, 0b11111]
  | '0' => [0b01110, 0b10001, 0b10011, 0b10101, 0b11001, 0b10001, 0b01110]
  | '1' => [0b00100, 0b01100, 0b00100, 0b00100, 0b00100, 0b00100, 0b01110]
  | '2' => [0b01110, 0b10001, 0b00001, 0b00110, 0b01000, 0b10000, 0b11111]
  | '3' => [0b11111, 0b00010, 0b00100, 0b00010, 0b00001, 0b10001, 0b01110]
  | '4' => [0b00010, 0b00110, 0b01010, 0b10010, 0b11111, 0b00010, 0b00010]
  | '5' => [0b11111, 0b10000, 0b11110, 0b00001, 0b00001, 0b10001, 0b01110]
  | '6' => [0b00110, 0b01000, 0b10000, 0b11110, 0b10001, 0b10001, 0b01110]
  | '7' => [0b11111, 0b00001, 0b00010, 0b00100, 0b01000, 0b01000, 0b01000]
  | '8' => [0b01110, 0b10001, 0b10001, 0b01110, 0b10001, 0b10001, 0b01110]
  | '9' => [0b01110, 0b10001, 0b10001, 0b01111, 0b00001, 0b00010, 0b01100]
  | ':' => [0b00000, 0b00000, 0b00100, 0b00000, 0b00100, 0b00000, 0b00000]
  | ';' => [0b00000, 0b00000, 0b00100, 0b00000, 0b00100, 0b00100, 0b01000]
  | '/' => [0b00001, 0b00010, 0b00010, 0b00100, 0b01000, 0b01000, 0b10000]
  | '<' => [0b00010, 0b00100, 0b01000, 0b10000, 0b01000, 0b00100, 0b00010]
  | '>' => [0b01000, 0b00100, 0b00010, 0b00001, 0b00010, 0b00100, 0b01000]
  | '-' => [0b00000, 0b00000, 0b00000, 0b11111, 0b00000, 0b00000, 0b00000]
  | '+' => [0b00000, 0b00100, 0b00100, 0b11111, 0b00100, 0b00100, 0b00000]
  | '=' => [0b00000, 0b00000, 0b11111, 0b00000, 0b11111, 0b00000, 0b00000]
  | '*' => [0b00000, 0b10101, 0b01110, 0b11111, 0b01110, 0b10101, 0b00000]
  | '_' => [0b00000, 0b00000, 0b00000, 0b00000, 0b00000, 0b00000, 0b11111]
  | '.' => [0b00000, 0b00000, 0b00000, 0b00000, 0b00000, 0b01100, 0b01100]
  | ',' => [0b00000, 0b00000, 0b00000, 0b00000, 0b01100, 0b00100, 0b01000]
  | '!' => [0b00100, 0b00100, 0b00100, 0b00100, 0b00100, 0b00000, 0b00100]
  | '?' => [0b01110, 0b10001, 0b00001, 0b00010, 0b00100, 0b00000, 0b00100]
  | '\'' => [0b00100, 0b00100, 0b01000, 0b00000, 0b00000, 0b00000, 0b00000]
  | '"' => [0b01010, 0b01010, 0b00000, 0b00000, 0b00000, 0b00000, 0b00000]
  | '#' => [0b01010, 0b11111, 0b01010, 0b01010, 0b01010, 0b11111, 0b01010]
  | '%' => [0b11001, 0b11010, 0b00010, 0b00100, 0b01000, 0b01011, 0b10011]
  | '(' => [0b00010, 0b00100, 0b01000, 0b01000, 0b01000, 0b00100, 0b00010]
  | ')' => [0b01000, 0b00100, 0b00010, 0b00010, 0b00010, 0b00100, 0b01000]
  | ' ' => [0b00000, 0b00000, 0b00000, 0b00000, 0b00000, 0b00000, 0b00000]
  | _ => [0b11111, 0b11111, 0b11111, 0b11111, 0b11111, 0b11111, 0b11111]

/-- Rows of a character; small letters look like capital ones. -/
def rows (c : Char) : List Nat := capitalRows c.toUpper

def columns : Nat := 5
def height : Nat := 7

/-- Columns from one character to the next: the glyph and one of space. -/
def advance : UInt32 := 6

def scaleFor (size : Float32) : Float32 := Number.wholeFromOne (size / 7)

/-- The space after the last character does not count. -/
def textWidth (text : String) (size : Float32) : Float32 :=
  let count := text.toList.length
  if count = 0 then 0 else (UInt32.ofNat count * advance - 1).toFloat32 * scaleFor size

def lineHeight (size : Float32) : Float32 := 7 * scaleFor size

structure Pixel where
  index : Nat
  row : Nat
  column : Nat
  deriving DecidableEq, Repr

def isLit (bits column : Nat) : Bool := bits.testBit (columns - 1 - column)

def rowPixels (index row bits : Nat) : List Pixel :=
  ((List.range columns).filter (isLit bits)).map fun column => ⟨index, row, column⟩

def glyphPixels (index : Nat) (c : Char) : List Pixel :=
  (rows c).zipIdx.flatMap fun (bits, row) => rowPixels index row bits

def litPixels (text : List Char) : List Pixel :=
  text.zipIdx.flatMap fun (c, index) => glyphPixels index c

def square (x top size : Float32) (p : Pixel) : Rect :=
  let scale := scaleFor size
  let left := x + Float32.ofNat p.index * (6 * scale)
  ⟨left + Float32.ofNat p.column * scale, top + Float32.ofNat p.row * scale, scale, scale⟩

/-- Fill the squares of all lit pixels; a failing square ends the text. -/
def drawText {m : Type → Type} [Monad m] (fill : Rect → Colour → m Unit) (text : String)
    (x top : Float32) (colour : Colour) (size : Float32) : m Unit :=
  (litPixels text.toList).forM fun pixel => fill (square x top size pixel) colour

/-- Text above a baseline. -/
def drawLine {m : Type → Type} [Monad m] (fill : Rect → Colour → m Unit) (text : String)
    (x y : Float32) (colour : Colour) (size : Float32) : m Unit :=
  drawText fill text x (y - lineHeight size) colour size

end SpriteStage.Glyph
