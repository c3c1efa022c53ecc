import SpriteStage.Colour.Basic
import SpriteStage.Json.Basic

/-! JSON texts as far as they can be read. A reader that stops at the first problem must meet a
wrong type before a broken text that comes later, so the tree keeps what was readable and marks
the place where the text breaks off. -/

namespace SpriteStage.Json

/-- Why a text is not read: it is no JSON, it ends too early, or a value does not fit its place. A
value that should have been a colour is named. -/
inductive Problem where
  | malformed
  | cutShort
  | mismatch (colour : Option ColourError)
  deriving Repr, DecidableEq

/-- A place where the text breaks off. The problem can depend on whether the value there is wanted
or only passed over. -/
structure Flaw where
  wanted : Problem
  skipped : Problem
  deriving Repr, DecidableEq

def Flaw.of (problem : Problem) : Flaw := ⟨problem, problem⟩

/-- The readable part of a value. A string may be well delimited and still hold no valid text. -/
inductive Tree where
  | null
  | bool (b : Bool)
  | number (n : Numeral)
  | string (content : Except Problem String)
  | array (items : List Tree) (flaw : Option Flaw)
  | object (members : List (Except Problem String × Tree)) (flaw : Option Flaw)
  | broken (flaw : Flaw)
  deriving Inhabited

def isSpace (c : Char) : Bool := c = ' ' || c = '\n' || c = '\t' || c = '\r'

def skipSpace (cs : List Char) : List Char := cs.dropWhile isSpace

inductive Piece where
  | close
  | char (c : Char)
  | unit (code : Nat)
  | wrong (problem : Problem)

def hexDigit? (c : Char) : Option Nat :=
  if '0' ≤ c && c ≤ '9' then some (c.toNat - '0'.toNat)
  else if 'a' ≤ c && c ≤ 'f' then some (c.toNat - 'a'.toNat + 10)
  else if 'A' ≤ c && c ≤ 'F' then some (c.toNat - 'A'.toNat + 10)
  else none

/-- Four hexadecimal digits; fewer than four bytes left count as the end of the text. -/
def codeUnit (cs : List Char) : Piece × List Char :=
  let ahead := cs.take 4
  if (String.ofList ahead).utf8ByteSize < 4 then (.wrong .cutShort, [])
  else match ahead.mapM hexDigit? with
    | some digits => (.unit (digits.foldl (fun n d => 16 * n + d) 0), cs.drop 4)
    | none => (.wrong .malformed, [])

def escaped : List Char → Piece × List Char
  | [] => (.wrong .cutShort, [])
  | c :: rest =>
    if c = '"' || c = '\\' || c = '/' then (.char c, rest)
    else if c = 'b' then (.char '\x08', rest)
    else if c = 'f' then (.char '\x0c', rest)
    else if c = 'n' then (.char '\n', rest)
    else if c = 'r' then (.char '\r', rest)
    else if c = 't' then (.char '\t', rest)
    else if c = 'u' then codeUnit rest
    else (.wrong .malformed, [])

def piece : List Char → Piece × List Char
  | [] => (.wrong .cutShort, [])
  | c :: rest =>
    if c = '"' then (.close, rest)
    else if c = '\\' then escaped rest
    else if c.toNat < 32 then (.wrong .malformed, [])
    else (.char c, rest)

/-- A string being read: its characters in reverse, a leading surrogate that waits for its
partner, and whether the units so far make a text. -/
structure Draft where
  reversed : List Char
  leading : Option Nat
  faulty : Bool

def isLeading (code : Nat) : Bool := 0xD800 ≤ code && code < 0xDC00
def isTrailing (code : Nat) : Bool := 0xDC00 ≤ code && code < 0xE000

def Draft.addChar (d : Draft) (c : Char) : Draft :=
  ⟨c :: d.reversed, none, d.faulty || d.leading.isSome⟩

def Draft.addUnit (d : Draft) (code : Nat) : Draft :=
  match d.leading with
  | some first =>
    if isTrailing code then
      { d with
        reversed := Char.ofNat ((first - 0xD800) * 0x400 + (code - 0xDC00) + 0x10000) :: d.reversed
        leading := none }
    else { d with leading := none, faulty := true }
  | none =>
    if isLeading code then { d with leading := some code }
    else if isTrailing code then { d with faulty := true }
    else d.addChar (Char.ofNat code)

def Draft.finish (d : Draft) : Except Problem String :=
  if d.faulty || d.leading.isSome then .error .malformed else .ok (String.ofList d.reversed.reverse)

/-- The rest of a string after its opening quote, and the text after its closing quote. -/
def stringBody (fuel : Nat) (d : Draft) (cs : List Char) :
    Except Flaw (Except Problem String × List Char) :=
  match fuel with
  | 0 => .error (.of .cutShort)
  | fuel + 1 =>
    match piece cs with
    | (.close, rest) => .ok (d.finish, rest)
    | (.char c, rest) => stringBody fuel (d.addChar c) rest
    | (.unit code, rest) => stringBody fuel (d.addUnit code) rest
    | (.wrong problem, _) => .error ⟨if d.faulty then .malformed else problem, problem⟩

def stringAfterQuote (cs : List Char) : Except Flaw (Except Problem String × List Char) :=
  stringBody (cs.length + 1) ⟨[], none, false⟩ cs

/-- A number that stops where a digit is due; the end of the text is told apart only from a number
that is wanted. -/
def digitDue (rest : List Char) : Flaw :=
  ⟨if rest.isEmpty then .cutShort else .malformed, .malformed⟩

open SpriteStage.Number in
def someDigits (cs : List Char) : Except Flaw (List Char × List Char) :=
  let (digits, rest) := spanDigits cs
  if digits.isEmpty then .error (digitDue rest) else .ok (digits, rest)

/-- The digits before the point: a zero stands alone. -/
def wholePart (cs : List Char) : Except Flaw (List Char × List Char) := do
  let (digits, rest) ← someDigits cs
  if digits.head? = some '0' && 1 < digits.length then throw (.of .malformed)
  return (digits, rest)

def fractionPart : List Char → Except Flaw (Option (List Char) × List Char)
  | '.' :: rest => do
    let (digits, rest) ← someDigits rest
    return (some digits, rest)
  | rest => .ok (none, rest)

open SpriteStage.Number in
def powerPart : List Char → Except Flaw (Option Int × List Char)
  | mark :: rest =>
    if mark = 'e' || mark = 'E' then do
      let (negative, rest) := takeSign rest
      let (digits, rest) ← someDigits rest
      return (some (if negative then -(valueOf digits : Int) else valueOf digits), rest)
    else .ok (none, mark :: rest)
  | [] => .ok (none, [])

def numeral (cs : List Char) : Except Flaw (Numeral × List Char) := do
  let (negative, rest) := match cs with
    | '-' :: rest => (true, rest)
    | rest => (false, rest)
  let (whole, rest) ← wholePart rest
  let (fraction, rest) ← fractionPart rest
  let (power, rest) ← powerPart rest
  return (⟨negative, whole, fraction, power⟩, rest)

def expectWord (word cs : List Char) : Except Problem (List Char) :=
  match word, cs with
  | [], rest => .ok rest
  | _ :: _, [] => .error .cutShort
  | w :: word, c :: rest => if w = c then expectWord word rest else .error .malformed

/-- What was read, and the rest of the text unless it breaks off inside. -/
abbrev Reading (α : Type) := α × Option (List Char)

def brokenOff (flaw : Flaw) : Reading Tree := (.broken flaw, none)

def wordValue (value : Tree) (word cs : List Char) : Reading Tree :=
  match expectWord word cs with
  | .ok rest => (value, some rest)
  | .error problem => brokenOff (.of problem)

mutual

def readValue (fuel : Nat) (cs : List Char) : Reading Tree :=
  match fuel with
  | 0 => brokenOff (.of .malformed)
  | fuel + 1 =>
    match skipSpace cs with
    | [] => brokenOff (.of .cutShort)
    | c :: rest =>
      if c = 'n' then wordValue .null ['u', 'l', 'l'] rest
      else if c = 't' then wordValue (.bool true) ['r', 'u', 'e'] rest
      else if c = 'f' then wordValue (.bool false) ['a', 'l', 's', 'e'] rest
      else if c = '"' then match stringAfterQuote rest with
        | .ok (content, rest) => (.string content, some rest)
        | .error flaw => brokenOff flaw
      else if c = '-' || Number.isDigit c then match numeral (c :: rest) with
        | .ok (n, rest) => (.number n, some rest)
        | .error flaw => brokenOff flaw
      else if c = '[' then
        let ((items, flaw), left) := readItems fuel true rest
        (.array items flaw, left)
      else if c = '\x7b' then
        let ((members, flaw), left) := readMembers fuel true rest
        (.object members flaw, left)
      else brokenOff (.of .malformed)

/-- The items of an array after its bracket or after an item. -/
def readItems (fuel : Nat) (start : Bool) (cs : List Char) :
    Reading (List Tree × Option Flaw) :=
  match fuel with
  | 0 => (([], some (.of .malformed)), none)
  | fuel + 1 =>
    match skipSpace cs with
    | [] => (([], some (.of .cutShort)), none)
    | c :: rest =>
      if c = ']' then (([], none), some rest)
      else if !start && c ≠ ',' then (([], some (.of .malformed)), none)
      else
        match readValue fuel (if start then c :: rest else rest) with
        | (item, none) => (([item], none), none)
        | (item, some rest) =>
          let ((items, flaw), left) := readItems fuel false rest
          ((item :: items, flaw), left)

/-- The members of an object after its brace or after a member. -/
def readMembers (fuel : Nat) (start : Bool) (cs : List Char) :
    Reading (List (Except Problem String × Tree) × Option Flaw) :=
  match fuel with
  | 0 => (([], some (.of .malformed)), none)
  | fuel + 1 =>
    match skipSpace cs with
    | [] => (([], some (.of .cutShort)), none)
    | c :: rest =>
      if c = '\x7d' then (([], none), some rest)
      else if !start && c ≠ ',' then (([], some (.of .malformed)), none)
      else
        match skipSpace (if start then c :: rest else rest) with
        | [] => (([], some (.of .cutShort)), none)
        | quote :: rest =>
          if quote ≠ '"' then (([], some (.of .malformed)), none)
          else match stringAfterQuote rest with
            | .error flaw => (([], some flaw), none)
            | .ok (key, rest) =>
              match skipSpace rest with
              | [] => (([(key, .broken (.of .cutShort))], none), none)
              | colon :: rest =>
                if colon ≠ ':' then (([(key, .broken (.of .malformed))], none), none)
                else match readValue fuel rest with
                  | (value, none) => (([(key, value)], none), none)
                  | (value, some rest) =>
                    let ((members, flaw), left) := readMembers fuel false rest
                    (((key, value) :: members, flaw), left)

end

/-- A whole text: its value, and whether only blanks follow it. -/
def readText (text : String) : Tree × Bool :=
  let cs := text.toList
  match readValue (2 * cs.length + 2) cs with
  | (tree, some rest) => (tree, (skipSpace rest).isEmpty)
  | (tree, none) => (tree, true)

mutual

def toTree : Json → Tree
  | .null => .null
  | .bool b => .bool b
  | .int n => .number (.ofInt n)
  | .single x => if x.isFinite then .number (.ofSingle x) else .null
  | .string s => .string (.ok s)
  | .array items => .array (itemTrees items) none
  | .object members => .object (memberTrees members) none

def itemTrees : List Json → List Tree
  | [] => []
  | item :: rest => item.toTree :: itemTrees rest

def memberTrees : List (String × Json) → List (Except Problem String × Tree)
  | [] => []
  | (key, value) :: rest => (.ok key, value.toTree) :: memberTrees rest

end

end SpriteStage.Json
