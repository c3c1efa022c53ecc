import SpriteStage.Colour.Basic
import SpriteStage.Json.Tree
import SpriteStage.Number.Basic

namespace SpriteStage.Json

abbrev Decoded (α : Type) := Except Problem α

/-- A numeral that is beyond double precision is no valid number wherever it is wanted. -/
def Numeral.value (n : Numeral) : Decoded NumeralValue :=
  match n.value? with
  | some value => .ok value
  | none => .error .malformed

namespace Tree

mutual

/-- Pass over a value of any kind: only the form of its text matters. -/
def skip : Tree → Decoded Unit
  | .array items flaw => do
    skipItems items
    if let some flaw := flaw then throw flaw.skipped
  | .object members flaw => do
    skipMembers members
    if let some flaw := flaw then throw flaw.skipped
  | .broken flaw => .error flaw.skipped
  | _ => .ok ()

def skipItems : List Tree → Decoded Unit
  | [] => .ok ()
  | item :: rest => do
    item.skip
    skipItems rest

def skipMembers : List (Except Problem String × Tree) → Decoded Unit
  | [] => .ok ()
  | (_, value) :: rest => do
    value.skip
    skipMembers rest

end

/-- The report on a value of another type: a scalar is read to its end first. -/
def wrongType {α : Type} : Tree → Decoded α
  | .broken flaw => .error flaw.wanted
  | .string (.error problem) => .error problem
  | .number n => do
    let _ ← n.value
    .error (.mismatch none)
  | _ => .error (.mismatch none)

def text : Tree → Decoded String
  | .string content => content
  | other => other.wrongType

def counter : Tree → Decoded UInt32
  | .number n => do
    match ← n.value with
    | .natural k => if k < Nat.pow 2 32 then .ok (UInt32.ofNat k) else .error (.mismatch none)
    | _ => .error (.mismatch none)
  | other => other.wrongType

/-- A single precision number; an integer is rounded once, other numbers pass double precision. -/
def single : Tree → Decoded Float32
  | .number n => do
    match ← n.value with
    | .natural k => .ok (Float32.ofNat k)
    | .negative k => .ok (-(Float32.ofNat k))
    | .real x => .ok (Number.narrow x)
  | other => other.wrongType

end Tree

/-- A named part of a record: how it is read into the record and written from it. -/
structure RecordField (σ : Type) where
  name : String
  read : Tree → σ → Decoded σ
  write : σ → Json

def readArray {σ : Type} (flaw : Option Flaw) :
    List (RecordField σ) → List Tree → σ → Decoded σ
  | field :: fields, item :: items, record => do
    readArray flaw fields items (← field.read item record)
  | [], _ :: _, _ => .error .malformed
  | _, [], record => match flaw with
    | some flaw => .error flaw.wanted
    | none => .ok record

/-- Read the members of a record given as an object. Members with other names are passed over; a
known name may come once. -/
def readFields {σ : Type} (fields : List (RecordField σ)) (flaw : Option Flaw)
    (seen : List String) :
    List (Except Problem String × Tree) → σ → Decoded σ
  | [], record => match flaw with
    | some flaw => .error flaw.wanted
    | none => .ok record
  | (key, value) :: rest, record => do
    let key ← key
    match fields.find? (·.name = key) with
    | some field =>
      if seen.contains key then .error (.mismatch none)
      else readFields fields flaw (key :: seen) rest (← field.read value record)
    | none => do
      value.skip
      readFields fields flaw seen rest record

/-- Read a record over the values it has where nothing is given. -/
def readRecord {σ : Type} (fields : List (RecordField σ)) (defaults : σ) : Tree → Decoded σ
  | .object members flaw => readFields fields flaw [] members defaults
  | .array items flaw => readArray flaw fields items defaults
  | other => other.wrongType

def writeRecord {σ : Type} (fields : List (RecordField σ)) (record : σ) : Json :=
  .object (fields.map fun field => (field.name, field.write record))

/-- Read a whole text; what follows the value is looked at last. -/
def readWhole {α : Type} (decode : Tree → Decoded α) (text : String) : Decoded α := do
  let (tree, complete) := readText text
  let value ← decode tree
  if complete then return value else throw .malformed

/-- Whether a name comes before another one. Names without a text come first. -/
def keyBefore (a b : Except Problem String) : Bool := a.toOption.getD "" < b.toOption.getD ""

/-- Put a member where its name belongs, unless the name is there. -/
def insertMember (key : Except Problem String) (value : Tree) :
    List (Except Problem String × Tree) → List (Except Problem String × Tree)
  | [] => [(key, value)]
  | (other, kept) :: rest =>
    if keyBefore key other then (key, value) :: (other, kept) :: rest
    else if keyBefore other key then (other, kept) :: insertMember key value rest
    else (other, kept) :: rest

mutual

/-- The members of all objects in the order of their names; of two with one name the later stays. -/
def Tree.sorted : Tree → Tree
  | .array items flaw => .array (sortedItems items) flaw
  | .object members flaw => .object (sortedMembers members) flaw
  | other => other

def sortedItems : List Tree → List Tree
  | [] => []
  | item :: rest => item.sorted :: sortedItems rest

def sortedMembers :
    List (Except Problem String × Tree) → List (Except Problem String × Tree)
  | [] => []
  | (key, value) :: rest => insertMember key value.sorted (sortedMembers rest)

end

/-- Read a value that is part of a larger document: the document is already known to be well formed,
and its objects have their members in the order of the names. -/
def readPart {α : Type} (decode : Tree → Decoded α) (tree : Tree) : Decoded α :=
  match decode tree.sorted with
  | .ok value => .ok value
  | .error (.mismatch colour) => .error (.mismatch colour)
  | .error _ => .error (.mismatch none)

end SpriteStage.Json

namespace SpriteStage

/-- A string that is no colour is a mismatch that names it. -/
def Json.Tree.colour (tree : Json.Tree) : Json.Decoded Colour := do
  match Colour.parse (← tree.text) with
  | .ok colour => .ok colour
  | .error e => .error (.mismatch (some e))

def Colour.toJson (c : Colour) : Json := .string c.text

end SpriteStage
