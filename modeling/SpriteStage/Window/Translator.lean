import SpriteStage.Input.Basic
import SpriteStage.Window.Keycode

/-! Events of a window, turned into what the host does. A printable key takes the name of the text
that follows it, so that a typed character arrives as it was typed; and a key is released under the
name it was pressed with. -/

namespace SpriteStage

inductive MouseButton where
  | left
  | right
  | middle
  deriving DecidableEq, Repr

/-- An event of a window. A key may have no code. -/
inductive WindowEvent where
  | keyDown (code : Option Keycode) (modifiers : Modifiers) (repeated : Bool)
  | keyUp (code : Option Keycode) (modifiers : Modifiers)
  | text (text : String)
  | motion (x y : Int)
  | press (button : MouseButton) (x y : Int)
  | release (button : MouseButton) (x y : Int)
  | quit
  | other
  deriving DecidableEq

inductive HostAction where
  | quit
  | input (event : InputEvent)
  deriving DecidableEq

namespace WindowEvent

def action? : WindowEvent → Option HostAction
  | .keyDown (some code) modifiers repeated =>
    some (.input (.keyDown (code.hostName modifiers) repeated))
  | .keyUp (some code) modifiers => some (.input (.keyUp (code.hostName modifiers)))
  | .motion x y => some (.input (.mouseMove (.ofInt x) (.ofInt y)))
  | .press .left x y => some (.input (.mouseDown (.ofInt x) (.ofInt y)))
  | .release .left x y => some (.input (.mouseUp (.ofInt x) (.ofInt y)))
  | .quit => some .quit
  | _ => none

end WindowEvent

/-- The names that keys were pressed with, while they are down. -/
structure EventTranslator where
  pressed : List (Keycode × String)
  deriving DecidableEq, Repr, Inhabited

namespace EventTranslator

def empty : EventTranslator := ⟨[]⟩

def name? (t : EventTranslator) (code : Keycode) : Option String := t.pressed.lookup code

def forget (t : EventTranslator) (code : Keycode) : EventTranslator :=
  ⟨t.pressed.filter (·.1 ≠ code)⟩

def remember (t : EventTranslator) (code : Keycode) (name : String) : EventTranslator :=
  ⟨(code, name) :: (t.forget code).pressed⟩

/-- A batch of events being translated: the actions so far, and the key press that may still be
renamed by a text. -/
structure Batch where
  translator : EventTranslator
  actions : List HostAction
  pending : Option (Nat × Keycode)

def renamePress (name : String) : HostAction → HostAction
  | .input (.keyDown _ repeated) => .input (.keyDown name repeated)
  | other => other

/-- The presses and releases of a text that comes without keys. -/
def strokes (text : String) : List HostAction :=
  text.toList.flatMap fun c =>
    let name := String.ofList [c]
    [.input (.keyDown name false), .input (.keyUp name)]

/-- A repeated key keeps the name it was pressed with. -/
def pressName (t : EventTranslator) (code : Keycode) (modifiers : Modifiers) (repeated : Bool) :
    String :=
  if repeated then (t.name? code).getD (code.hostName modifiers) else code.hostName modifiers

def Batch.press (b : Batch) (code : Keycode) (modifiers : Modifiers) (repeated : Bool) : Batch :=
  let name := b.translator.pressName code modifiers repeated
  { translator := b.translator.remember code name
    actions := b.actions ++ [.input (.keyDown name repeated)]
    pending := if name.toList.length = 1 then some (b.actions.length, code) else none }

def Batch.release (b : Batch) (code : Keycode) (modifiers : Modifiers) : Batch :=
  let name := (b.translator.name? code).getD (code.hostName modifiers)
  { translator := b.translator.forget code
    actions := b.actions ++ [.input (.keyUp name)]
    pending := none }

/-- One character after a press that waits for it renames the press; any other text makes strokes
of its own. -/
def Batch.type (b : Batch) (text : String) : Batch :=
  match b.pending, text.toList with
  | some (index, code), [c] =>
    let name := String.ofList [c]
    { translator := b.translator.remember code name
      actions := b.actions.modify index (renamePress name)
      pending := none }
  | _, _ => { b with actions := b.actions ++ strokes text, pending := none }

def Batch.add (b : Batch) (event : WindowEvent) : Batch :=
  match event with
  | .keyDown (some code) modifiers repeated => b.press code modifiers repeated
  | .keyUp (some code) modifiers => b.release code modifiers
  | .text text => b.type text
  | event => { b with actions := b.actions ++ event.action?.toList }

def translateAll (t : EventTranslator) (events : List WindowEvent) :
    List HostAction × EventTranslator :=
  let batch := events.foldl Batch.add ⟨t, [], none⟩
  (batch.actions, batch.translator)

end EventTranslator
end SpriteStage
