import SpriteStage.Asset.Loading
import SpriteStage.Json.Decode
import SpriteStage.Prompt.Overlay

namespace SpriteStage

structure Settings where
  title : String
  width : UInt32
  height : UInt32
  assetRoot : String
  /-- Folders below the asset root that are tried for a missing asset. -/
  fallbackFolders : List String
  background : Colour
  /-- Fill of the image that stands in for one that cannot be loaded. -/
  placeholder : Colour
  figureWidth : Float32
  figureHeight : Float32
  defaultPrompt : String
  /-- Frames between two changes of the caret. -/
  caretInterval : UInt32
  overlay : PromptStyle
  deriving DecidableEq

namespace Settings

def standard : Settings where
  title := "Playfield"
  width := 800
  height := 600
  assetRoot := "."
  fallbackFolders := ["images", "sounds"]
  background := .rgb 0x0d 0x11 0x17
  placeholder := .rgb 0xff 0x6b 0x6b
  figureWidth := 50
  figureHeight := 50
  defaultPrompt := "Input:"
  caretInterval := 30
  overlay := .standard

def resolver (s : Settings) : AssetResolver := ⟨s.assetRoot, s.fallbackFolders⟩

end Settings

open Json (RecordField Decoded)

/-- The list of texts of an array; the first item that is no text is reported. -/
def Json.textItems : List Json.Tree → Decoded (List String)
  | [] => .ok []
  | item :: rest => do
    let text ← item.text
    return text :: (← textItems rest)

def Json.Tree.texts : Json.Tree → Decoded (List String)
  | .array items flaw => do
    let texts ← Json.textItems items
    match flaw with
    | some flaw => throw flaw.wanted
    | none => return texts
  | other => other.wrongType

namespace Settings

def textField {σ : Type} (name : String) (get : σ → String) (set : String → σ → σ) :
    RecordField σ :=
  ⟨name, fun tree record => return set (← tree.text) record, fun record => .string (get record)⟩

def counterField {σ : Type} (name : String) (get : σ → UInt32) (set : UInt32 → σ → σ) :
    RecordField σ :=
  ⟨name, fun tree record => return set (← tree.counter) record,
    fun record => .int (get record).toNat⟩

def singleField {σ : Type} (name : String) (get : σ → Float32) (set : Float32 → σ → σ) :
    RecordField σ :=
  ⟨name, fun tree record => return set (← tree.single) record, fun record => .single (get record)⟩

def colourField {σ : Type} (name : String) (get : σ → Colour) (set : Colour → σ → σ) :
    RecordField σ :=
  ⟨name, fun tree record => return set (← tree.colour) record,
    fun record => (get record).toJson⟩

def textsField {σ : Type} (name : String) (get : σ → List String) (set : List String → σ → σ) :
    RecordField σ :=
  ⟨name, fun tree record => return set (← tree.texts) record,
    fun record => .array ((get record).map .string)⟩

end Settings

open Settings (textField counterField singleField colourField textsField)

def PromptStyle.fields : List (RecordField PromptStyle) := [
  colourField "scrim" (·.scrim) fun v s => { s with scrim := v },
  colourField "box_fill" (·.boxFill) fun v s => { s with boxFill := v },
  colourField "border" (·.border) fun v s => { s with border := v },
  colourField "field_fill" (·.fieldFill) fun v s => { s with fieldFill := v },
  colourField "text" (·.text) fun v s => { s with text := v },
  colourField "caret" (·.caret) fun v s => { s with caret := v },
  colourField "hint_color" (·.hintColour) fun v s => { s with hintColour := v },
  singleField "box_width" (·.boxWidth) fun v s => { s with boxWidth := v },
  singleField "box_height" (·.boxHeight) fun v s => { s with boxHeight := v },
  singleField "prompt_size" (·.promptSize) fun v s => { s with promptSize := v },
  singleField "text_size" (·.textSize) fun v s => { s with textSize := v },
  singleField "hint_size" (·.hintSize) fun v s => { s with hintSize := v },
  textField "hint" (·.hint) fun v s => { s with hint := v }]

def PromptStyle.ofTree (tree : Json.Tree) : Decoded PromptStyle :=
  Json.readRecord PromptStyle.fields .standard tree

def PromptStyle.toJson (style : PromptStyle) : Json := Json.writeRecord PromptStyle.fields style

namespace Settings

/-- A style inside settings is read over the standard style. -/
def overlayField : RecordField Settings :=
  ⟨"overlay", fun tree s => return { s with overlay := ← PromptStyle.ofTree tree },
    fun s => s.overlay.toJson⟩

def fields : List (RecordField Settings) := [
  textField "title" (·.title) fun v s => { s with title := v },
  counterField "width" (·.width) fun v s => { s with width := v },
  counterField "height" (·.height) fun v s => { s with height := v },
  textField "asset_root" (·.assetRoot) fun v s => { s with assetRoot := v },
  textsField "fallback_dirs" (·.fallbackFolders) fun v s => { s with fallbackFolders := v },
  colourField "background" (·.background) fun v s => { s with background := v },
  colourField "placeholder" (·.placeholder) fun v s => { s with placeholder := v },
  singleField "figure_width" (·.figureWidth) fun v s => { s with figureWidth := v },
  singleField "figure_height" (·.figureHeight) fun v s => { s with figureHeight := v },
  textField "default_prompt" (·.defaultPrompt) fun v s => { s with defaultPrompt := v },
  counterField "caret_interval" (·.caretInterval) fun v s => { s with caretInterval := v },
  overlayField]

def ofTree (tree : Json.Tree) : Decoded Settings := Json.readRecord fields .standard tree

def parse (text : String) : Decoded Settings := Json.readWhole ofTree text

def toJson (s : Settings) : Json := Json.writeRecord fields s

end Settings
end SpriteStage
