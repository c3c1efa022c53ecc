import SpriteStage.Colour.Basic
import SpriteStage.Prompt.Basic
import SpriteStage.Surface.Basic

namespace SpriteStage

structure PromptStyle where
  scrim : Colour
  boxFill : Colour
  border : Colour
  fieldFill : Colour
  text : Colour
  caret : Colour
  hintColour : Colour
  boxWidth : Float32
  boxHeight : Float32
  promptSize : Float32
  textSize : Float32
  hintSize : Float32
  hint : String
  deriving DecidableEq

def PromptStyle.standard : PromptStyle where
  scrim := ⟨0, 0, 0, 204⟩
  boxFill := .rgb 0x12 0x17 0x1f
  border := .rgb 0x00 0xd4 0xff
  fieldFill := .rgb 0x0d 0x11 0x17
  text := .rgb 0xe0 0xe6 0xed
  caret := .rgb 0x00 0xd4 0xff
  hintColour := .rgb 0x6b 0x7a 0x8a
  boxWidth := 500
  boxHeight := 140
  promptSize := 20
  textSize := 18
  hintSize := 14
  hint := "Press Enter to confirm"

namespace Prompt
variable {S : Type} [Surface S]

def tailWithin (width : List Char → Float32) (limit : Float32) : List Char → List Char
  | [] => []
  | c :: rest => if width (c :: rest) > limit then tailWithin width limit rest else c :: rest

def visibleTail (surface : S) (text : String) (size limit : Float32) : String :=
  String.ofList (tailWithin (fun cs => Surface.textWidth surface (String.ofList cs) size) limit
    text.toList)

def fieldMargin : Float32 := 30
def fieldTop : Float32 := 55
def fieldHeight : Float32 := 40
def textInset : Float32 := 10
def borderWidth : Float32 := 2

def paintCentred (text : String) (middle y : Float32) (colour : Colour) (size : Float32) :
    Draw S Unit := do
  let width := Surface.textWidth (← get) text size
  Surface.paintText text (middle - width / 2) y colour size

def paintPanel (area : Rect) (fill border : Colour) : Draw S Unit := do
  Surface.paint (.rect area fill)
  Surface.paint (.stroke area border borderWidth)

def box (style : PromptStyle) (width height : Float32) : Rect :=
  ⟨(width - style.boxWidth) / 2, (height - style.boxHeight) / 2, style.boxWidth, style.boxHeight⟩

def field (box : Rect) : Rect :=
  ⟨box.x + fieldMargin, box.y + fieldTop, box.width - 2 * fieldMargin, fieldHeight⟩

def caret (field : Rect) (textWidth : Float32) : Rect :=
  ⟨field.x + textInset + textWidth + 2, field.y + 8, 2, 24⟩

def paintOverlay (style : PromptStyle) (question buffer : String) (caretVisible : Bool) :
    Draw S Unit := do
  let size := Surface.size (← get)
  let width := size.1.toFloat32
  let height := size.2.toFloat32
  let box := box style width height
  let field := field box
  Surface.paint (.rect ⟨0, 0, width, height⟩ style.scrim)
  paintPanel box style.boxFill style.border
  paintCentred question (width / 2) (box.y + 35) style.text style.promptSize
  paintPanel field style.fieldFill style.border
  let limit := field.width - 2 * textInset - textInset
  let shown := visibleTail (← get) buffer style.textSize limit
  Surface.paintText shown (field.x + textInset) (field.y + 27) style.text style.textSize
  if caretVisible then
    let textWidth := Surface.textWidth (← get) shown style.textSize
    Surface.paint (.rect (caret field textWidth) style.caret)
  paintCentred style.hint (width / 2) (box.y + box.height + 25) style.hintColour style.hintSize

/-- Draw the prompt that is shown, if any, and advance its caret; the caret advances even when the
drawing fails. -/
def draw (p : Prompt) (style : PromptStyle) (interval : UInt32) (surface : S) :
    Except RenderError Unit × Prompt × S :=
  if !p.active then (.ok (), p, surface)
  else
    let p := p.tickCaret interval
    let (result, surface) := paintOverlay style p.question p.buffer p.caretVisible surface
    (result, p, surface)

end Prompt
end SpriteStage
