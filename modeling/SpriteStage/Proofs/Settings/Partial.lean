import SpriteStage.Proofs.Colour.RoundTrip
import SpriteStage.Proofs.Json.Record
import SpriteStage.Settings.Basic

namespace SpriteStage
open Json (RecordField Tree Listed)

def Json.RecordField.Written {σ : Type} (record : σ) (field : RecordField σ) (tree : Tree) : Prop :=
  tree = (field.write record).toTree

/-- A style that agrees with the given one on the named parts and with the standard one
elsewhere. -/
def PromptStyle.mixed (style : PromptStyle) (names : List String) : PromptStyle where
  scrim := if "scrim" ∈ names then style.scrim else standard.scrim
  boxFill := if "box_fill" ∈ names then style.boxFill else standard.boxFill
  border := if "border" ∈ names then style.border else standard.border
  fieldFill := if "field_fill" ∈ names then style.fieldFill else standard.fieldFill
  text := if "text" ∈ names then style.text else standard.text
  caret := if "caret" ∈ names then style.caret else standard.caret
  hintColour := if "hint_color" ∈ names then style.hintColour else standard.hintColour
  boxWidth := if "box_width" ∈ names then style.boxWidth else standard.boxWidth
  boxHeight := if "box_height" ∈ names then style.boxHeight else standard.boxHeight
  promptSize := if "prompt_size" ∈ names then style.promptSize else standard.promptSize
  textSize := if "text_size" ∈ names then style.textSize else standard.textSize
  hintSize := if "hint_size" ∈ names then style.hintSize else standard.hintSize
  hint := if "hint" ∈ names then style.hint else standard.hint

def PromptStyle.singles (style : PromptStyle) : List Float32 :=
  [style.boxWidth, style.boxHeight, style.promptSize, style.textSize, style.hintSize]

namespace Settings

/-- Settings that agree with the given ones on the named parts, with their style on the named parts
of the style, and with the standard settings elsewhere. -/
def mixed (s : Settings) (names styleNames : List String) : Settings where
  title := if "title" ∈ names then s.title else standard.title
  width := if "width" ∈ names then s.width else standard.width
  height := if "height" ∈ names then s.height else standard.height
  assetRoot := if "asset_root" ∈ names then s.assetRoot else standard.assetRoot
  fallbackFolders := if "fallback_dirs" ∈ names then s.fallbackFolders else standard.fallbackFolders
  background := if "background" ∈ names then s.background else standard.background
  placeholder := if "placeholder" ∈ names then s.placeholder else standard.placeholder
  figureWidth := if "figure_width" ∈ names then s.figureWidth else standard.figureWidth
  figureHeight := if "figure_height" ∈ names then s.figureHeight else standard.figureHeight
  defaultPrompt := if "default_prompt" ∈ names then s.defaultPrompt else standard.defaultPrompt
  caretInterval := if "caret_interval" ∈ names then s.caretInterval else standard.caretInterval
  overlay := if "overlay" ∈ names then s.overlay.mixed styleNames else standard.overlay

def singles (s : Settings) : List Float32 := [s.figureWidth, s.figureHeight] ++ s.overlay.singles

/-- A part as it is written, but the style with only the parts that are named. -/
def Given (s : Settings) (styleNames : List String) (field : RecordField Settings) (tree : Tree) :
    Prop :=
  if field.name = "overlay" then ∃ members, tree = .object members none ∧
    Listed PromptStyle.fields (·.Written s.overlay) members styleNames
  else field.Written s tree

/-! ## One part -/

section
variable {σ : Type} {name : String} {record target : σ}

theorem read_text {get : σ → String} {set : String → σ → σ} :
    (textField name get set).read ((textField name get set).write record).toTree target =
      .ok (set (get record) target) :=
  rfl

theorem read_counter {get : σ → UInt32} {set : UInt32 → σ → σ} :
    (counterField name get set).read ((counterField name get set).write record).toTree target =
      .ok (set (get record) target) := by
  have inside : (get record).toNat < Nat.pow 2 32 := (get record).toNat_lt
  have small : (get record).toNat < Json.wordLimit := inside.trans (by decide)
  have read : Tree.counter (.number (.ofInt (get record).toNat)) = .ok (get record) := by
    simp only [Tree.counter, Json.Numeral.value, Json.Numeral.value?_ofInt small, bind, Except.bind]
    rw [if_pos inside, UInt32.ofNat_toNat]
  simp only [counterField, Json.toTree, read, bind, Except.bind]
  rfl

theorem read_single {get : σ → Float32} {set : Float32 → σ → σ}
    (back : (Json.single (get record)).toTree.single = .ok (get record)) :
    (singleField name get set).read ((singleField name get set).write record).toTree target =
      .ok (set (get record) target) := by
  simp only [singleField, back, bind, Except.bind]
  rfl

theorem read_colour {get : σ → Colour} {set : Colour → σ → σ} :
    (colourField name get set).read ((colourField name get set).write record).toTree target =
      .ok (set (get record) target) := by
  simp only [colourField, Colour.colour_toTree, bind, Except.bind]
  rfl

theorem textItems_trees (texts : List String) :
    Json.textItems (Json.itemTrees (texts.map .string)) = .ok texts := by
  induction texts with
  | nil => rfl
  | cons text texts ih =>
    have first : (Json.string text).toTree.text = .ok text := rfl
    simp only [List.map_cons, Json.itemTrees, Json.textItems, first, ih, bind, Except.bind]
    rfl

theorem read_texts {get : σ → List String} {set : List String → σ → σ} :
    (textsField name get set).read ((textsField name get set).write record).toTree target =
      .ok (set (get record) target) := by
  have read : (Json.array ((get record).map .string)).toTree.texts = .ok (get record) := by
    simp only [Json.toTree, Json.Tree.texts, textItems_trees, bind, Except.bind]
    rfl
  simp only [textsField, read, bind, Except.bind]
  rfl

end

/-! ## Whole records -/

/-- A number that was written reads as itself. -/
def ReadsBack (x : Float32) : Prop := (Json.single x).toTree.single = .ok x

end Settings

open Settings

theorem PromptStyle.read_written {style : PromptStyle} (back : ∀ x ∈ style.singles, ReadsBack x) :
    ∀ field ∈ PromptStyle.fields, ∀ seen,
      field.read (field.write style).toTree (style.mixed seen) =
        .ok (style.mixed (field.name :: seen)) := by
  simp only [PromptStyle.singles, List.forall_mem_cons] at back
  obtain ⟨boxWidth, boxHeight, promptSize, textSize, hintSize, -⟩ := back
  simp only [PromptStyle.fields, List.forall_mem_cons]
  refine ⟨fun seen => read_colour.trans ?_, fun seen => read_colour.trans ?_,
    fun seen => read_colour.trans ?_, fun seen => read_colour.trans ?_,
    fun seen => read_colour.trans ?_, fun seen => read_colour.trans ?_,
    fun seen => read_colour.trans ?_, fun seen => (read_single boxWidth).trans ?_,
    fun seen => (read_single boxHeight).trans ?_, fun seen => (read_single promptSize).trans ?_,
    fun seen => (read_single textSize).trans ?_, fun seen => (read_single hintSize).trans ?_,
    fun seen => read_text.trans ?_, by simp⟩
  all_goals simp [PromptStyle.mixed, textField, singleField, colourField]

theorem PromptStyle.mixed_congr {style : PromptStyle} (names others : List String)
    (same : ∀ name, name ∈ names ↔ name ∈ others) : style.mixed names = style.mixed others := by
  simp [PromptStyle.mixed, same]

theorem PromptStyle.distinct_names : (PromptStyle.fields.map (·.name)).Nodup := by
  decide

theorem PromptStyle.ofTree_listed {style : PromptStyle} (back : ∀ x ∈ style.singles, ReadsBack x)
    {members : List (Except Json.Problem String × Tree)} {names : List String}
    (listed : Listed PromptStyle.fields (·.Written style) members names) :
    PromptStyle.ofTree (.object members none) = .ok (style.mixed names) := by
  have nothing : PromptStyle.standard = style.mixed [] := by
    simp [PromptStyle.mixed, PromptStyle.standard]
  rw [PromptStyle.ofTree, nothing]
  refine Json.readRecord_listed style.mixed PromptStyle.distinct_names PromptStyle.mixed_congr
    ?_ listed
  rintro field member tree seen rfl
  exact PromptStyle.read_written back field member seen

theorem PromptStyle.mixed_all (style : PromptStyle) :
    style.mixed (PromptStyle.fields.map (·.name)) = style := by
  simp [PromptStyle.mixed, PromptStyle.fields, textField, singleField, colourField]

namespace Settings

theorem mixed_congr {s : Settings} {styleNames : List String} (names others : List String)
    (same : ∀ name, name ∈ names ↔ name ∈ others) :
    s.mixed names styleNames = s.mixed others styleNames := by
  simp [mixed, same]

theorem distinct_names : (fields.map (·.name)).Nodup := by
  decide

theorem mixed_all (s : Settings) :
    s.mixed (fields.map (·.name)) (PromptStyle.fields.map (·.name)) = s := by
  simp [mixed, fields, textField, counterField, singleField, colourField, textsField, overlayField,
    PromptStyle.mixed_all]

theorem read_written {s : Settings} {styleNames : List String}
    (back : ∀ x ∈ s.singles, ReadsBack x) : ∀ field ∈ fields, field.name ≠ "overlay" → ∀ seen,
      field.read (field.write s).toTree (s.mixed seen styleNames) =
        .ok (s.mixed (field.name :: seen) styleNames) := by
  simp only [singles, List.cons_append, List.forall_mem_cons] at back
  obtain ⟨figureWidth, figureHeight, -⟩ := back
  simp only [fields, List.forall_mem_cons]
  refine ⟨fun _ seen => read_text.trans ?_, fun _ seen => read_counter.trans ?_,
    fun _ seen => read_counter.trans ?_, fun _ seen => read_text.trans ?_,
    fun _ seen => read_texts.trans ?_, fun _ seen => read_colour.trans ?_,
    fun _ seen => read_colour.trans ?_, fun _ seen => (read_single figureWidth).trans ?_,
    fun _ seen => (read_single figureHeight).trans ?_, fun _ seen => read_text.trans ?_,
    fun _ seen => read_counter.trans ?_, fun other => absurd rfl other, by simp⟩
  all_goals simp [mixed, textField, counterField, singleField, colourField, textsField]

theorem read_given {s : Settings} {styleNames : List String} (back : ∀ x ∈ s.singles, ReadsBack x)
    (field : RecordField Settings) (member : field ∈ fields) (tree : Tree) (seen : List String)
    (given : s.Given styleNames field tree) :
    field.read tree (s.mixed seen styleNames) = .ok (s.mixed (field.name :: seen) styleNames) := by
  unfold Given at given
  split at given
  · rename_i style
    obtain ⟨members, rfl, listed⟩ := given
    have inner : ∀ x ∈ s.overlay.singles, ReadsBack x := fun x known =>
      back x (List.mem_append_right _ known)
    obtain rfl : field = overlayField :=
      List.inj_on_of_nodup_map distinct_names member (by simp [fields]) style
    simp only [overlayField, PromptStyle.ofTree_listed inner listed, bind, Except.bind]
    exact congrArg Except.ok (by simp [mixed])
  · rename_i other
    rw [given]
    exact read_written back field member other seen

theorem ofTree_listed {s : Settings} {styleNames : List String}
    (back : ∀ x ∈ s.singles, ReadsBack x)
    {members : List (Except Json.Problem String × Tree)} {names : List String}
    (listed : Listed fields (s.Given styleNames) members names) :
    ofTree (.object members none) = .ok (s.mixed names styleNames) := by
  have nothing : standard = s.mixed [] styleNames := by simp [mixed, standard]
  rw [ofTree, nothing]
  exact Json.readRecord_listed (s.mixed · styleNames) distinct_names mixed_congr
    (read_given back) listed

theorem parse_listed {s : Settings} {styleNames : List String} (back : ∀ x ∈ s.singles, ReadsBack x)
    {members : List (Except Json.Problem String × Tree)} {names : List String}
    (listed : Listed fields (s.Given styleNames) members names) {text : String}
    (whole : Json.readText text = (.object members none, true)) :
    parse text = .ok (s.mixed names styleNames) := by
  simp only [parse, Json.readWhole, whole, ofTree_listed back listed, bind, Except.bind]
  rfl

theorem listed_toJson (s : Settings) : ∃ members, s.toJson.toTree = .object members none ∧
    Listed fields (s.Given (PromptStyle.fields.map (·.name))) members (fields.map (·.name)) := by
  refine Json.listed_writeRecord s distinct_names fun field member => ?_
  unfold Given
  split
  · rename_i style
    obtain rfl : field = overlayField :=
      List.inj_on_of_nodup_map distinct_names member (by simp [fields]) style
    exact Json.listed_writeRecord s.overlay PromptStyle.distinct_names fun _ _ => rfl
  · rfl

/-- Settings read from any of their parts, in any order and among other members, agree with the
written ones on what is given and with the standard ones elsewhere. That holds of every text of such
a document and of the text that is written for it; written in full, settings come back. -/
theorem parse_partial (s : Settings) (finite : ∀ x ∈ s.singles, x.isFinite)
    (back : ∀ x ∈ s.singles, x.isFinite → ReadsBack x) :
    (∀ text members names styleNames, Json.readText text = (.object members none, true) →
      Listed fields (s.Given styleNames) members names →
      parse text = .ok (s.mixed names styleNames)) ∧
    (∀ members names styleNames,
      Listed fields (s.Given styleNames) (Json.memberTrees members) names →
      parse (Json.object members).text = .ok (s.mixed names styleNames)) ∧
    parse s.toJson.text = .ok s := by
  have back : ∀ x ∈ s.singles, ReadsBack x := fun x known => back x known (finite x known)
  refine ⟨fun text members names styleNames whole listed => parse_listed back listed whole,
    fun members names styleNames listed => parse_listed back listed ?_, ?_⟩
  · rw [Json.readText_text, Json.toTree]
  · obtain ⟨members, tree, listed⟩ := s.listed_toJson
    have whole := Json.readText_text s.toJson
    rw [tree] at whole
    rw [parse_listed back listed whole, mixed_all]

def thinFigure : Settings :=
  { standard with figureWidth := 0.1, overlay := { PromptStyle.standard with hint := "é" } }

/-- The two parts that are not standard are enough, out of order and behind another member. -/
theorem parse_partial_thinFigure :
    parse (Json.object [("note", .array [.null]), ("overlay", .object [("hint", .string "é")]),
      ("figure_width", .single 0.1)]).text = .ok thinFigure := by
  obtain ⟨-, written, -⟩ := parse_partial thinFigure (by decide +kernel)
    (by unfold ReadsBack; decide +kernel)
  refine (written _ ["overlay", "figure_width"] ["hint"] ?_).trans ?_
  · simp only [Json.memberTrees]
    refine .other (by decide) (Json.skip_toTree _) ?_
    refine .part (List.getElem_mem (by decide : 11 < fields.length)) (by decide) ?_ ?_
    · refine ⟨[(.ok "hint", .string (.ok "é"))], by simp only [Json.toTree, Json.memberTrees], ?_⟩
      exact .part (List.getElem_mem (by decide : 12 < PromptStyle.fields.length)) (by decide)
        rfl .nil
    · exact .part (List.getElem_mem (by decide : 7 < fields.length)) (by decide) rfl .nil
  · simp [mixed, PromptStyle.mixed, thinFigure, standard]

end Settings
end SpriteStage
