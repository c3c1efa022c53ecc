import Mathlib.Data.List.Nodup
import SpriteStage.Proofs.Json.Text

namespace SpriteStage.Json
variable {σ : Type} {fields : List (RecordField σ)} {names : List String}

mutual

theorem skip_toTree : ∀ value : Json, value.toTree.skip = .ok ()
  | .null | .bool _ | .int _ | .string _ => by simp [toTree, Tree.skip]
  | .single x => by
    rw [toTree]
    split <;> simp [Tree.skip]
  | .array items => by
    simp only [toTree, Tree.skip, skipItems_trees items]
    rfl
  | .object members => by
    simp only [toTree, Tree.skip, skipMembers_trees members]
    rfl

theorem skipItems_trees : ∀ items : List Json, Tree.skipItems (itemTrees items) = .ok ()
  | [] => by rw [itemTrees, Tree.skipItems]
  | item :: items => by
    rw [itemTrees, Tree.skipItems, skip_toTree item, skipItems_trees items]
    rfl

theorem skipMembers_trees :
    ∀ members : List (String × Json), Tree.skipMembers (memberTrees members) = .ok ()
  | [] => by rw [memberTrees, Tree.skipMembers]
  | (_, value) :: members => by
    rw [memberTrees, Tree.skipMembers, skip_toTree value, skipMembers_trees members]
    rfl

end

/-- The members of a document that gives parts of a record: each named part once at most, with a
value that fits it, and between them members with other names, whatever their values are. -/
inductive Listed (fields : List (RecordField σ)) (fits : RecordField σ → Tree → Prop) :
    List (Except Problem String × Tree) → List String → Prop
  | nil : Listed fields fits [] []
  | part {field : RecordField σ} {tree : Tree} {members : List (Except Problem String × Tree)}
      {names : List String} :
    field ∈ fields → field.name ∉ names → fits field tree → Listed fields fits members names →
      Listed fields fits ((.ok field.name, tree) :: members) (field.name :: names)
  | other {name : String} {tree : Tree} {members : List (Except Problem String × Tree)}
      {names : List String} :
    name ∉ fields.map (·.name) → tree.skip = .ok () → Listed fields fits members names →
      Listed fields fits ((.ok name, tree) :: members) names

theorem find?_name (distinct : (fields.map (·.name)).Nodup) {field : RecordField σ}
    (member : field ∈ fields) : fields.find? (·.name = field.name) = some field := by
  have some : (fields.find? (·.name = field.name)).isSome := by
    rw [List.find?_isSome]
    exact ⟨field, member, by simp⟩
  obtain ⟨found, search⟩ := Option.isSome_iff_exists.mp some
  have named : found.name = field.name := by simpa using List.find?_some search
  rw [search, List.inj_on_of_nodup_map distinct (List.mem_of_find?_eq_some search) member named]

theorem find?_other {name : String} (unknown : name ∉ fields.map (·.name)) :
    fields.find? (·.name = name) = none := by
  rw [List.find?_eq_none]
  intro field member
  simp only [decide_eq_true_eq]
  rintro rfl
  exact unknown (List.mem_map_of_mem member)

/-- Members are read one by one: each known one takes its part over, the others change nothing. -/
theorem readFields_listed {fits : RecordField σ → Tree → Prop} (mixed : List String → σ)
    (distinct : (fields.map (·.name)).Nodup)
    (step : ∀ field ∈ fields, ∀ tree seen, fits field tree →
      field.read tree (mixed seen) = .ok (mixed (field.name :: seen)))
    {members : List (Except Problem String × Tree)} (listed : Listed fields fits members names)
    {seen : List String} (fresh : ∀ name ∈ names, name ∉ seen) :
    readFields fields none seen members (mixed seen) = .ok (mixed (names.reverse ++ seen)) := by
  induction listed generalizing seen with
  | nil => rfl
  | @part field tree members names member once fit _ ih =>
    have unseen : seen.contains field.name = false := by
      simpa using fresh field.name (by simp)
    have later : ∀ name ∈ names, name ∉ field.name :: seen := by
      intro name given
      simp only [List.mem_cons, not_or]
      exact ⟨fun same => once (same ▸ given), fresh name (List.mem_cons_of_mem _ given)⟩
    rw [readFields]
    simp only [bind, Except.bind, find?_name distinct member, unseen,
      step field member tree seen fit, ih later, List.reverse_cons,
      List.append_assoc, List.cons_append, List.nil_append]
    rfl
  | @other name tree members names unknown skipped _ ih =>
    rw [readFields]
    simp only [bind, Except.bind, find?_other unknown, skipped, ih fresh]

theorem readRecord_listed {fits : RecordField σ → Tree → Prop} (mixed : List String → σ)
    (distinct : (fields.map (·.name)).Nodup)
    (same : ∀ names others, (∀ name, name ∈ names ↔ name ∈ others) → mixed names = mixed others)
    (step : ∀ field ∈ fields, ∀ tree seen, fits field tree →
      field.read tree (mixed seen) = .ok (mixed (field.name :: seen)))
    {members : List (Except Problem String × Tree)} (listed : Listed fields fits members names) :
    readRecord fields (mixed []) (.object members none) = .ok (mixed names) := by
  -- The names were seen last to first; which of them were seen is all that counts.
  rw [readRecord, readFields_listed mixed distinct step listed (by simp), List.append_nil,
    same names.reverse names fun name => List.mem_reverse]

/-- Any of the parts, written in any order, are listed. -/
theorem listed_memberTrees {fits : RecordField σ → Tree → Prop} (record : σ)
    (fit : ∀ field ∈ fields, fits field (field.write record).toTree)
    {chosen : List (RecordField σ)} (part : ∀ field ∈ chosen, field ∈ fields)
    (distinct : (chosen.map (·.name)).Nodup) :
    Listed fields fits
      (memberTrees (chosen.map fun field => (field.name, field.write record)))
      (chosen.map (·.name)) := by
  induction chosen with
  | nil =>
    rw [List.map_nil, memberTrees]
    exact .nil
  | cons field chosen ih =>
    rw [List.map_cons, List.nodup_cons] at distinct
    rw [List.map_cons, memberTrees]
    have member := part field (by simp)
    exact .part member distinct.1 (fit field member)
      (ih (fun field later => part field (List.mem_cons_of_mem _ later)) distinct.2)

theorem listed_writeRecord {fits : RecordField σ → Tree → Prop} (record : σ)
    (distinct : (fields.map (·.name)).Nodup)
    (fit : ∀ field ∈ fields, fits field (field.write record).toTree) :
    ∃ members, (writeRecord fields record).toTree = .object members none ∧
      Listed fields fits members (fields.map (·.name)) :=
  ⟨_, by rw [writeRecord, toTree], listed_memberTrees record fit (fun _ member => member) distinct⟩

end SpriteStage.Json
