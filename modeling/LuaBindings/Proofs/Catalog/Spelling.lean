import LuaBindings.Proofs.Catalog.Outline
import LuaBindings.Proofs.Json.Reading
/-!
# Spellings of a catalog

The JSON texts that stand for an outline. Blanks, escapes, the order of the fields of an object and
fields of other names are free; the order of the namespaces, of the functions and of the parameters
is not. A comment, a second hash and a build may be left out where there is none.
-/

namespace LuaBindings.Catalog

open Json

variable {σ α : Type}

/-! ## Objects with known fields -/

/-- An object with the given keys. A known key stands at most once and holds what its field may
hold; any other key stands as often as it likes and holds any value. -/
inductive FieldsText (known : List String) (field : String → List Char → Prop) :
    List String → List Char → Prop
  | intro {members : List (String × List Char)} {s : List Char} (text : ObjectText members s)
      (fields : ∀ m ∈ members, m.1 ∈ known → field m.1 m.2)
      (others : ∀ m ∈ members, m.1 ∉ known → WellFormed m.2)
      (once : ∀ key ∈ known, (members.map Prod.fst).count key ≤ 1) :
      FieldsText known field (members.map Prod.fst) s

/-- An object with one member for each entry, in their order. -/
inductive MapText (value : α → List Char → Prop) (entries : List (String × α)) : List Char → Prop
  | intro {members : List (String × List Char)} {s : List Char} (text : ObjectText members s)
      (values : List.Forall₂ (fun m entry => m.1 = entry.1 ∧ value entry.2 m.2) members entries) :
      MapText value entries s

/-! ## The parts of a catalog -/

/-- What the known fields of a parameter may hold. -/
inductive ParameterField (p : Parameter) : String → List Char → Prop
  | type {s : List Char} (h : StringText p.type s) : ParameterField p "type" s
  | name {s : List Char} (h : StringText p.name s) : ParameterField p "name" s

/-- The spellings of a parameter. -/
def ParameterText (p : Parameter) (s : List Char) : Prop :=
  ∃ keys, FieldsText ["type", "name"] (ParameterField p) keys s ∧ "type" ∈ keys ∧ "name" ∈ keys

/-- What the known fields of a function may hold. -/
inductive FunctionField (f : FunctionRecord) : String → List Char → Prop
  | name {s : List Char} (h : StringText f.name s) : FunctionField f "name" s
  | comment {s : List Char} (h : StringText f.comment s) : FunctionField f "comment" s
  | params {items : List (List Char)} {s : List Char} (text : ArrayText items s)
      (h : List.Forall₂ (fun item p => ParameterText p item) items f.parameters) :
      FunctionField f "params" s
  | returnType {s : List Char} (h : StringText f.returnType s) : FunctionField f "return_type" s
  | jhash {t : String} {s : List Char} (some : f.jhash = some t) (h : StringText t s) :
      FunctionField f "jhash" s
  | noJhash (none : f.jhash = none) : FunctionField f "jhash" ['n', 'u', 'l', 'l']
  | build {t : String} {s : List Char} (some : f.build = some t) (h : StringText t s) :
      FunctionField f "build" s
  | noBuild (none : f.build = none) : FunctionField f "build" ['n', 'u', 'l', 'l']

/-- The names of the fields of a function. -/
def functionKeys : List String := ["name", "comment", "params", "return_type", "jhash", "build"]

/-- The spellings of a function. -/
def FunctionText (f : FunctionRecord) (s : List Char) : Prop :=
  ∃ keys, FieldsText functionKeys (FunctionField f) keys s ∧
    "name" ∈ keys ∧ "params" ∈ keys ∧ "return_type" ∈ keys ∧
    ("comment" ∉ keys → f.comment = "") ∧ ("jhash" ∉ keys → f.jhash = none) ∧
    ("build" ∉ keys → f.build = none)

/-- The texts that stand for an outline. -/
inductive Outline.Text (outline : Outline) : List Char → Prop
  | intro {before body after : List Char} (hb : Blank before) (ha : Blank after)
      (h : MapText (MapText FunctionText) outline body) :
      Outline.Text outline (before ++ body ++ after)

/-! ## Reading them -/

/-- The members of an object fill the draft of a record whose fields they are. What has been filled
depends only on the keys that came before, in any order. -/
theorem readsMembers_fields {format : RecordFormat σ α} {known : List String}
    {field : String → List Char → Prop} (draftOf : List String → σ)
    (fills : ∀ {keys key v}, key ∈ known → key ∉ keys → field key v →
      ReadsMember format.member key v (draftOf keys) (draftOf (key :: keys)))
    (leaves : ∀ keys {key}, key ∉ known →
      draftOf (key :: keys) = draftOf keys ∧ format.fields.find? (·.name = key) = none)
    {members : List (String × List Char)} (fields : ∀ m ∈ members, m.1 ∈ known → field m.1 m.2)
    (others : ∀ m ∈ members, m.1 ∉ known → WellFormed m.2) {keys : List String}
    (once : ∀ key ∈ known, keys.count key + (members.map Prod.fst).count key ≤ 1) :
    ReadsMembers format.member members (draftOf keys)
      (draftOf ((members.map Prod.fst).reverse ++ keys)) := by
  induction members generalizing keys with
  | nil => exact .nil _
  | cons m rest ih =>
      obtain ⟨key, v⟩ := m
      have onceLater : ∀ k ∈ known, (key :: keys).count k + (rest.map Prod.fst).count k ≤ 1 := by
        intro k isKnown
        have bound := once k isKnown
        rw [List.map_cons, List.count_cons] at bound
        rw [List.count_cons]
        dsimp only at bound
        omega
      have later := ih (fun m member => fields m (List.mem_cons_of_mem _ member))
        (fun m member => others m (List.mem_cons_of_mem _ member)) onceLater
      have step : ReadsMember format.member key v (draftOf keys) (draftOf (key :: keys)) := by
        by_cases isKnown : key ∈ known
        · refine fills isKnown ?_ (fields (key, v) (by simp) isKnown)
          intro before
          have bound := once key isKnown
          have twice := List.count_pos_iff.mpr before
          rw [List.map_cons, List.count_cons_self] at bound
          omega
        · obtain ⟨same, unknown⟩ := leaves keys isKnown
          rw [same]
          exact readsMember_unknown _ unknown (others (key, v) (by simp) isKnown)
      rw [List.map_cons, List.reverse_cons, List.append_assoc]
      exact .cons step later

/-- The draft of a parameter after some fields. -/
def parameterDraft (p : Parameter) (keys : List String) : ParameterDraft where
  type := if "type" ∈ keys then some p.type else none
  name := if "name" ∈ keys then some p.name else none

theorem parameterField_fills {p : Parameter} {key : String} {v : List Char} {keys : List String}
    (absent : key ∉ keys) (held : ParameterField p key v) :
    ReadsMember parameterFormat.member key v (parameterDraft p keys)
      (parameterDraft p (key :: keys)) := by
  cases held with
  | type h =>
      exact readsMember_field rfl (by simp [parameterDraft, absent]) rfl (reads_string h)
        (by simp [parameterDraft])
  | name h =>
      exact readsMember_field rfl (by simp [parameterDraft, absent]) rfl (reads_string h)
        (by simp [parameterDraft])

/-- A key that no field has leaves every look-up for a field as it is. -/
theorem find?_field_eq_none {fields : List (Json.Field σ)} {key : String}
    (unknown : key ∉ fields.map (·.name)) : fields.find? (·.name = key) = none := by
  rw [List.find?_eq_none]
  intro field member same
  exact unknown (List.mem_map.mpr ⟨field, member, of_decide_eq_true same⟩)

theorem reads_parameter {p : Parameter} {s : List Char} (h : ParameterText p s) :
    Reads parameterFormat.reader s p := by
  obtain ⟨_, @⟨members, _, text, fields, others, once⟩, type, name⟩ := h
  have leaves : ∀ (keys : List String) {key : String}, key ∉ ["type", "name"] →
      parameterDraft p (key :: keys) = parameterDraft p keys ∧
        parameterFormat.fields.find? (·.name = key) = none := by
    intro keys key unknown
    refine ⟨?_, find?_field_eq_none unknown⟩
    simp only [List.mem_cons, not_or] at unknown
    simp [parameterDraft, Ne.symm unknown.1, Ne.symm unknown.2.1]
  have read : ReadsMembers parameterFormat.member members (parameterDraft p [])
      (parameterDraft p ((members.map Prod.fst).reverse ++ [])) :=
    readsMembers_fields (parameterDraft p)
      (fun _ absent held => parameterField_fills absent held) leaves fields others
      (by simpa using once)
  refine reads_record text read ?_
  simp only [List.append_nil, parameterFormat, parameterDraft, List.mem_reverse, type, name,
    if_true]
  rfl

/-- The draft of a function after some fields. -/
def functionDraft (f : FunctionRecord) (keys : List String) : FunctionDraft where
  name := if "name" ∈ keys then some f.name else none
  comment := if "comment" ∈ keys then some f.comment else none
  parameters := if "params" ∈ keys then some f.parameters else none
  returnType := if "return_type" ∈ keys then some f.returnType else none
  jhash := if "jhash" ∈ keys then some f.jhash else none
  build := if "build" ∈ keys then some f.build else none

theorem reads_parameters {ps : List Parameter} {items : List (List Char)} {s : List Char}
    (text : ArrayText items s) (h : List.Forall₂ (fun item p => ParameterText p item) items ps) :
    Reads (sequence parameterFormat.reader) s ps :=
  reads_sequence text (h.imp fun _ _ => reads_parameter)

theorem functionField_fills {f : FunctionRecord} {key : String} {v : List Char}
    {keys : List String} (absent : key ∉ keys) (held : FunctionField f key v) :
    ReadsMember functionFormat.member key v (functionDraft f keys)
      (functionDraft f (key :: keys)) := by
  cases held with
  | name h =>
      exact readsMember_field rfl (by simp [functionDraft, absent]) rfl (reads_string h)
        (by simp [functionDraft])
  | comment h =>
      exact readsMember_field rfl (by simp [functionDraft, absent]) rfl (reads_string h)
        (by simp [functionDraft])
  | params text h =>
      exact readsMember_field rfl (by simp [functionDraft, absent]) rfl (reads_parameters text h)
        (by simp [functionDraft])
  | returnType h =>
      exact readsMember_field rfl (by simp [functionDraft, absent]) rfl (reads_string h)
        (by simp [functionDraft])
  | jhash some h =>
      exact readsMember_field rfl (by simp [functionDraft, absent]) rfl (reads_some h)
        (by simp [functionDraft, some])
  | noJhash none =>
      exact readsMember_field rfl (by simp [functionDraft, absent]) rfl reads_null
        (by simp [functionDraft, none])
  | build some h =>
      exact readsMember_field rfl (by simp [functionDraft, absent]) rfl (reads_some h)
        (by simp [functionDraft, some])
  | noBuild none =>
      exact readsMember_field rfl (by simp [functionDraft, absent]) rfl reads_null
        (by simp [functionDraft, none])

theorem reads_function {f : FunctionRecord} {s : List Char} (h : FunctionText f s) :
    Reads functionFormat.reader s f := by
  obtain ⟨_, @⟨members, _, text, fields, others, once⟩, name, params, returnType, comment, jhash,
    build⟩ := h
  have leaves : ∀ (keys : List String) {key : String}, key ∉ functionKeys →
      functionDraft f (key :: keys) = functionDraft f keys ∧
        functionFormat.fields.find? (·.name = key) = none := by
    intro keys key unknown
    refine ⟨?_, find?_field_eq_none unknown⟩
    simp only [functionKeys, List.mem_cons, not_or] at unknown
    obtain ⟨h₁, h₂, h₃, h₄, h₅, h₆, -⟩ := unknown
    simp [functionDraft, Ne.symm h₁, Ne.symm h₂, Ne.symm h₃, Ne.symm h₄, Ne.symm h₅,
      Ne.symm h₆]
  have read : ReadsMembers functionFormat.member members (functionDraft f [])
      (functionDraft f ((members.map Prod.fst).reverse ++ [])) :=
    readsMembers_fields (functionDraft f)
      (fun _ absent held => functionField_fills absent held) leaves fields others
      (by simpa using once)
  refine reads_record text read ?_
  simp only [List.append_nil, functionFormat, functionDraft, List.mem_reverse, name, params,
    returnType, if_true]
  -- A field that may be omitted has its default where it is.
  have filled : ∀ {β : Type} {key : String} {keys : List String} {b d : β}, (key ∉ keys → b = d) →
      (if key ∈ keys then some b else none).getD d = b := by
    intro β key keys b d omitted
    split
    · rfl
    · rename_i absent
      exact (omitted absent).symm
  rw [filled comment, filled jhash, filled build]
  rfl

/-! ## Documents -/

theorem upsert_of_notMem {key : String} {value : α} {entries : List (String × α)}
    (absent : key ∉ entries.map Prod.fst) :
    upsert key value entries = entries ++ [(key, value)] := by
  induction entries with
  | nil => rfl
  | cons entry rest ih =>
      rw [List.map_cons, List.mem_cons, not_or] at absent
      rw [upsert, if_neg (Ne.symm absent.1), ih absent.2]
      rfl

/-- Entries under distinct keys are a map as they are. -/
theorem entries_ofList {entries : List (String × α)} (distinct : (entries.map Prod.fst).Nodup) :
    (OrderedMap.ofList entries).entries = entries := by
  -- Over the entries still to come, for any map that they are added to.
  have inserted : ∀ (map : OrderedMap α) (added : List (String × α)),
      ((map.entries ++ added).map Prod.fst).Nodup →
      (added.foldl (fun map entry => map.insert entry.1 entry.2) map).entries =
        map.entries ++ added := by
    intro map added
    induction added generalizing map with
    | nil =>
        intro _
        rw [List.append_nil]
        rfl
    | cons entry rest ih =>
        intro distinct
        have absent : entry.1 ∉ map.entries.map Prod.fst := by
          rw [List.map_append, List.nodup_append] at distinct
          intro member
          exact distinct.2.2 _ member _ (by simp) rfl
        have made : (map.insert entry.1 entry.2).entries = map.entries ++ [entry] := by
          rw [OrderedMap.entries_insert, upsert_of_notMem absent]
        rw [List.foldl_cons, ih, made]
        · simp
        · rw [made]
          simpa using distinct
  exact inserted .empty entries distinct

/-- The document that is made of an outline: what stands under a repeated key is merged. -/
def Outline.merged (outline : Outline) : Document :=
  .ofList (outline.map fun ns => (ns.1, .ofList ns.2))

/-- Without repeated keys there is nothing to merge. -/
theorem Outline.merged_outline {outline : Outline} (names : (outline.map Prod.fst).Nodup)
    (hashes : ∀ ns ∈ outline, (ns.2.map Prod.fst).Nodup) : outline.merged.outline = outline := by
  have distinct : ((outline.map fun ns => (ns.1, OrderedMap.ofList ns.2)).map Prod.fst).Nodup := by
    simpa [Function.comp_def] using names
  rw [Document.outline, Outline.merged, entries_ofList distinct, List.map_map]
  conv_rhs => rw [← List.map_id outline]
  refine List.map_congr_left fun ns member => ?_
  exact Prod.ext rfl (entries_ofList (hashes ns member))

/-- A text that stands for an outline with distinct keys holds a document with that outline. -/
theorem read_spelling {outline : Outline} {text : List Char} (spelled : outline.Text text)
    (names : (outline.map Prod.fst).Nodup)
    (hashes : ∀ ns ∈ outline, (ns.2.map Prod.fst).Nodup) :
    ∃ document, Document.read text = .ok document ∧ document.outline = outline := by
  obtain ⟨hb, ha, @⟨members, _, text, values⟩⟩ := spelled
  have namespaces : ∀ {ns : List (String × FunctionRecord)} {s : List Char},
      MapText FunctionText ns s →
      Reads ((Json.entries functionFormat.reader).map OrderedMap.ofList) s (.ofList ns) := by
    rintro ns s ⟨text, values⟩
    exact (reads_entries text (values.imp fun _ _ h => ⟨h.1, reads_function h.2⟩)).map _
  have entries : List.Forall₂ (fun (m : String × List Char) entry => m.1 = entry.1 ∧
      Reads ((Json.entries functionFormat.reader).map OrderedMap.ofList) m.2 entry.2)
      members (outline.map fun ns => (ns.1, OrderedMap.ofList ns.2)) :=
    List.forall₂_map_right_iff.mpr (values.imp fun _ _ h => ⟨h.1, namespaces h.2⟩)
  exact ⟨outline.merged, readDocument_reads ((reads_entries text entries).map _) hb ha,
    Outline.merged_outline names hashes⟩

end LuaBindings.Catalog
