import LuaBindings.Proofs.Catalog.Loading
import LuaBindings.Proofs.Json.Screening
/-!
# Defective records

A record that lacks a field, repeats one or gives one a value of the wrong kind is refused, and the
whole document with it: wherever the record stands, whatever stands around it, and even if a later
entry under the same key would take its place.
-/

namespace LuaBindings.Catalog

open Json

/-! ## What can be wrong with a record -/

/-- What can be wrong with the members of a parameter. -/
inductive ParameterDefect (members : List (List Char × List Char)) : Prop
  | lacks {name : String} (required : name ∈ ["type", "name"]) (lacks : Lacks name members)
  | notText {name : String} {v : List Char} (known : name ∈ ["type", "name"])
      (given : Gives name v members) (kind : ¬StringToken v)
  | repeated {name : String} (known : name ∈ ["type", "name"]) (twice : ¬AtMostOne name members)

/-- What can be wrong with the members of a function. -/
inductive FunctionDefect (members : List (List Char × List Char)) : Prop
  | lacks {name : String} (required : name ∈ ["name", "params", "return_type"])
      (lacks : Lacks name members)
  | notText {name : String} {v : List Char} (known : name ∈ ["name", "comment", "return_type"])
      (given : Gives name v members) (kind : ¬StringToken v)
  | notArray {v : List Char} (given : Gives "params" v members) (kind : ∀ items, ¬ArrayOf items v)
  /-- A value that may be left open is neither `null` nor a string. -/
  | notOptional {name : String} {v : List Char} (known : name ∈ ["jhash", "build"])
      (given : Gives name v members) (notNull : v ≠ ['n', 'u', 'l', 'l']) (kind : ¬StringToken v)
  | repeated {name : String} (known : name ∈ functionKeys) (twice : ¬AtMostOne name members)
  /-- One of the parameters is an object that has a defect of its own. -/
  | parameter {v item : List Char} {items : List (List Char)}
      {members' : List (List Char × List Char)} (given : Gives "params" v members)
      (array : ArrayOf items v) (member : item ∈ items) (object : ObjectOf members' item)
      (defect : ParameterDefect members') : FunctionDefect members

/-- A document in which some namespace has a function with a defect. -/
inductive Defective (text : List Char) : Prop
  | intro {before body after : List Char} {namespaces functions fields : List (List Char × List Char)}
      {ns function : List Char × List Char} (hb : Blank before) (ha : Blank after)
      (split : text = before ++ body ++ after) (document : ObjectOf namespaces body)
      (isNamespace : ns ∈ namespaces) (inside : ObjectOf functions ns.2)
      (isFunction : function ∈ functions) (object : ObjectOf fields function.2)
      (defect : FunctionDefect fields) : Defective text

/-! ## What is taken for a record -/

/-- Members that a parameter may have. -/
def ParameterConforms (members : List (List Char × List Char)) : Prop :=
  Conforms ["type", "name"] ["type", "name"] (fun _ => StringToken) members

/-- The values that may stand under the names of the fields of a function. -/
def FunctionFits (name : String) (v : List Char) : Prop :=
  if name = "params" then
    (∃ items, ArrayOf items v) ∧ ∀ items, ArrayOf items v → ∀ item ∈ items,
      ∀ members, ObjectOf members item → ParameterConforms members
  else if name ∈ ["jhash", "build"] then v = ['n', 'u', 'l', 'l'] ∨ StringToken v
  else StringToken v

/-- Members that a function may have. -/
def FunctionConforms (members : List (List Char × List Char)) : Prop :=
  Conforms ["name", "params", "return_type"] functionKeys FunctionFits members

theorem lawful_parameterFormat :
    Lawful parameterFormat ["type", "name"] fun _ => StringToken where
  blank := by simp [parameterFormat]
  screens := by
    simp only [parameterFormat, List.forall_mem_cons]
    exact ⟨fun _ _ value => (screens_string value).map _, fun _ _ value => (screens_string value).map _,
      List.forall_mem_nil _⟩
  fills field member draft s draft' r read other isField := by
    simp only [parameterFormat, List.mem_cons, List.not_mem_nil, or_false] at member isField
    rcases member with rfl | rfl <;> obtain ⟨t, -, rfl⟩ := read_map_eq_ok.mp read <;>
      rcases isField with rfl | rfl <;> simp
  finish draft a finished := by
    obtain ⟨type, name⟩ := draft
    cases type with
    | none => cases finished
    | some type =>
        cases name with
        | none => cases finished
        | some name => simp [parameterFormat]

/-- The parameters of a function are taken one by one. -/
theorem screens_parameters {v : List Char} (value : WellFormed v) :
    Screens (sequence parameterFormat.reader) v (FunctionFits "params" v) :=
  screens_sequence value fun _ isValue => screens_record lawful_parameterFormat isValue

theorem lawful_functionFormat :
    Lawful functionFormat ["name", "params", "return_type"] FunctionFits where
  blank := by simp [functionFormat]
  screens := by
    simp only [functionFormat, List.forall_mem_cons]
    exact ⟨fun _ _ value => (screens_string value).map _,
      fun _ _ value => (screens_string value).map _,
      fun _ _ value => (screens_parameters value).map _,
      fun _ _ value => (screens_string value).map _,
      fun _ _ value => (screens_optionalString value).map _,
      fun _ _ value => (screens_optionalString value).map _, List.forall_mem_nil _⟩
  fills field member draft s draft' r read other isField := by
    simp only [functionFormat, List.mem_cons, List.not_mem_nil, or_false] at member isField
    rcases member with rfl | rfl | rfl | rfl | rfl | rfl <;>
      obtain ⟨t, -, rfl⟩ := read_map_eq_ok.mp read <;>
      rcases isField with rfl | rfl | rfl | rfl | rfl | rfl <;> simp
  finish draft a finished := by
    obtain ⟨name, comment, parameters, returnType, jhash, build⟩ := draft
    cases name with
    | none => cases finished
    | some name =>
        cases parameters with
        | none => cases finished
        | some parameters =>
            cases returnType with
            | none => cases finished
            | some returnType => simp [functionFormat]

/-! ## Refusal -/

theorem ParameterDefect.not_conforms {members : List (List Char × List Char)}
    (defect : ParameterDefect members) : ¬ParameterConforms members := by
  intro conforms
  cases defect with
  | lacks required lacks => exact conforms.complete _ required lacks
  | notText known given kind => exact kind (conforms.fitting _ known _ given)
  | repeated known twice => exact twice (conforms.single _ known)

theorem FunctionDefect.not_conforms {members : List (List Char × List Char)}
    (defect : FunctionDefect members) : ¬FunctionConforms members := by
  intro conforms
  have taken : ∀ {v : List Char}, Gives "params" v members → FunctionFits "params" v :=
    conforms.fitting _ (by decide) _
  cases defect with
  | lacks required lacks => exact conforms.complete _ required lacks
  | notText known given kind =>
      simp only [List.mem_cons, List.not_mem_nil, or_false] at known
      rcases known with rfl | rfl | rfl <;> exact kind (conforms.fitting _ (by decide) _ given)
  | notArray given kind =>
      obtain ⟨items, array⟩ := (taken given).1
      exact kind items array
  | notOptional known given notNull kind =>
      simp only [List.mem_cons, List.not_mem_nil, or_false] at known
      rcases known with rfl | rfl <;>
        exact (conforms.fitting _ (by decide) _ given).elim notNull kind
  | repeated known twice => exact twice (conforms.single _ known)
  | parameter given array member object defect =>
      exact defect.not_conforms ((taken given).2 _ array _ member _ object)

/-- Each function of each namespace of a document has been taken. -/
theorem screens_document {v : List Char} (value : WellFormed v) :
    Screens documentReader v (∀ namespaces, ObjectOf namespaces v → ∀ ns ∈ namespaces,
      ∀ functions, ObjectOf functions ns.2 → ∀ function ∈ functions,
        ∀ fields, ObjectOf fields function.2 → FunctionConforms fields) := by
  have functions : ∀ x, WellFormed x → Screens ((entries functionFormat.reader).map OrderedMap.ofList)
      x (∀ functions, ObjectOf functions x → ∀ function ∈ functions,
        ∀ fields, ObjectOf fields function.2 → FunctionConforms fields) := by
    intro x isValue
    exact (screens_entries isValue fun _ isRecord =>
      screens_record lawful_functionFormat isRecord).map _
  exact (screens_entries value functions).map _

/-- A document with a defect anywhere is refused for its shape. -/
theorem load_defective {text : String} (defective : Defective text.toList) :
    ∃ cause position, load text = .error (.document cause position) := by
  obtain ⟨hb, ha, split, document, isNamespace, inside, isFunction, object, defect⟩ := defective
  rw [load]
  cases read : Document.read text.toList with
  | error failure => exact ⟨_, _, rfl⟩
  | ok loaded =>
      rw [Document.read, split] at read
      have conform := (screens_document document.wellFormed).document hb ha read
      exact absurd (conform _ document _ isNamespace _ inside _ isFunction _ object)
        defect.not_conforms

/-- A namespace whose only function has no type to return, and another of its name. -/
def overwrittenText : String :=
  "\x7b\"N\":\x7b\"0x1\":\x7b\"name\":\"F\",\"params\":[]\x7d\x7d,\"N\":\x7b\x7d\x7d"

theorem overwrittenText_defective : Defective overwrittenText.toList := by
  -- From the function outwards.
  have name : StringText "F" _ := stringText_plain (by simp)
  have fields : ∀ m ∈ [("name", _), ("params", _)], WellFormed m.2 :=
    List.forall_mem_cons.mpr ⟨.string name.token,
      List.forall_mem_singleton.mpr (.array (List.forall_mem_nil _) (.empty .nil))⟩
  obtain ⟨_, spelled, function⟩ := (objectText_compact (by simp)).objectOf fields
  have functions : ∀ m ∈ [("0x1", _)], WellFormed m.2 :=
    List.forall_mem_singleton.mpr function.wellFormed
  obtain ⟨_, inside, ns⟩ := (objectText_compact (by simp)).objectOf functions
  obtain ⟨_, -, another⟩ :=
    (objectText_compact (List.forall_mem_nil _)).objectOf (List.forall_mem_nil _)
  have namespaces : ∀ m ∈ [("N", _), ("N", _)], WellFormed m.2 :=
    List.forall_mem_cons.mpr ⟨ns.wellFormed, List.forall_mem_singleton.mpr another.wellFormed⟩
  obtain ⟨_, around, document⟩ := (objectText_compact (by simp)).objectOf namespaces
  obtain ⟨_, isNamespace, -, same⟩ := around.gives List.mem_cons_self
  obtain ⟨_, isFunction, -, same'⟩ := inside.gives List.mem_cons_self
  have defect : FunctionDefect _ :=
    .lacks (show "return_type" ∈ _ by decide) (spelled.lacks (by decide))
  refine .intro .nil .nil ?_ document isNamespace ?_ isFunction ?_ defect
  · decide +kernel
  · rw [same]
    exact ns
  · rw [same']
    exact function

theorem load_overwrittenText : Defective overwrittenText.toList ∧
    ∃ cause position, load overwrittenText = .error (.document cause position) :=
  ⟨overwrittenText_defective, load_defective overwrittenText_defective⟩

end LuaBindings.Catalog
