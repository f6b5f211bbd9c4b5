import LuaBindings.Proofs.Catalog.Spelling
/-!
# What loading yields

Loading undoes every spelling of a valid outline, and whatever it accepts has a valid outline. In
both cases the places of the functions count from zero in the order of the catalog, so that no two
functions of a catalog share a place, if there are not more of them than places.
-/

namespace LuaBindings.Catalog

open Json

/-! ## Catalogs from outlines -/

/-- The functions of a namespace, placed from `first` on. -/
def placed (first : Nat) : List (String × FunctionRecord) → List NativeFunction
  | [] => []
  | (hash, record) :: rest =>
      { name := record.name, hash, sequenceId := .ofNat first, returnType := record.returnType
        parameters := record.parameters, comment := record.comment
        jhash := record.jhash, build := record.build } :: placed (first + 1) rest

theorem placed_outline (first : Nat) (entries : List (String × FunctionRecord)) :
    (placed first entries).map (fun f => (f.hash, recordOf f)) = entries := by
  induction entries generalizing first with
  | nil => rfl
  | cons entry rest ih =>
      rw [placed, List.map_cons, ih]
      rfl

theorem length_placed (first : Nat) (entries : List (String × FunctionRecord)) :
    (placed first entries).length = entries.length := by
  have lengths := congrArg List.length (placed_outline first entries)
  rwa [List.length_map] at lengths

theorem placed_ids (first : Nat) (entries : List (String × FunctionRecord)) :
    (placed first entries).map (·.sequenceId) = words first entries.length := by
  induction entries generalizing first with
  | nil => rfl
  | cons entry rest ih => rw [placed, List.map_cons, ih, List.length_cons, words_succ]

/-- The namespaces of an outline, with the places from `first` on. -/
def Outline.namespacesFrom (first : Nat) : Outline → List Namespace
  | [] => []
  | (name, entries) :: rest =>
      ⟨name, placed first entries⟩ :: namespacesFrom (first + entries.length) rest

/-- The catalog of an outline. Its places count from zero. -/
def Outline.catalog (o : Outline) : Catalog := ⟨o.namespacesFrom 0⟩

theorem outline_namespacesFrom (o : Outline) (first : Nat) :
    outline ⟨o.namespacesFrom first⟩ = o := by
  induction o generalizing first with
  | nil => rfl
  | cons ns rest ih =>
      rw [Outline.namespacesFrom, outline_cons, placed_outline, ih]

theorem ids_namespacesFrom (o : Outline) (first : Nat) :
    ids ⟨o.namespacesFrom first⟩ = words first o.functionCount := by
  induction o generalizing first with
  | nil => rfl
  | cons ns rest ih =>
      rw [Outline.namespacesFrom, ids_cons, placed_ids, ih, Outline.functionCount_cons,
        words_append]

theorem outline_catalog (o : Outline) : outline o.catalog = o := outline_namespacesFrom o 0

theorem functionCount_catalog (o : Outline) : o.catalog.functionCount = o.functionCount := by
  rw [← outline_functionCount, outline_catalog]

theorem ids_catalog (o : Outline) : ids o.catalog = words 0 o.catalog.functionCount := by
  rw [functionCount_catalog]
  exact ids_namespacesFrom o 0

theorem places_catalog {o : Outline} (few : o.functionCount < UInt32.size) :
    places o.catalog = List.range o.functionCount := by
  rw [places, ids_catalog, functionCount_catalog, toNat_words few]

/-! ## Loading a spelling -/

/-- Every text that stands for a valid outline is loaded as the catalog of that outline. -/
theorem load_spelling {o : Outline} {text : String} (valid : o.Valid)
    (few : o.functionCount < UInt32.size) (spelled : o.Text text.toList) :
    load text = .ok o.catalog ∧ outline o.catalog = o ∧
      places o.catalog = List.range o.functionCount ∧
      ∀ id ∈ places o.catalog, id < UInt32.size := by
  obtain ⟨document, read, same⟩ := read_spelling spelled valid.names valid.hashes
  refine ⟨?_, outline_catalog o, places_catalog few, places_lt o.catalog⟩
  refine load_eq_ok_iff.mpr ⟨document, read, ?_, ?_, ids_catalog o⟩
  · rw [same]
    exact valid
  · rw [outline_catalog, same]

/-- A member without blanks and escapes. -/
def compactMember (m : String × List Char) : List Char :=
  '"' :: (m.1.toList ++ ['"']) ++ ':' :: m.2

/-- An object without blanks and escapes. -/
def compactObject (members : List (String × List Char)) : List Char :=
  '\x7b' :: ([','].intercalate (members.map compactMember) ++ ['\x7d'])

/-- A string of plain characters spells itself. -/
theorem stringText_plain {t : String}
    (plain : ∀ c ∈ t.toList, c ≠ '"' ∧ c ≠ '\\' ∧ 0x20 ≤ c.toNat) :
    StringText t ('"' :: (t.toList ++ ['"'])) := by
  have spelled : List.Forall₂ CharText t.toList (t.toList.map fun c => [c]) := by
    rw [List.forall₂_map_right_iff, List.forall₂_same]
    intro c member
    obtain ⟨notQuote, notBackslash, notControl⟩ := plain c member
    exact .plain notQuote notBackslash notControl
  have whole : (t.toList.map fun c => [c]).flatten = t.toList := by
    induction t.toList with
    | nil => rfl
    | cons c rest ih => rw [List.map_cons, List.flatten_cons, ih, List.singleton_append]
  rw [← whole]
  exact .intro spelled

theorem listed_intercalate (part : List Char) (parts : List (List Char)) :
    Listed (part :: parts) ([','].intercalate (part :: parts)) := by
  induction parts generalizing part with
  | nil =>
      have alone : Listed [part] ([] ++ part ++ []) := .one .nil .nil
      simpa using alone
  | cons next others ih =>
      have further : Listed (part :: next :: others)
          ([] ++ part ++ ([] ++ ',' :: [','].intercalate (next :: others))) :=
        .more .nil .nil (ih next)
      rw [List.intercalate_cons_cons]
      simpa using further

theorem objectText_compact {members : List (String × List Char)}
    (plain : ∀ m ∈ members, ∀ c ∈ m.1.toList, c ≠ '"' ∧ c ≠ '\\' ∧ 0x20 ≤ c.toNat) :
    ObjectText members (compactObject members) := by
  have spelled : List.Forall₂
      (fun m part => ∃ key, StringText m.1 key ∧ MemberText key m.2 part)
      members (members.map compactMember) := by
    rw [List.forall₂_map_right_iff, List.forall₂_same]
    intro m member
    exact ⟨_, stringText_plain (plain m member), .intro .nil .nil⟩
  refine .intro spelled ?_
  cases members with
  | nil => exact .empty .nil
  | cons m rest => exact .parts (listed_intercalate _ _)

/-- One namespace without functions, and one with a function of one parameter. -/
def sampleOutline : Outline :=
  [("A", []), ("B", [("0x1", ⟨"F", "", [⟨"int", "a"⟩], "void", none, none⟩)])]

/-- A spelling of it with an escape, with fields out of order and with an unknown one. -/
def sampleText : String :=
  "\x7b\"A\":\x7b\x7d,\"B\":\x7b\"0x1\":\x7b\"x\":[1]," ++
    "\"params\":[\x7b\"name\":\"a\",\"type\":\"int\"\x7d]," ++
    "\"jhash\":null,\"return_type\":\"void\",\"name\":\"\\u0046\"\x7d\x7d\x7d "

theorem sampleOutline_valid : sampleOutline.Valid where
  names := by decide
  hashes := by decide
  separators := by decide +kernel
  filled := by
    intro ns member entry held
    simp only [sampleOutline, List.mem_cons, List.not_mem_nil, or_false] at member
    rcases member with rfl | rfl
    · cases held
    · cases List.mem_singleton.mp held
      exact ⟨by decide, by decide, by decide⟩

theorem sampleText_spells : sampleOutline.Text sampleText.toList := by
  -- From the parameter outwards.
  let object := compactObject [("name", "\"a\"".toList), ("type", "\"int\"".toList)]
  have parameter : ParameterText ⟨"int", "a"⟩ object := by
    refine ⟨_, .intro (objectText_compact (by simp)) ?_ (by simp) (by decide), by simp, by simp⟩
    simp only [List.forall_mem_cons]
    exact ⟨fun _ => .name (stringText_plain (by simp)), fun _ => .type (stringText_plain (by simp)),
      List.forall_mem_nil _⟩
  have parameters : ArrayText [object] ('[' :: (object ++ [']'])) := by
    have alone : Listed [object] object := by simpa using listed_intercalate object []
    exact .parts alone
  have name : StringText "F" ('"' :: ([['\\', 'u', '0', '0', '4', '6']].flatten ++ ['"'])) := by
    have code : UnitText 70 ['0', '0', '4', '6'] :=
      @UnitText.digits 0 0 4 6 _ _ _ _ (by decide) (by decide) (by decide) (by decide)
    exact .intro (.cons (.coded code) .nil)
  have unknown : WellFormed ['[', '1', ']'] := by
    have digit : NumberText ([] ++ (['1'] ++ ([] ++ []))) :=
      .intro (.inl rfl) (.digits (by decide) (by decide) (by simp)) .none .none
    exact .array (List.forall_mem_singleton.mpr (.number digit)) (.parts (.one .nil .nil))
  have function : FunctionText ⟨"F", "", [⟨"int", "a"⟩], "void", none, none⟩
      (compactObject [("x", "[1]".toList), ("params", '[' :: (object ++ [']'])),
        ("jhash", "null".toList), ("return_type", "\"void\"".toList),
        ("name", "\"\\u0046\"".toList)]) := by
    refine ⟨_, .intro (objectText_compact (by simp)) ?_ ?_ (by decide), by simp, by simp, by simp,
      fun _ => rfl, fun _ => rfl, fun _ => rfl⟩
    · simp only [List.forall_mem_cons]
      exact ⟨fun known => absurd known (by decide),
        fun _ => .params parameters (.cons parameter .nil), fun _ => .noJhash rfl,
        fun _ => .returnType (stringText_plain (by simp)), fun _ => .name name,
        List.forall_mem_nil _⟩
    · simpa [functionKeys] using unknown
  have functions : MapText FunctionText
      [("0x1", ⟨"F", "", [⟨"int", "a"⟩], "void", none, none⟩)] (compactObject [("0x1", _)]) :=
    .intro (objectText_compact (by simp)) (.cons ⟨rfl, function⟩ .nil)
  have noFunctions : MapText FunctionText [] (compactObject []) :=
    .intro (objectText_compact (by simp)) .nil
  have whole : sampleOutline.Text ([] ++ compactObject [("A", _), ("B", _)] ++ [' ']) :=
    .intro .nil (by simp [Blank])
      (.intro (objectText_compact (by simp))
        (.cons ⟨rfl, noFunctions⟩ (.cons ⟨rfl, functions⟩ .nil)))
  refine Eq.subst ?_ whole
  decide +kernel

theorem load_sampleText : sampleOutline.Valid ∧ sampleOutline.functionCount < UInt32.size ∧
    sampleOutline.Text sampleText.toList ∧ load sampleText = .ok sampleOutline.catalog :=
  ⟨sampleOutline_valid, by decide, sampleText_spells,
    (load_spelling sampleOutline_valid (by decide) sampleText_spells).1⟩

/-! ## What is loaded -/

/-- Whatever text a catalog is loaded from, its outline is valid and its places count from zero. -/
theorem load_valid {text : String} {catalog : Catalog} (loaded : load text = .ok catalog)
    (few : catalog.functionCount < UInt32.size) :
    (outline catalog).Valid ∧ places catalog = List.range catalog.functionCount ∧
      (places catalog).Pairwise (· < ·) ∧ ∀ id ∈ places catalog, id < UInt32.size := by
  have counted := places_eq_range loaded few
  refine ⟨outline_valid loaded, counted, ?_, places_lt catalog⟩
  rw [counted]
  exact List.pairwise_lt_range

/-- Two namespaces of one name, two functions under one hash, and records written as arrays. -/
def repeatedText : String :=
  "\x7b\"B\":\x7b\"1\":[\"F\",\"\",[],\"void\",null,null]\x7d,\"A\":\x7b\x7d,\"C\":" ++
    "\x7b\"1\":[\"H\",\"\",[],\"int\",\"\",null]\x7d,\"B\":" ++
    "\x7b\"2\":[\"F\",\"\",[],\"void\",null,null]," ++
    "\"3\":[\"G\",\"\",[[\"int\",\"a\"]],\"void\",null,null]," ++
    "\"2\":[\"K\",\"\",[],\"void\",null,null]\x7d\x7d"

/-- The outline of it. -/
def repeatedOutline : Outline :=
  [("B", [("2", ⟨"K", "", [], "void", none, none⟩),
      ("3", ⟨"G", "", [⟨"int", "a"⟩], "void", none, none⟩)]),
    ("A", []), ("C", [("1", ⟨"H", "", [], "int", some "", none⟩)])]

theorem load_repeatedText : load repeatedText = .ok repeatedOutline.catalog ∧
    repeatedOutline.catalog.functionCount < UInt32.size ∧
    places repeatedOutline.catalog = List.range 3 := by
  have loaded : load repeatedText = .ok repeatedOutline.catalog := by decide +kernel
  exact ⟨loaded, by decide, (load_valid loaded (by decide)).2.1⟩

end LuaBindings.Catalog
