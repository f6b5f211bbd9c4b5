import LuaBindings.Proofs.Catalog.Checks
import LuaBindings.Proofs.Catalog.Printing
import LuaBindings.Proofs.OrderedMap
/-!
# Repeated keys

A text in which a namespace or a function stands more than once is loaded like the one in which each
of them stands once: where it first stood, and as what it last was. A namespace is replaced whole,
and what has been replaced is neither numbered nor checked.
-/

namespace LuaBindings.Catalog

/-! ## What is kept -/

/-- An outline with each namespace once, and in it each function once. -/
def Outline.kept (o : Outline) : Outline := (survivors o).map fun ns => (ns.1, survivors ns.2)

/-- The document made of an outline holds what is kept of it. -/
theorem Outline.outline_merged (o : Outline) : o.merged.outline = o.kept := by
  unfold Document.outline Outline.merged Outline.kept
  rw [OrderedMap.entries_ofList_eq, survivors_map, List.map_map]
  refine List.map_congr_left fun ns _ => ?_
  exact Prod.ext rfl (OrderedMap.entries_ofList_eq ns.2)

theorem Outline.names_kept (o : Outline) : o.kept.map Prod.fst = (o.map Prod.fst).eraseDups := by
  unfold Outline.kept
  rw [List.map_map, ← survivors_keys]
  rfl

theorem Outline.kept_distinct (o : Outline) : o.kept.Distinct where
  names := by
    rw [names_kept, ← survivors_keys]
    exact survivors_nodup o
  hashes := by
    intro ns member
    obtain ⟨all, -, rfl⟩ := List.mem_map.mp member
    exact survivors_nodup all.2

/-- A namespace is kept as it last stands, without anything of what it was before. -/
theorem Outline.mem_kept_iff {o : Outline} {name : String}
    {functions : List (String × FunctionRecord)} :
    (name, functions) ∈ o.kept ↔
      ∃ before all after, o = before ++ (name, all) :: after ∧ name ∉ after.map Prod.fst ∧
        functions = survivors all := by
  unfold Outline.kept
  rw [List.mem_map]
  constructor
  · rintro ⟨⟨name', all⟩, member, same⟩
    cases same
    obtain ⟨before, after, split, last⟩ := mem_survivors_iff.mp member
    exact ⟨before, all, after, split, last, rfl⟩
  · rintro ⟨before, all, after, split, last, rfl⟩
    exact ⟨(name, all), mem_survivors_iff.mpr ⟨before, after, split, last⟩, rfl⟩

/-- What is distinct is kept as it is. -/
theorem Outline.kept_of_distinct {o : Outline} (distinct : o.Distinct) : o.kept = o := by
  rw [← outline_merged]
  exact merged_outline distinct.names distinct.hashes

/-! ## Loading -/

/-- Of two texts of which the same is kept, both are loaded or both are refused, with one result. -/
theorem load_congr {text text' : String} {o o' : Outline}
    (stands : Outline.read text.toList = .ok o) (stands' : Outline.read text'.toList = .ok o')
    (same : o.kept = o'.kept) : load text = load text' := by
  rw [load_eq (read_of_stands stands), load_eq (read_of_stands stands'), Outline.outline_merged,
    Outline.outline_merged, same]

/-- A text with repeated keys has the result of every text in which what is kept of it stands, and
there is such a text. In it each name stands once, where it first stood; a namespace has only the
functions of its last occurrence, of which each stands once again. If nothing is wrong with what is
kept, the text is loaded and the ids count the functions that are kept; as long as there are places
for all of them, these are their positions. -/
theorem load_repeated {text : String} {o : Outline} (stands : Outline.read text.toList = .ok o) :
    Outline.read o.kept.print.toList = .ok o.kept ∧ load text = load o.kept.print ∧
    (∀ text', Outline.read text'.toList = .ok o.kept → load text = load text') ∧
    o.kept.Distinct ∧ o.kept.map Prod.fst = (o.map Prod.fst).eraseDups ∧
    (∀ name functions, (name, functions) ∈ o.kept ↔
      ∃ before all after, o = before ++ (name, all) :: after ∧ name ∉ after.map Prod.fst ∧
        functions = survivors all) ∧
    ((∃ error, load text = .error error) ↔
      ∃ ns ∈ o.kept, ('/' ∈ ns.1.toList ∨ '\\' ∈ ns.1.toList) ∨ ∃ entry ∈ ns.2, ¬entry.2.Filled) ∧
    ∀ catalog, load text = .ok catalog →
      outline catalog = o.kept ∧ ids catalog = words 0 o.kept.functionCount ∧
        (o.kept.functionCount < UInt32.size →
          places catalog = List.range o.kept.functionCount) := by
  have again : o.kept = o.kept.kept := (Outline.kept_of_distinct o.kept_distinct).symm
  have any : ∀ text', Outline.read text'.toList = .ok o.kept → load text = load text' :=
    fun _ stands' => load_congr stands stands' again
  have read := read_print o.kept
  refine ⟨read, any _ read, any, o.kept_distinct, o.names_kept, fun _ _ => Outline.mem_kept_iff,
    ?_, ?_⟩
  · simp only [load_eq_error_iff (read_of_stands stands), Outline.outline_merged]
    exact goThrough_eq_error_iff
  · intro catalog loaded
    obtain ⟨document, held, -, same, counted⟩ := load_eq_ok_iff.mp loaded
    rw [read_of_stands stands] at held
    cases held
    rw [Outline.outline_merged] at same
    rw [← outline_functionCount, same] at counted
    refine ⟨same, counted, ?_⟩
    intro few
    rw [places, counted, toNat_words few]

/-- Two namespaces of one name, the first of them with a function without a name, and two functions
under one hash, the first of them without a name. One of each two keys is written with an escape. -/
def replacedText : String :=
  "\x7b\"\\u0042\":\x7b\"9\":\x7b\"name\":\"\",\"params\":[],\"return_type\":\"\"\x7d\x7d," ++
    "\"A\":\x7b" ++
    "\"1\":\x7b\"name\":\"\",\"params\":[],\"return_type\":\"int\"\x7d," ++
    "\"2\":\x7b\"name\":\"G\",\"params\":[],\"return_type\":\"int\"\x7d," ++
    "\"\\u0031\":\x7b\"name\":\"F\",\"params\":[],\"return_type\":\"void\"\x7d\x7d," ++
    "\"B\":\x7b\x7d\x7d"

/-- What stands in it. -/
def replacedOutline : Outline :=
  [("B", [("9", ⟨"", "", [], "", none, none⟩)]),
    ("A", [("1", ⟨"", "", [], "int", none, none⟩), ("2", ⟨"G", "", [], "int", none, none⟩),
      ("1", ⟨"F", "", [], "void", none, none⟩)]),
    ("B", [])]

theorem load_replacedText : Outline.read replacedText.toList = .ok replacedOutline ∧
    replacedOutline.kept = [("B", []), ("A", [("1", ⟨"F", "", [], "void", none, none⟩),
      ("2", ⟨"G", "", [], "int", none, none⟩)])] ∧
    load replacedText = load replacedOutline.kept.print ∧
    ∃ catalog, load replacedText = .ok catalog ∧ outline catalog = replacedOutline.kept ∧
      places catalog = [0, 1] := by
  have stands : Outline.read replacedText.toList = .ok replacedOutline := by decide +kernel
  have kept : replacedOutline.kept = [("B", []), ("A", [("1", ⟨"F", "", [], "void", none, none⟩),
      ("2", ⟨"G", "", [], "int", none, none⟩)])] := by decide +kernel
  have passes : ∀ check ∈ replacedOutline.kept.checks, check.Passes := by
    rw [kept]
    decide
  have loaded : load replacedText = .ok replacedOutline.kept.catalog := by
    rw [load_eq (read_of_stands stands), Outline.outline_merged, goThrough_eq_ok_iff.mpr passes]
    rfl
  obtain ⟨-, same, -, -, -, -, -, loads⟩ := load_repeated stands
  obtain ⟨outlined, -, counted⟩ := loads _ loaded
  refine ⟨stands, kept, same, _, loaded, outlined, ?_⟩
  rw [kept] at counted
  exact counted (by decide)

end LuaBindings.Catalog
