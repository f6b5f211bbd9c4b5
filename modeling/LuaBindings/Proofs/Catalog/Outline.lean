import LuaBindings.Catalog.Load
import LuaBindings.Proofs.Except
import Mathlib.Data.List.Nodup
/-!
# Outlines

The outline of a catalog is what its document says: functions under their hashes, under the names of
their namespaces. Loading a document succeeds exactly when its outline is valid, and adds nothing
but the places, which count the functions from zero in the order of the catalog. Places are words:
that of a function is its position, as far as a word can tell it.
-/

namespace LuaBindings.Catalog

/-! ## Definitions -/

/-- What a document says of a function: all but its hash and its place. -/
def recordOf (f : NativeFunction) : FunctionRecord where
  name := f.name
  comment := f.comment
  parameters := f.parameters
  returnType := f.returnType
  jhash := f.jhash
  build := f.build

/-- Functions under their hashes, under the names of their namespaces. -/
abbrev Outline := List (String × List (String × FunctionRecord))

/-- The outline of a catalog. -/
def outline (catalog : Catalog) : Outline :=
  catalog.namespaces.map fun ns => (ns.name, ns.functions.map fun f => (f.hash, recordOf f))

/-- The sequence ids of the functions of a catalog, in its order. -/
def ids (catalog : Catalog) : List UInt32 := catalog.functions.map fun entry => entry.2.sequenceId

/-- The places of the functions of a catalog, in its order, as numbers. -/
def places (catalog : Catalog) : List Nat := catalog.ids.map UInt32.toNat

/-- The words of so many positions, from `first` on. -/
def words (first count : Nat) : List UInt32 := (List.range' first count).map UInt32.ofNat

/-- The outline of a document. -/
def Document.outline (document : Document) : Outline :=
  document.entries.map fun entry => (entry.1, entry.2.entries)

/-- The number of functions in an outline. -/
def Outline.functionCount (outline : Outline) : Nat :=
  outline.foldr (fun ns count => ns.2.length + count) 0

/-- No part of the declaration is empty. -/
structure FunctionRecord.Filled (record : FunctionRecord) : Prop where
  name : record.name ≠ ""
  returnType : record.returnType ≠ ""
  parameters : ∀ p ∈ record.parameters, p.type ≠ ""

/-- What holds of the outline of every catalog that is loaded. -/
structure Outline.Valid (outline : Outline) : Prop where
  names : (outline.map Prod.fst).Nodup
  hashes : ∀ ns ∈ outline, (ns.2.map Prod.fst).Nodup
  /-- Every namespace can name a file. -/
  separators : ∀ ns ∈ outline, '/' ∉ ns.1.toList ∧ '\\' ∉ ns.1.toList
  filled : ∀ ns ∈ outline, ∀ entry ∈ ns.2, entry.2.Filled

/-! ## The walk -/

theorem hasPathSeparator_eq_false_iff {name : String} :
    hasPathSeparator name = false ↔ '/' ∉ name.toList ∧ '\\' ∉ name.toList := by
  simp only [hasPathSeparator, List.any_eq_false, Bool.or_eq_true, decide_eq_true_eq, not_or]
  constructor
  · intro h
    exact ⟨fun member => (h _ member).1 rfl, fun member => (h _ member).2 rfl⟩
  · rintro ⟨slash, backslash⟩ c member
    exact ⟨fun same => slash (same ▸ member), fun same => backslash (same ▸ member)⟩

/-- A function is numbered exactly when no part of its declaration is empty. -/
theorem number_eq_ok_iff {ns hash : String} {id : UInt32} {record : FunctionRecord}
    {f : NativeFunction} :
    number ns hash id record = .ok f ↔
      record.Filled ∧ f.hash = hash ∧ recordOf f = record ∧ f.sequenceId = id := by
  have types : record.parameters.findIdx? (·.type = "") = none ↔
      ∀ p ∈ record.parameters, p.type ≠ "" := by
    simp [List.findIdx?_eq_none_iff]
  rw [number]
  constructor
  · intro h
    split at h
    · cases h
    · rename_i name
      split at h
      · cases h
      · rename_i returnType
        split at h
        · cases h
        · rename_i parameters
          cases h
          exact ⟨⟨name, returnType, types.mp parameters⟩, rfl, rfl, rfl⟩
  · rintro ⟨filled, rfl, rfl, rfl⟩
    rw [if_neg filled.name, if_neg filled.returnType, types.mpr filled.parameters]
    rfl

/-! ## Counting -/

theorem ofNat_succ (n : Nat) : UInt32.ofNat n + 1 = UInt32.ofNat (n + 1) := by
  rw [UInt32.ofNat_add]
  rfl

theorem words_succ (first count : Nat) :
    words first (count + 1) = UInt32.ofNat first :: words (first + 1) count := by
  rw [words, List.range'_succ]
  rfl

theorem words_append (first m n : Nat) :
    words first (m + n) = words first m ++ words (first + m) n := by
  rw [words, ← List.range'_append_1, List.map_append]
  rfl

theorem length_words (first count : Nat) : (words first count).length = count := by
  rw [words, List.length_map, List.length_range']

/-- As long as there are words enough, they are the positions themselves. -/
theorem toNat_words {count : Nat} (few : count < UInt32.size) :
    (words 0 count).map UInt32.toNat = List.range count := by
  rw [words, ← List.range_eq_range', List.map_map]
  conv_rhs => rw [← List.map_id (List.range count)]
  refine List.map_congr_left fun position member => ?_
  exact UInt32.toNat_ofNat_of_lt' (Nat.lt_trans (List.mem_range.mp member) few)

/-- A list of functions is numbered exactly when every one of them is filled; their places follow on
the first one. -/
theorem numberAll_eq_ok_iff {ns : String} {first : Nat}
    {entries : List (String × FunctionRecord)} {fs : List NativeFunction} :
    numberAll ns (.ofNat first) entries = .ok fs ↔
      (∀ entry ∈ entries, entry.2.Filled) ∧ fs.map (fun f => (f.hash, recordOf f)) = entries ∧
        fs.map (·.sequenceId) = words first entries.length := by
  -- Over the entries; the first function takes `first`, the others go on from the next place.
  induction entries generalizing first fs with
  | nil =>
      rw [numberAll]
      constructor
      · intro h
        cases h
        exact ⟨List.forall_mem_nil _, rfl, rfl⟩
      · rintro ⟨-, same, -⟩
        rw [List.map_eq_nil_iff.mp same]
  | cons entry rest ih =>
      obtain ⟨hash, record⟩ := entry
      rw [numberAll, bind_eq_ok, ofNat_succ]
      simp only [bind_eq_ok, number_eq_ok_iff, ih]
      constructor
      · rintro ⟨f, ⟨filled, rfl, rfl, place⟩, others, ⟨allFilled, same, counted⟩, made⟩
        cases made
        refine ⟨List.forall_mem_cons.mpr ⟨filled, allFilled⟩, ?_, ?_⟩
        · rw [List.map_cons, same]
        · rw [List.map_cons, counted, place, List.length_cons, words_succ]
      · rintro ⟨filled, same, counted⟩
        cases fs with
        | nil => cases same
        | cons f others =>
            rw [List.map_cons, List.cons.injEq, Prod.mk.injEq] at same
            rw [List.map_cons, List.length_cons, words_succ, List.cons.injEq] at counted
            obtain ⟨⟨sameHash, sameRecord⟩, same⟩ := same
            obtain ⟨headFilled, allFilled⟩ := List.forall_mem_cons.mp filled
            exact ⟨f, ⟨headFilled, sameHash, sameRecord, counted.1⟩, others,
              ⟨allFilled, same, counted.2⟩, rfl⟩

theorem Outline.functionCount_cons (ns : String × List (String × FunctionRecord))
    (others : Outline) :
    Outline.functionCount (ns :: others) = ns.2.length + others.functionCount := rfl

theorem ids_cons (ns : Namespace) (others : List Namespace) :
    ids ⟨ns :: others⟩ = ns.functions.map (·.sequenceId) ++ ids ⟨others⟩ := by
  simp [ids, functions, Function.comp_def]

theorem outline_cons (ns : Namespace) (others : List Namespace) :
    outline ⟨ns :: others⟩ =
      (ns.name, ns.functions.map fun f => (f.hash, recordOf f)) :: outline ⟨others⟩ := rfl

/-- Namespaces are numbered exactly when each of them can name a file and has only filled functions;
their places follow on the first one. -/
theorem ofEntries_eq_ok_iff {first : Nat} {entries : List (String × OrderedMap FunctionRecord)}
    {namespaces : List Namespace} :
    ofEntries (.ofNat first) entries = .ok namespaces ↔
      (∀ entry ∈ entries, hasPathSeparator entry.1 = false ∧
        ∀ record ∈ entry.2.entries, record.2.Filled) ∧
      outline ⟨namespaces⟩ = entries.map (fun entry => (entry.1, entry.2.entries)) ∧
      ids ⟨namespaces⟩ = words first
        (Outline.functionCount (entries.map fun entry => (entry.1, entry.2.entries))) := by
  induction entries generalizing first namespaces with
  | nil =>
      rw [ofEntries]
      constructor
      · intro h
        cases h
        exact ⟨by simp, rfl, rfl⟩
      · rintro ⟨-, same, -⟩
        cases namespaces with
        | nil => rfl
        | cons ns others => cases same
  | cons entry rest ih =>
      obtain ⟨name, records⟩ := entry
      rw [List.forall_mem_cons, ofEntries, List.map_cons, Outline.functionCount_cons,
        words_append, ← UInt32.ofNat_add]
      cases separated : hasPathSeparator name with
      | true =>
          constructor
          · intro h
            cases h
          · rintro ⟨⟨⟨fine, -⟩, -⟩, -⟩
            exact absurd fine (by simp)
      | false =>
          simp only [Bool.false_eq_true, if_false, bind_eq_ok, numberAll_eq_ok_iff, ih]
          constructor
          · rintro ⟨fs, ⟨filled, same, counted⟩, others, ⟨fine, sameOthers, countedOthers⟩, made⟩
            cases made
            refine ⟨⟨⟨trivial, filled⟩, fine⟩, ?_, ?_⟩
            · rw [outline_cons, same, sameOthers]
            · rw [ids_cons, counted, countedOthers]
          · rintro ⟨⟨⟨-, filled⟩, fine⟩, same, counted⟩
            cases namespaces with
            | nil => cases same
            | cons ns others =>
                rw [outline_cons, List.cons.injEq, Prod.mk.injEq] at same
                obtain ⟨⟨rfl, sameFunctions⟩, sameOthers⟩ := same
                -- The ids split where the functions of the first namespace end.
                have lengths : (ns.functions.map (·.sequenceId)).length =
                    (words first records.entries.length).length := by
                  rw [length_words, ← sameFunctions, List.length_map, List.length_map]
                rw [ids_cons] at counted
                obtain ⟨countedHere, countedOthers⟩ := List.append_inj counted lengths
                exact ⟨ns.functions, ⟨filled, sameFunctions, countedHere⟩, others,
                  ⟨fine, sameOthers, countedOthers⟩, rfl⟩

/-! ## Documents and their catalogs -/

theorem outline_functionCount (catalog : Catalog) :
    (outline catalog).functionCount = catalog.functionCount := by
  simp [outline, Outline.functionCount, functionCount, List.foldr_map]

/-- A catalog describes a document exactly when its outline is the document's and is valid, and its
ids count from zero. -/
theorem ofDocument_eq_ok_iff {document : Document} {catalog : Catalog} :
    ofDocument document = .ok catalog ↔
      document.outline.Valid ∧ outline catalog = document.outline ∧
        ids catalog = words 0 catalog.functionCount := by
  obtain ⟨namespaces⟩ := catalog
  have made : ofDocument document = .ok ⟨namespaces⟩ ↔
      ofEntries 0 document.entries = .ok namespaces := by
    rw [ofDocument, bind_eq_ok]
    constructor
    · rintro ⟨others, walked, made⟩
      cases made
      exact walked
    · intro walked
      exact ⟨namespaces, walked, rfl⟩
  have names : document.outline.map Prod.fst = document.entries.map Prod.fst := by
    simp [Document.outline, Function.comp_def]
  rw [made, ← outline_functionCount]
  refine (show ofEntries (.ofNat 0) document.entries = .ok namespaces ↔ _ from
    ofEntries_eq_ok_iff).trans ?_
  show _ ∧ outline ⟨namespaces⟩ = document.outline ∧
    ids ⟨namespaces⟩ = words 0 document.outline.functionCount ↔ _
  constructor
  · rintro ⟨fine, same, counted⟩
    refine ⟨⟨?_, ?_, ?_, ?_⟩, same, ?_⟩
    · rw [names]
      exact document.distinct
    · intro ns member
      obtain ⟨entry, -, rfl⟩ := List.mem_map.mp member
      exact entry.2.distinct
    · intro ns member
      obtain ⟨entry, held, rfl⟩ := List.mem_map.mp member
      exact hasPathSeparator_eq_false_iff.mp (fine entry held).1
    · intro ns member
      obtain ⟨entry, held, rfl⟩ := List.mem_map.mp member
      exact (fine entry held).2
    · rw [counted, same]
  · rintro ⟨valid, same, counted⟩
    refine ⟨?_, same, ?_⟩
    · intro entry member
      have listed : (entry.1, entry.2.entries) ∈ document.outline :=
        List.mem_map.mpr ⟨entry, member, rfl⟩
      exact ⟨hasPathSeparator_eq_false_iff.mpr (valid.separators _ listed), valid.filled _ listed⟩
    · rw [counted, same]

/-- A text is loaded exactly when it holds a document with a valid outline. -/
theorem load_eq_ok_iff {text : String} {catalog : Catalog} :
    load text = .ok catalog ↔
      ∃ document, Document.read text.toList = .ok document ∧ document.outline.Valid ∧
        outline catalog = document.outline ∧ ids catalog = words 0 catalog.functionCount := by
  rw [load]
  cases Document.read text.toList with
  | error failure => simp
  | ok document =>
      simp only [Except.ok.injEq, exists_eq_left', ofDocument_eq_ok_iff]

/-- Whatever is loaded has a valid outline. -/
theorem outline_valid {text : String} {catalog : Catalog} (loaded : load text = .ok catalog) :
    (outline catalog).Valid := by
  obtain ⟨document, -, valid, same, -⟩ := load_eq_ok_iff.mp loaded
  exact same ▸ valid

/-- The places of a loaded catalog, if there are words for all of them, are the positions. -/
theorem places_eq_range {text : String} {catalog : Catalog} (loaded : load text = .ok catalog)
    (few : catalog.functionCount < UInt32.size) :
    places catalog = List.range catalog.functionCount := by
  obtain ⟨document, -, -, -, counted⟩ := load_eq_ok_iff.mp loaded
  rw [places, counted, toNat_words few]

/-- Where the ids count from zero, each is the word of the position of its function. -/
theorem sequenceId_eq {catalog : Catalog} (counted : ids catalog = words 0 catalog.functionCount)
    {j : Nat} {entry : Namespace × NativeFunction} (held : catalog.functions[j]? = some entry) :
    entry.2.sequenceId = UInt32.ofNat j := by
  have place := congrArg (·[j]?) counted
  simp only [ids, words, ← List.range_eq_range', List.getElem?_map, held, Option.map_some] at place
  obtain ⟨position, listed, same⟩ := Option.map_eq_some_iff.mp place.symm
  obtain ⟨inside, position_eq⟩ := List.getElem?_eq_some_iff.mp listed
  rw [← same, ← position_eq, List.getElem_range]

/-- Where the places count from zero, each is the position of its function. -/
theorem place_eq {catalog : Catalog}
    (counted : places catalog = List.range catalog.functionCount) {j : Nat}
    {entry : Namespace × NativeFunction} (held : catalog.functions[j]? = some entry) :
    entry.2.sequenceId.toNat = j := by
  have place := congrArg (·[j]?) counted
  simp only [places, ids, List.getElem?_map, held, Option.map_some] at place
  obtain ⟨inside, same⟩ := List.getElem?_eq_some_iff.mp place.symm
  rw [← same, List.getElem_range]

theorem places_lt (catalog : Catalog) : ∀ id ∈ places catalog, id < UInt32.size := by
  intro id member
  obtain ⟨word, -, rfl⟩ := List.mem_map.mp member
  exact word.toNat_lt_size

/-- The one element of a list that passes a test is found by it. -/
theorem find?_eq_some_of_unique {α : Type} {l : List α} {p : α → Bool} {a : α} (member : a ∈ l)
    (passes : p a = true) (unique : ∀ b ∈ l, p b = true → b = a) : l.find? p = some a := by
  cases found : l.find? p with
  | none => exact absurd passes (List.find?_eq_none.mp found a member)
  | some b => rw [unique b (List.mem_of_find?_eq_some found) (List.find?_some found)]

/-- Where names do not repeat, a namespace is found under its own. -/
theorem namespace?_eq_some {catalog : Catalog} (names : (catalog.namespaces.map (·.name)).Nodup)
    {ns : Namespace} (member : ns ∈ catalog.namespaces) : catalog.namespace? ns.name = some ns := by
  refine find?_eq_some_of_unique member (decide_eq_true rfl) ?_
  intro other held same
  exact List.inj_on_of_nodup_map names held member (of_decide_eq_true same)

end LuaBindings.Catalog
