import LuaBindings.Proofs.Catalog.Fixups
import LuaBindings.Proofs.Catalog.Printing
/-!
# Large catalogs

Two families of catalogs, of which the large ones leave the ground that most of this library stands
on: catalogs with ever more functions, of which some are to be fixed up as long as the counter has
not gone on too far, and catalogs with an ever larger name. Whatever the size, they are loaded from
the text that is printed of their outline.
-/

namespace LuaBindings.Catalog

/-! ## Loading what is printed -/

/-- What is printed of a valid outline is loaded as its catalog. -/
theorem load_print {o : Outline} (valid : o.Valid) : load o.print = .ok o.catalog := by
  have same := Outline.merged_outline valid.names valid.hashes
  refine load_eq_ok_iff.mpr ⟨o.merged, read_of_stands (read_print o), ?_, ?_, ids_catalog o⟩
  · rw [same]
    exact valid
  · rw [outline_catalog, same]

theorem Outline.Valid.distinct {o : Outline} (valid : o.Valid) : o.Distinct where
  names := valid.names
  hashes := valid.hashes

/-! ## Many functions -/

/-- A function without parameters, under a hash. -/
def plainRecord (hash name : String) : String × FunctionRecord :=
  (hash, ⟨name, "", [], "void", none, none⟩)

/-- So many functions of a name that is not in the table, each under a hash of its own. -/
def fillers (count : Nat) : List (String × FunctionRecord) :=
  (List.range count).map fun i => plainRecord (toString i) "FILLER"

/-- A function that the table has at position 761, when so many functions more stand before it, and
behind it another one of its name. -/
def lateOutline (count : Nat) : Outline :=
  [("N", fillers count), ("A", fillers 761),
    ("B", [plainRecord "1" "GET_ENTITY_MATRIX", plainRecord "2" "GET_ENTITY_MATRIX"])]

theorem length_fillers (count : Nat) : (fillers count).length = count := by
  rw [fillers, List.length_map, List.length_range]

theorem fillers_hashes (count : Nat) : ((fillers count).map Prod.fst).Nodup := by
  rw [fillers, List.map_map]
  refine List.nodup_range.map fun i j same => ?_
  have digits : toString i = toString j := same
  have number := Binding.readNumber_toString i
  rw [digits, Binding.readNumber_toString, Option.some.injEq] at number
  exact number.symm

theorem plainRecord_filled (hash : String) {name : String} (named : name ≠ "") :
    (plainRecord hash name).2.Filled :=
  ⟨named, by simp [plainRecord], List.forall_mem_nil _⟩

theorem lateOutline_valid (count : Nat) : (lateOutline count).Valid where
  names := by
    show ["N", "A", "B"].Nodup
    decide
  hashes := by
    simp only [lateOutline, List.forall_mem_cons]
    exact ⟨fillers_hashes count, fillers_hashes 761, by decide, List.forall_mem_nil _⟩
  separators := by
    simp only [lateOutline, List.forall_mem_cons]
    exact ⟨by decide, by decide, by decide, List.forall_mem_nil _⟩
  filled := by
    have filler : ∀ n, ∀ entry ∈ fillers n, entry.2.Filled := by
      intro n entry member
      obtain ⟨i, -, rfl⟩ := List.mem_map.mp member
      exact plainRecord_filled _ (by decide)
    simp only [lateOutline, List.forall_mem_cons]
    exact ⟨filler count, filler 761, ⟨plainRecord_filled _ (by decide),
      plainRecord_filled _ (by decide), List.forall_mem_nil _⟩, List.forall_mem_nil _⟩

/-- The namespace with the function in question. -/
def lateNamespace (count : Nat) : Namespace :=
  ⟨"B", placed (count + 761)
    [plainRecord "1" "GET_ENTITY_MATRIX", plainRecord "2" "GET_ENTITY_MATRIX"]⟩

/-- The function in question. -/
def lateFunction (count : Nat) : NativeFunction :=
  ⟨"GET_ENTITY_MATRIX", "1", .ofNat (count + 761), "void", [], "", none, none⟩

/-- The same hash and name behind it. -/
def laterFunction (count : Nat) : NativeFunction :=
  ⟨"GET_ENTITY_MATRIX", "2", .ofNat (count + 761 + 1), "void", [], "", none, none⟩

theorem functions_late (count : Nat) : (lateOutline count).catalog.functions =
    (placed 0 (fillers count)).map (⟨"N", placed 0 (fillers count)⟩, ·) ++
      ((placed count (fillers 761)).map (⟨"A", placed count (fillers 761)⟩, ·) ++
        [(lateNamespace count, lateFunction count), (lateNamespace count, laterFunction count)]) := by
  have namespaces : (lateOutline count).catalog.namespaces =
      [⟨"N", placed 0 (fillers count)⟩, ⟨"A", placed count (fillers 761)⟩, lateNamespace count] := by
    rw [Outline.catalog, lateOutline, Outline.namespacesFrom, Outline.namespacesFrom,
      Outline.namespacesFrom, Outline.namespacesFrom, length_fillers, length_fillers, Nat.zero_add]
    rfl
  have last : (lateNamespace count).functions.map (lateNamespace count, ·) =
      [(lateNamespace count, lateFunction count), (lateNamespace count, laterFunction count)] := rfl
  rw [functions, namespaces, List.flatMap_cons, List.flatMap_cons, List.flatMap_singleton, last]

theorem functionCount_late (count : Nat) : (lateOutline count).functionCount = count + 763 := by
  rw [lateOutline, Outline.functionCount_cons, Outline.functionCount_cons, length_fillers,
    length_fillers]
  show count + (761 + 2) = count + 763
  omega

/-- The function stands behind all fillers. -/
theorem getElem?_late (count : Nat) : (lateOutline count).catalog.functions[count + 761]? =
    some (lateNamespace count, lateFunction count) := by
  have front := length_placed 0 (fillers count)
  have back := length_placed count (fillers 761)
  rw [length_fillers] at front back
  rw [functions_late, List.getElem?_append_right (by rw [List.length_map]; omega),
    List.getElem?_append_right (by rw [List.length_map, List.length_map]; omega), List.length_map,
    List.length_map, front, back, Nat.add_sub_cancel_left, Nat.sub_self]
  rfl

theorem needsFixup_filler {first n : Nat} {f : NativeFunction}
    (member : f ∈ placed first (fillers n)) : Binding.needsFixup f = false := by
  have record : (f.hash, recordOf f) ∈ fillers n := by
    rw [← placed_outline first (fillers n)]
    exact List.mem_map.mpr ⟨f, member, rfl⟩
  obtain ⟨i, -, same⟩ := List.mem_map.mp record
  have name : f.name = "FILLER" := congrArg (·.2.name) same.symm
  have unlisted : Binding.expectedId? "FILLER" = none := by decide +kernel
  rw [Binding.needsFixup, Binding.needsFixupAt, name, unlisted]
  rfl

/-- Where the counter has come round to its start before it gets to the fillers that are always there,
the function is to be fixed up, and no other is. -/
theorem fixups_late {count : Nat} (around : UInt32.ofNat count = 0) :
    (lateOutline count).catalog.fixups = [(lateNamespace count, lateFunction count)] := by
  have place : UInt32.ofNat (count + 761) = 761 := by
    rw [UInt32.ofNat_add, around]
    rfl
  have next : UInt32.ofNat (count + 761 + 1) = 762 := by
    rw [UInt32.ofNat_add, place]
    rfl
  have first : Binding.needsFixup (lateFunction count) = true := by
    rw [Binding.needsFixup, lateFunction, place]
    decide +kernel
  have second : Binding.needsFixup (laterFunction count) = false := by
    rw [Binding.needsFixup, laterFunction, next]
    decide +kernel
  have none : ∀ (ns : Namespace) (start n : Nat), ((placed start (fillers n)).map (ns, ·)).filter
      (fun entry => Binding.needsFixup entry.2) = [] := by
    intro ns start n
    rw [List.filter_map, List.map_eq_nil_iff, List.filter_eq_nil_iff]
    intro f member
    exact ne_true_of_eq_false (needsFixup_filler member)
  rw [fixups, functions_late, List.filter_append, List.filter_append, none, none, List.nil_append,
    List.nil_append]
  simp only [List.filter_cons, List.filter_nil, first, second, if_true, Bool.false_eq_true, if_false]

theorem narrow_late (count : Nat) : (lateOutline count).catalog.Narrow := by
  have names := outline_catalog (lateOutline count)
  intro ns member
  have listed : (ns.name, ns.functions.map fun f => (f.hash, recordOf f)) ∈ lateOutline count := by
    rw [← names]
    exact List.mem_map.mpr ⟨ns, member, rfl⟩
  have short : ∀ entry ∈ lateOutline count, entry.1.utf8ByteSize ≤ 65535 := by
    simp only [lateOutline, List.forall_mem_cons]
    exact ⟨by decide +kernel, by decide +kernel, by decide +kernel, List.forall_mem_nil _⟩
  exact short _ listed

/-- With so many functions before it, its position is not in the table. -/
theorem matched_late {count : Nat} (many : UInt32.size ≤ count) :
    (lateNamespace count, lateFunction count) ∉ (lateOutline count).catalog.matched := by
  intro member
  obtain ⟨⟨entry, position⟩, held, rfl⟩ := List.mem_map.mp member
  obtain ⟨listed, recorded⟩ := List.mem_filter.mp held
  obtain ⟨row, -, -, place⟩ := of_decide_eq_true recorded
  have low : position < count := by
    dsimp only at place
    rw [← place]
    exact Nat.lt_of_lt_of_le row.2.toNat_lt_size many
  have there := List.mem_zipIdx_iff_getElem?.mp listed
  have inside : position < ((placed 0 (fillers count)).map
      (Prod.mk (⟨"N", placed 0 (fillers count)⟩ : Namespace))).length := by
    rw [List.length_map, length_placed, length_fillers]
    exact low
  rw [functions_late, List.getElem?_append_left inside, List.getElem?_map,
    Option.map_eq_some_iff] at there
  obtain ⟨f, -, same⟩ := there
  have name : "N" = "B" := congrArg (·.1.name) same
  exact absurd name (by decide)

/-! ## A large name -/

/-- An empty namespace whose name has so many characters. -/
def wideOutline (size : Nat) : Outline := [(String.ofList (List.replicate size 'N'), [])]

theorem wideOutline_valid (size : Nat) : (wideOutline size).Valid where
  names := List.nodup_singleton _
  hashes := List.forall_mem_singleton.mpr List.nodup_nil
  separators := by
    have plain : ∀ c, c ≠ 'N' → c ∉ List.replicate size 'N' :=
      fun c other member => other (List.eq_of_mem_replicate member)
    rw [wideOutline, List.forall_mem_singleton, String.toList_ofList]
    exact ⟨plain _ (by decide), plain _ (by decide)⟩
  filled := List.forall_mem_singleton.mpr (List.forall_mem_nil _)

theorem not_narrow_wide {size : Nat} (large : 65535 < size) :
    ¬(wideOutline size).catalog.Narrow := by
  refine not_narrow_iff.mpr ⟨_, List.mem_singleton_self _, ?_⟩
  refine Nat.lt_of_lt_of_le ?_ (length_le_utf8ByteSize _)
  rw [String.length_ofList, List.length_replicate]
  exact large

end LuaBindings.Catalog
