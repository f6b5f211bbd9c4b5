import LuaBindings.Proofs.Project.Listings
/-!
# Alignment of the overview

The overview tells the size of each namespace in a table of one row for each, with the numbers below
one another. The column of names is as wide as the largest name has bytes, and a name is filled up
to it by characters. No text has more characters than bytes, so a name never runs over its column,
and the numbers start in the same place in all rows, whatever characters the names are made of.
-/

namespace LuaBindings.Catalog

variable {catalog : Catalog} {ns : Namespace} {width : Nat}

/-- The column in which the number at the end of a line starts: so many characters stand before
it. -/
def numberColumn (line : List Char) : Nat := (line.reverse.dropWhile Char.isDigit).length

/-- The row of a namespace in a table with its numbers in one column. -/
structure SizeRow (column : Nat) (ns : Namespace) (row : String) : Prop where
  /-- Two blanks, the whole name, at least two more blanks, and the number of functions. -/
  text : ∃ padding, 2 ≤ padding ∧
    row = "  " ++ ns.name ++ blanks padding ++ toString ns.functions.length
  size : endNumber row.toList = some ns.functions.length
  start : numberColumn row.toList = column

/-- How an overview shows the sizes of the namespaces, with the numbers in one column. -/
structure Aligned (catalog : Catalog) (overview : List String) (column : Nat) : Prop where
  /-- The rows are all that stands below the title of the namespaces, up to the empty line before
  the next title. -/
  placed : ∃ below, overview =
    ["  Namespaces: " ++ toString catalog.namespaces.length,
      "  Functions:  " ++ toString catalog.functionCount, ""] ++
    "--- Namespaces ---" :: (sizeRows overview ++ "" :: "--- Vector fix-up ---" :: below)
  /-- There is one for each namespace, in the order of the catalog. -/
  rows : List.Forall₂ (SizeRow column) catalog.namespaces (sizeRows overview)
  /-- The column leaves room for four blanks and the bytes of any name. -/
  behind : ∀ ns ∈ catalog.namespaces, 4 + ns.name.utf8ByteSize ≤ column
  /-- The bytes of some name take all of this room. -/
  reached : catalog.namespaces ≠ [] →
    ∃ ns ∈ catalog.namespaces, column = 4 + ns.name.utf8ByteSize

/-! ## Rows -/

/-- A name has no more characters than its column is wide. -/
theorem length_le_nameWidth (member : ns ∈ catalog.namespaces) :
    ns.name.length ≤ catalog.nameWidth :=
  (length_le_utf8ByteSize ns.name).trans (utf8ByteSize_le_nameWidth member)

theorem blanks_add (m n : Nat) : blanks (m + n) = blanks m ++ blanks n := by
  rw [blanks, List.replicate_add, String.ofList_append]
  rfl

/-- A text that is not too long is filled up to the width. -/
theorem length_append_blanks {s : String} (fits : s.length ≤ width) :
    (s ++ blanks (width - s.length)).length = width := by
  rw [String.length_append, length_blanks]
  omega

theorem sizeText_eq (width : Nat) (ns : Namespace) : sizeText width ns =
    "  " ++ ns.name ++ blanks (width - ns.name.length + 2) ++ toString ns.functions.length := by
  have gap : blanks 2 = "  " := rfl
  rw [sizeText, blanks_add, gap]
  simp only [String.append_assoc]

/-- A number starts behind the last character that is no digit. -/
theorem numberColumn_append {s : List Char} {c : Char} (stop : c.isDigit = false) (n : Nat) :
    numberColumn (s ++ c :: (toString n).toList) = s.length + 1 := by
  rw [numberColumn, List.reverse_append, List.reverse_cons, List.append_assoc,
    List.dropWhile_append_of_pos (isDigit_reverse n), List.singleton_append,
    List.dropWhile_cons_of_neg (by simp [stop]), List.length_cons, List.length_reverse]

theorem sizeRow_sizeText (fits : ns.name.length ≤ width) :
    SizeRow (4 + width) ns (sizeText width ns) := by
  refine ⟨⟨_, Nat.le_add_left 2 _, sizeText_eq width ns⟩, endNumber_sizeText width ns, ?_⟩
  have before : ("  " ++ (ns.name ++ blanks (width - ns.name.length)) ++ " ").length =
      2 + width + 1 := by
    rw [String.length_append, String.length_append, length_append_blanks fits]
    rfl
  rw [sizeText_toList, numberColumn_append (by decide), String.length_toList, before]
  omega

/-- In the overview of any catalog with names that it has room for, the sizes stand below one another,
four characters further than the largest name has bytes. -/
theorem overview_aligned (narrow : catalog.Narrow) : ∃ overview,
    catalog.overview = .ok overview ∧ Aligned catalog overview (4 + catalog.nameWidth) := by
  refine ⟨_, overview_of_narrow narrow, ?_, ?_, ?_, ?_⟩
  · rw [sizeRows_eq]
    exact overview_sizes catalog
  · rw [sizeRows_eq, List.forall₂_map_right_iff, List.forall₂_same]
    intro ns member
    exact sizeRow_sizeText (length_le_nameWidth member)
  · intro ns member
    exact Nat.add_le_add_left (utf8ByteSize_le_nameWidth member) 4
  · intro filled
    obtain ⟨ns, member, size⟩ := exists_nameWidth_eq filled
    exact ⟨ns, member, by rw [size]⟩

/-- Three namespaces, of which the one with the largest name has six bytes in three characters. -/
def umlautCatalog : Catalog := ⟨[⟨"ÄÖÜ", []⟩, ⟨"PED", []⟩, ⟨"", []⟩]⟩

theorem overview_aligned_umlauts : umlautCatalog.Narrow ∧ ∃ overview,
    umlautCatalog.overview = .ok overview ∧ Aligned umlautCatalog overview 10 ∧
      sizeRows overview = ["  ÄÖÜ     0", "  PED     0", "          0"] := by
  have narrow : umlautCatalog.Narrow := by
    rw [narrow_iff]
    decide +kernel
  have rows : umlautCatalog.overview.map sizeRows =
      .ok ["  ÄÖÜ     0", "  PED     0", "          0"] := by decide +kernel
  obtain ⟨overview, told, aligned⟩ := overview_aligned narrow
  rw [told] at rows
  exact ⟨narrow, overview, told, aligned, Except.ok.inj rows⟩

end LuaBindings.Catalog
