import LuaBindings.Proofs.Binding.ReadBack
import LuaBindings.Proofs.Catalog.Outline
import LuaBindings.Proofs.Catalog.Overview
/-!
# Natives to fix up

Where the places of a catalog count from zero, the natives to fix up are those whose name stands in
the table together with their position in the catalog. Each row of the table takes at most one of
them, however many natives share a name, and the overview lists them all.
-/

namespace LuaBindings

namespace Binding

/-! ## The table -/

/-- No name stands twice in the table. -/
theorem vectorFixups_names : (vectorFixups.map Prod.fst).Nodup := by decide +kernel

theorem needsFixup_iff {f : NativeFunction} :
    needsFixup f = true ↔ (f.name, f.sequenceId) ∈ vectorFixups := by
  rw [needsFixup, needsFixupAt, decide_eq_true_iff, expectedId?, List.lookup_eq_some_iff]
  constructor
  · rintro ⟨before, after, table, -⟩
    rw [table]
    exact List.mem_append_right _ List.mem_cons_self
  · intro member
    obtain ⟨before, after, table⟩ := List.append_of_mem member
    refine ⟨before, after, table, ?_⟩
    intro row earlier
    have names := vectorFixups_names
    rw [table, List.map_append, List.nodup_append] at names
    have differ := names.2.2 row.1 (List.mem_map.mpr ⟨row, earlier, rfl⟩) f.name (by simp)
    exact bne_iff_ne.mpr differ.symm

end Binding

namespace Catalog

open Binding (needsFixup needsFixup_iff vectorFixups vectorFixups_names)

variable {catalog : Catalog}

/-- Whether a row of the table has that name and that position. -/
def Recorded (name : String) (position : Nat) : Prop :=
  ∃ row ∈ vectorFixups, row.1 = name ∧ row.2.toNat = position

instance (name : String) (position : Nat) : Decidable (Recorded name position) :=
  inferInstanceAs (Decidable (∃ row ∈ vectorFixups, _))

/-- The natives whose name and position stand together in the table. -/
def matched (catalog : Catalog) : List (Namespace × NativeFunction) :=
  (catalog.functions.zipIdx.filter fun entry => Recorded entry.1.2.name entry.2).map Prod.fst

theorem recorded_iff {name : String} {id : UInt32} :
    Recorded name id.toNat ↔ (name, id) ∈ vectorFixups := by
  constructor
  · rintro ⟨row, member, rfl, place⟩
    rwa [← UInt32.toNat_inj.mp place]
  · intro member
    exact ⟨_, member, rfl, rfl⟩

theorem fixups_eq_matched (counted : places catalog = List.range catalog.functionCount) :
    catalog.fixups = catalog.matched := by
  have functions : catalog.functions = catalog.functions.zipIdx.map Prod.fst := by
    rw [List.zipIdx_map_fst]
  rw [fixups, matched, functions, List.filter_map, ← functions]
  refine congrArg (List.map Prod.fst) (List.filter_congr ?_)
  intro entry member
  have place : entry.1.2.sequenceId.toNat = entry.2 :=
    place_eq counted (List.mem_zipIdx_iff_getElem?.mp member)
  rw [← place, Function.comp_apply, Bool.eq_iff_iff, needsFixup_iff, decide_eq_true_iff,
    recorded_iff]

theorem ids_nodup (counted : places catalog = List.range catalog.functionCount) :
    (ids catalog).Nodup := by
  have distinct : (places catalog).Nodup := counted ▸ List.nodup_range
  exact List.Nodup.of_map _ distinct

/-- No two natives to fix up have the same name. -/
theorem fixups_names (counted : places catalog = List.range catalog.functionCount) :
    (catalog.fixups.map (·.2.name)).Nodup := by
  have apart : catalog.functions.Pairwise fun a b => a.2.sequenceId ≠ b.2.sequenceId := by
    have distinct : (ids catalog).Nodup := ids_nodup counted
    exact List.pairwise_map.mp distinct
  have names : catalog.fixups.Pairwise fun a b => a.2.name ≠ b.2.name := by
    refine (apart.filter _).imp_of_mem ?_
    intro a b ha hb differ same
    have first := of_decide_eq_true (List.mem_filter.mp ha).2
    have second := of_decide_eq_true (List.mem_filter.mp hb).2
    rw [same, second, Option.some.injEq] at first
    exact differ first.symm
  exact List.pairwise_map.mpr names

/-- A row of the table takes at most one native. -/
theorem fixups_once (counted : places catalog = List.range catalog.functionCount)
    (name : String) : (catalog.fixups.filter (·.2.name = name)).length ≤ 1 := by
  have count := List.nodup_iff_count_le_one.mp (fixups_names counted) name
  rw [List.count, List.countP_map, List.countP_eq_length_filter] at count
  exact count

theorem fixups_length_le (counted : places catalog = List.range catalog.functionCount) :
    catalog.fixups.length ≤ vectorFixups.length := by
  have within : catalog.fixups.map (·.2.name) ⊆ vectorFixups.map Prod.fst := by
    intro name member
    obtain ⟨entry, held, rfl⟩ := List.mem_map.mp member
    exact List.mem_map.mpr ⟨_, needsFixup_iff.mp (List.mem_filter.mp held).2, rfl⟩
  have bound := (fixups_names counted).length_le_of_subset within
  rwa [List.length_map, List.length_map] at bound

/-! ## The overview -/

/-- The lines of an overview below its last title. -/
def fixupLines (overview : List String) : List String :=
  (overview.dropWhile (· ≠ "--- Vector fix-up ---")).tail

/-- The natives whose rows are among these lines. -/
def listed (catalog : Catalog) (overview : List String) : List (Namespace × NativeFunction) :=
  (fixupLines overview).filterMap fun line => catalog.functions.find? (fixupRow · = line)

/-- A line that ends with a number ends with no other character. -/
theorem append_toString_ne {line : String} (ending : line.toList.getLast?.any Char.isDigit = false)
    (s : String) (n : Nat) : s ++ toString n ≠ line := by
  rintro rfl
  have some : (toString n).toList ≠ [] := by
    rw [Nat.toString_eq_ofList_toDigits, String.toList_ofList]
    exact Nat.toDigits_ne_nil
  have digit : ((toString n).toList.getLast some).isDigit = true :=
    Binding.repr_isDigit n _ (List.getLast_mem some)
  rw [String.toList_append, List.getLast?_append, List.getLast?_eq_some_getLast some,
    Option.some_or, Option.any_some, digit] at ending
  cases ending

/-- No line above the last title is another one that ends without a digit. -/
theorem totalLines_ne {line : String} (ending : line.toList.getLast?.any Char.isDigit = false)
    (title : line ≠ "--- Namespaces ---") (nonempty : line ≠ "") :
    ∀ other ∈ catalog.totalLines, other ≠ line := by
  have number := append_toString_ne ending
  rw [totalLines, List.forall_mem_append, List.forall_mem_append, List.forall_mem_map]
  simp only [List.forall_mem_cons]
  exact ⟨⟨⟨number _ _, number _ _, nonempty.symm, title.symm, List.forall_mem_nil _⟩,
    fun ns _ => number _ _⟩, nonempty.symm, List.forall_mem_nil _⟩

theorem fixupLines_eq (catalog : Catalog) : fixupLines catalog.overviewLines =
    if catalog.fixups.isEmpty then ["  none matched"] else catalog.fixups.map fixupRow := by
  have above : ∀ line ∈ catalog.totalLines, decide (line ≠ "--- Vector fix-up ---") = true :=
    fun line member => decide_eq_true
      (totalLines_ne rfl (by decide) (by decide) line member)
  rw [fixupLines, overviewLines, List.dropWhile_append_of_pos above]
  rfl

/-- The number in the brackets that end a row. -/
def rowPlace (line : String) : Option Nat :=
  Binding.readNumber ((line.toList.reverse.drop 1).takeWhile (· ≠ '(')).reverse

theorem rowPlace_fixupRow (entry : Namespace × NativeFunction) :
    rowPlace (fixupRow entry) = some entry.2.sequenceId.toNat := by
  have row : (fixupRow entry).toList.reverse = ')' ::
      ((toString entry.2.sequenceId.toNat).toList.reverse ++
        '(' :: ("  " ++ entry.1.name ++ "." ++ entry.2.name ++ " ").toList.reverse) := by
    simp [fixupRow]
  have digits : ∀ c ∈ (toString entry.2.sequenceId.toNat).toList.reverse, decide (c ≠ '(') = true := by
    intro c member
    have word := Binding.repr_word _ c (List.mem_reverse.mp member)
    refine decide_eq_true ?_
    rintro rfl
    exact absurd word (by decide)
  rw [rowPlace, row, List.drop_one, List.tail_cons, List.takeWhile_append_of_pos digits,
    List.takeWhile_cons_of_neg (by decide), List.append_nil, List.reverse_reverse]
  exact Binding.readNumber_toString _

/-- The line that stands for no native is the row of none. -/
theorem fixupRow_ne (entry : Namespace × NativeFunction) : fixupRow entry ≠ "  none matched" := by
  intro same
  have place := rowPlace_fixupRow entry
  have none : rowPlace "  none matched" = none := by decide +kernel
  rw [same, none] at place
  cases place

/-- The rows of the overview stand for the natives to fix up and for no others. -/
theorem listed_eq_fixups (counted : places catalog = List.range catalog.functionCount) :
    catalog.listed catalog.overviewLines = catalog.fixups := by
  have distinct : (ids catalog).Nodup := ids_nodup counted
  have own : ∀ entry ∈ catalog.fixups,
      catalog.functions.find? (fixupRow · = fixupRow entry) = some entry := by
    intro entry member
    have held := (List.mem_filter.mp member).1
    refine find?_eq_some_of_unique held (decide_eq_true rfl) ?_
    intro other listed same
    have place := rowPlace_fixupRow other
    rw [of_decide_eq_true same, rowPlace_fixupRow, Option.some.injEq] at place
    exact List.inj_on_of_nodup_map distinct listed held (UInt32.toNat_inj.mp place.symm)
  rw [listed, fixupLines_eq]
  split
  · rename_i empty
    have unmatched : catalog.functions.find? (fixupRow · = "  none matched") = none :=
      List.find?_eq_none.mpr fun entry _ same => fixupRow_ne entry (of_decide_eq_true same)
    rw [List.filterMap_cons, unmatched, List.isEmpty_iff.mp empty]
    rfl
  · rw [List.filterMap_map]
    exact (List.filterMap_congr own).trans List.filterMap_some

/-- The overview tells that there is none exactly when there is none. -/
theorem noneMatched_iff (catalog : Catalog) :
    "  none matched" ∈ catalog.overviewLines ↔ catalog.fixups.length = 0 := by
  have above : ∀ line ∈ catalog.totalLines, line ≠ "  none matched" :=
    totalLines_ne rfl (by decide) (by decide)
  rw [overviewLines, List.mem_append, List.mem_cons, List.length_eq_zero_iff]
  constructor
  · rintro (member | title | member)
    · exact absurd rfl (above _ member)
    · exact absurd title (by decide)
    · split at member
      · rename_i empty
        exact List.isEmpty_iff.mp empty
      · obtain ⟨entry, -, same⟩ := List.mem_map.mp member
        exact absurd same (fixupRow_ne entry)
  · intro none
    rw [none]
    exact .inr (.inr List.mem_cons_self)

end Catalog

end LuaBindings
