import LuaBindings.OrderedMap
import Mathlib.Data.List.Basic
import Mathlib.Data.List.Induction
/-!
# What an ordered map keeps

Of entries that are inserted one after another, a map keeps each key once: at the place where it
first stands, with the value that stands under it last.
-/

namespace LuaBindings

variable {α β : Type}

/-! ## Look-up -/

theorem lookup_cons_eq (key k : String) (v : α) (rest : List (String × α)) :
    ((k, v) :: rest).lookup key = if key = k then some v else rest.lookup key := by
  rw [List.lookup_cons]
  by_cases same : key = k
  · rw [if_pos same, beq_iff_eq.mpr same]
  · rw [if_neg same, beq_eq_false_iff_ne.mpr same]

theorem lookup_upsert (key other : String) (value : α) (entries : List (String × α)) :
    (upsert key value entries).lookup other =
      if other = key then some value else entries.lookup other := by
  induction entries with
  | nil => exact lookup_cons_eq other key value []
  | cons entry rest ih =>
      obtain ⟨k, v⟩ := entry
      unfold upsert
      by_cases replaced : k = key
      · rw [if_pos replaced, lookup_cons_eq, lookup_cons_eq, replaced]
        by_cases same : other = key
        · rw [if_pos same, if_pos same]
        · rw [if_neg same, if_neg same, if_neg same]
      · rw [if_neg replaced, lookup_cons_eq, lookup_cons_eq, ih]
        by_cases same : other = key
        · have different : ¬other = k := fun h => replaced (h.symm.trans same)
          rw [if_neg different, if_pos same]
          rw [if_pos same]
        · rw [if_neg same, if_neg same]

theorem lookup_map (f : α → β) (key : String) (entries : List (String × α)) :
    (entries.map fun entry => (entry.1, f entry.2)).lookup key = (entries.lookup key).map f := by
  induction entries with
  | nil => rfl
  | cons entry rest ih =>
      obtain ⟨k, v⟩ := entry
      rw [List.map_cons, lookup_cons_eq, lookup_cons_eq, ih]
      by_cases same : key = k
      · rw [if_pos same, if_pos same]
        rfl
      · rw [if_neg same, if_neg same]

/-- Entries under distinct keys are known from their keys and the values under them. -/
theorem filterMap_lookup {entries : List (String × α)}
    (distinct : (entries.map Prod.fst).Nodup) :
    (entries.map Prod.fst).filterMap (fun key => (entries.lookup key).map (key, ·)) = entries := by
  induction entries with
  | nil => rfl
  | cons entry rest ih =>
      obtain ⟨k, v⟩ := entry
      rw [List.map_cons, List.nodup_cons] at distinct
      have others : (rest.map Prod.fst).filterMap
          (fun key => (((k, v) :: rest).lookup key).map (key, ·)) = rest := by
        refine Eq.trans (List.filterMap_congr ?_) (ih distinct.2)
        intro key member
        have different : ¬key = k := fun h => distinct.1 (h ▸ member)
        rw [lookup_cons_eq, if_neg different]
      rw [List.map_cons, List.filterMap_cons, others, lookup_cons_eq, if_pos rfl]
      rfl

/-! ## Survivors -/

/-- Each key once, where it first stands, with the value that stands under it last. -/
def survivors (entries : List (String × α)) : List (String × α) :=
  (entries.map Prod.fst).eraseDups.filterMap fun key =>
    (entries.reverse.lookup key).map (key, ·)

namespace OrderedMap

theorem ofList_concat (entries : List (String × α)) (entry : String × α) :
    ofList (entries ++ [entry]) = (ofList entries).insert entry.1 entry.2 := by
  unfold ofList
  rw [List.foldl_append]
  rfl

theorem keys_ofList (entries : List (String × α)) :
    (ofList entries).entries.map Prod.fst = (entries.map Prod.fst).eraseDups := by
  -- From the end: the last entry is the one inserted last.
  induction entries using List.reverseRecOn with
  | nil => rfl
  | append_singleton entries entry ih =>
      rw [ofList_concat, entries_insert, map_fst_upsert, ih, List.map_append, List.eraseDups_append]
      by_cases held : entry.1 ∈ entries.map Prod.fst
      · rw [if_pos (List.mem_eraseDups.mpr held)]
        simp [List.removeAll, held]
      · rw [if_neg (fun h => held (List.mem_eraseDups.mp h))]
        simp [List.removeAll, held, List.eraseDups_cons]

theorem lookup_ofList (entries : List (String × α)) (key : String) :
    (ofList entries).entries.lookup key = entries.reverse.lookup key := by
  induction entries using List.reverseRecOn with
  | nil => rfl
  | append_singleton entries entry ih =>
      rw [ofList_concat, entries_insert, lookup_upsert, ih, List.reverse_append]
      exact (lookup_cons_eq key entry.1 entry.2 entries.reverse).symm

/-- A map of some entries holds their survivors. -/
theorem entries_ofList_eq (entries : List (String × α)) :
    (ofList entries).entries = survivors entries := by
  have whole := filterMap_lookup (ofList entries).distinct
  rw [keys_ofList] at whole
  simp only [lookup_ofList] at whole
  exact whole.symm

end OrderedMap

theorem survivors_keys (entries : List (String × α)) :
    (survivors entries).map Prod.fst = (entries.map Prod.fst).eraseDups := by
  rw [← OrderedMap.entries_ofList_eq, OrderedMap.keys_ofList]

/-- No key survives twice. -/
theorem survivors_nodup (entries : List (String × α)) :
    ((survivors entries).map Prod.fst).Nodup := by
  rw [← OrderedMap.entries_ofList_eq]
  exact (OrderedMap.ofList entries).distinct

/-- An entry survives exactly when no later one stands under its key. -/
theorem mem_survivors_iff {entries : List (String × α)} {key : String} {value : α} :
    (key, value) ∈ survivors entries ↔
      ∃ before after, entries = before ++ (key, value) :: after ∧ key ∉ after.map Prod.fst := by
  unfold survivors
  rw [List.mem_filterMap]
  constructor
  · rintro ⟨k, -, found⟩
    rw [Option.map_eq_some_iff] at found
    obtain ⟨v, found, same⟩ := found
    cases same
    obtain ⟨after, before, split, none⟩ := List.lookup_eq_some_iff.mp found
    refine ⟨before.reverse, after.reverse, ?_, ?_⟩
    · rw [← List.reverse_reverse entries, split, List.reverse_append, List.reverse_cons,
        List.append_assoc]
      rfl
    · intro member
      obtain ⟨entry, held, same⟩ := List.mem_map.mp member
      exact bne_iff_ne.mp (none entry (List.mem_reverse.mp held)) same.symm
  · rintro ⟨before, after, rfl, last⟩
    refine ⟨key, List.mem_eraseDups.mpr (by simp), ?_⟩
    have found : (before ++ (key, value) :: after).reverse.lookup key = some value := by
      refine List.lookup_eq_some_iff.mpr ⟨after.reverse, before.reverse, by simp, ?_⟩
      intro entry member
      refine bne_iff_ne.mpr fun same => last ?_
      exact List.mem_map.mpr ⟨entry, List.mem_reverse.mp member, same.symm⟩
    rw [found]
    rfl

/-- Values may be changed before or after. -/
theorem survivors_map (f : α → β) (entries : List (String × α)) :
    survivors (entries.map fun entry => (entry.1, f entry.2)) =
      (survivors entries).map fun entry => (entry.1, f entry.2) := by
  unfold survivors
  rw [List.map_filterMap, List.map_map]
  refine List.filterMap_congr fun key _ => ?_
  rw [← List.map_reverse, lookup_map, Option.map_map, Option.map_map]
  rfl

end LuaBindings
