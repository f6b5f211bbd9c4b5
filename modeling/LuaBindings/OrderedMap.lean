/-!
# Ordered maps

Values under distinct keys, in the order in which the keys were first inserted. Inserting under a
key that is there replaces its value and keeps its place.
-/

namespace LuaBindings

variable {α : Type}

/-- Entries with one under `key`: in place of the old one, or else at the end. -/
def upsert (key : String) (value : α) : List (String × α) → List (String × α)
  | [] => [(key, value)]
  | (k, v) :: rest => if k = key then (key, value) :: rest else (k, v) :: upsert key value rest

theorem map_fst_upsert (key : String) (value : α) (entries : List (String × α)) :
    (upsert key value entries).map Prod.fst =
      if key ∈ entries.map Prod.fst then entries.map Prod.fst
      else entries.map Prod.fst ++ [key] := by
  induction entries with
  | nil => simp [upsert]
  | cons entry rest ih =>
    obtain ⟨k, v⟩ := entry
    by_cases h : k = key
    · simp [upsert, h]
    · have h' : ¬key = k := fun e => h e.symm
      simp only [upsert, h, if_false, List.map_cons, ih, List.mem_cons, h', false_or]
      split <;> simp

/-- Values under distinct keys in the order of first insertion. -/
structure OrderedMap (α : Type) where
  entries : List (String × α)
  /-- No key stands twice. -/
  distinct : (entries.map Prod.fst).Nodup

namespace OrderedMap

/-- The map without entries. -/
def empty : OrderedMap α := ⟨[], by simp⟩

/-- The map with a value under `key`. -/
def insert (map : OrderedMap α) (key : String) (value : α) : OrderedMap α where
  entries := upsert key value map.entries
  distinct := by
    rw [map_fst_upsert]
    split
    · exact map.distinct
    · rename_i absent
      rw [List.nodup_append]
      refine ⟨map.distinct, by simp, ?_⟩
      intro k hk k' hk' same
      rw [List.mem_singleton] at hk'
      exact absent (hk' ▸ same ▸ hk)

/-- The map of some entries, inserted one after another. -/
def ofList (entries : List (String × α)) : OrderedMap α :=
  entries.foldl (fun map entry => map.insert entry.1 entry.2) empty

@[simp] theorem entries_empty : (empty : OrderedMap α).entries = [] := rfl

@[simp] theorem entries_insert (map : OrderedMap α) (key : String) (value : α) :
    (map.insert key value).entries = upsert key value map.entries := rfl

end OrderedMap

end LuaBindings
