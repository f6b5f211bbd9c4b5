/-!
# File trees

A file tree holds files and directories under a root that is always there. What it holds is seen
through `FileTree.get?`; every entry lies in a directory of the tree, and the three changes below
keep it so. A location is the list of names that lead to it from the root.

A tree is less than a file system. It has no symbolic links and no hard links, so that every file has
one place; no permissions and no owners, so that no request is refused for want of a right; and no
limit of space. Names are texts, so that those that are not UTF-8 are left out.
-/

namespace LuaBindings

/-- The names that lead from the root to an entry. -/
abbrev Location := List String

/-- What a tree holds at a location. -/
inductive Entry where
  | directory
  | file (content : ByteArray)

instance : DecidableEq Entry
  | .directory, .directory => isTrue rfl
  | .directory, .file _ => isFalse nofun
  | .file _, .directory => isFalse nofun
  | .file content, .file other =>
    @decidable_of_iff _ (content = other) (by simp) (ByteArray.instDecidableEq content other)

/-- The entry that a list of places has for a location; the first one counts. -/
def lookupEntry (places : List (Location × Entry)) (location : Location) : Option Entry :=
  (places.find? fun place => place.1 = location).map Prod.snd

/-- Whether a list of places has a directory at a location. The root is one in any case. -/
def HasDirectory (places : List (Location × Entry)) (location : Location) : Prop :=
  location = [] ∨ lookupEntry places location = some .directory

instance (places : List (Location × Entry)) (location : Location) :
    Decidable (HasDirectory places location) := inferInstanceAs (Decidable (_ ∨ _))

/-- Files and directories below a root. -/
structure FileTree where
  places : List (Location × Entry)
  /-- The root is not listed, and what is listed lies in a directory. -/
  housed : ∀ location, lookupEntry places location ≠ none →
    location ≠ [] ∧ HasDirectory places location.dropLast

namespace FileTree

/-- What the tree holds at a location other than the root. -/
def get? (tree : FileTree) (location : Location) : Option Entry :=
  lookupEntry tree.places location

/-- Whether the location is the root or that of a directory. -/
def IsDirectory (tree : FileTree) (location : Location) : Prop :=
  HasDirectory tree.places location

instance (tree : FileTree) (location : Location) : Decidable (tree.IsDirectory location) :=
  inferInstanceAs (Decidable (HasDirectory _ _))

/-- The tree with nothing but its root. -/
def empty : FileTree := ⟨[], by simp [lookupEntry]⟩

/-! ## Changes -/

theorem lookupEntry_cons (place : Location × Entry) (places : List (Location × Entry))
    (location : Location) :
    lookupEntry (place :: places) location =
      if location = place.1 then some place.2 else lookupEntry places location := by
  by_cases h : place.1 = location
  · simp [lookupEntry, h]
  · have h' : ¬location = place.1 := fun e => h e.symm
    simp [lookupEntry, h, h']

theorem lookupEntry_filter (keep : Location → Bool) (places : List (Location × Entry))
    (location : Location) :
    lookupEntry (places.filter fun place => keep place.1) location =
      if keep location then lookupEntry places location else none := by
  induction places with
  | nil => simp [lookupEntry]
  | cons place rest ih =>
    rw [List.filter_cons, lookupEntry_cons]
    split
    · rename_i kept
      rw [lookupEntry_cons, ih]
      by_cases hl : location = place.1
      · simp [hl, kept]
      · simp [hl]
    · rename_i dropped
      rw [ih]
      by_cases hl : location = place.1
      · simp [hl, dropped]
      · simp [hl]

/-- Places with another entry at a location. -/
def setEntry (location : Location) (entry : Entry) (places : List (Location × Entry)) :
    List (Location × Entry) :=
  (location, entry) :: places.filter fun place => place.1 ≠ location

theorem lookupEntry_setEntry (location : Location) (entry : Entry)
    (places : List (Location × Entry)) (other : Location) :
    lookupEntry (setEntry location entry places) other =
      if other = location then some entry else lookupEntry places other := by
  rw [setEntry, lookupEntry_cons, lookupEntry_filter (fun l => decide (l ≠ location))]
  by_cases h : other = location <;> simp [h]

/-- The tree with an entry at a location in one of its directories that is not a directory
itself. -/
def insert (tree : FileTree) (location : Location) (entry : Entry) (below : location ≠ [])
    (parent : tree.IsDirectory location.dropLast) (free : ¬tree.IsDirectory location) :
    FileTree where
  places := setEntry location entry tree.places
  housed := by
    intro other held
    have keeps : ∀ l, tree.IsDirectory l → HasDirectory (setEntry location entry tree.places) l := by
      intro l hl
      have differs : l ≠ location := fun e => free (e ▸ hl)
      cases hl with
      | inl root => exact .inl root
      | inr listed =>
        refine .inr ?_
        rw [lookupEntry_setEntry, if_neg differs]
        exact listed
    rw [lookupEntry_setEntry] at held
    by_cases h : other = location
    · exact ⟨h ▸ below, h ▸ keeps _ parent⟩
    · rw [if_neg h] at held
      obtain ⟨nonempty, house⟩ := tree.housed other held
      exact ⟨nonempty, keeps _ house⟩

/-- The tree without the entries at some locations, which must take along whatever lies in them. -/
def discard (tree : FileTree) (drop : Location → Bool)
    (whole : ∀ location, location ≠ [] → drop location.dropLast → drop location) : FileTree where
  places := tree.places.filter fun place => !drop place.1
  housed := by
    intro location held
    rw [lookupEntry_filter (fun l => !drop l)] at held
    split at held
    · rename_i kept
      obtain ⟨nonempty, house⟩ := tree.housed location held
      refine ⟨nonempty, ?_⟩
      cases house with
      | inl root => exact .inl root
      | inr listed =>
        refine .inr ?_
        rw [lookupEntry_filter (fun l => !drop l), if_pos, listed]
        have above := whole location nonempty
        cases hd : drop location.dropLast with
        | false => rfl
        | true => simp [above hd] at kept
    · exact absurd rfl held

theorem isPrefixOf_of_dropLast {above location : Location} (h : above.isPrefixOf location.dropLast) :
    above.isPrefixOf location := by
  rw [List.isPrefixOf_iff_prefix] at h ⊢
  exact h.trans (List.dropLast_prefix location)

/-- The tree without what lies at or below a location. -/
def erase (tree : FileTree) (location : Location) : FileTree :=
  tree.discard (location.isPrefixOf ·) fun _ _ h => isPrefixOf_of_dropLast h

/-- The tree without what lies below a location. -/
def clear (tree : FileTree) (location : Location) : FileTree :=
  tree.discard (fun other => location.isPrefixOf other && other ≠ location) fun other nonempty h => by
    simp only [Bool.and_eq_true, decide_eq_true_eq] at h ⊢
    refine ⟨isPrefixOf_of_dropLast h.1, ?_⟩
    have longer := (List.isPrefixOf_iff_prefix.1 h.1).length_le
    have positive := List.length_pos_iff.2 nonempty
    rw [List.length_dropLast] at longer
    intro same
    rw [same] at longer positive
    omega

@[simp] theorem get?_empty (location : Location) : empty.get? location = none := rfl

@[simp] theorem get?_insert (tree : FileTree) (location : Location) (entry : Entry) (below parent
    free) (other : Location) :
    (tree.insert location entry below parent free).get? other =
      if other = location then some entry else tree.get? other :=
  lookupEntry_setEntry _ _ _ _

@[simp] theorem get?_erase (tree : FileTree) (location other : Location) :
    (tree.erase location).get? other =
      if location.isPrefixOf other then none else tree.get? other := by
  simp only [erase, discard, get?]
  rw [lookupEntry_filter (fun l => !location.isPrefixOf l)]
  cases location.isPrefixOf other <;> rfl

@[simp] theorem get?_clear (tree : FileTree) (location other : Location) :
    (tree.clear location).get? other =
      if location.isPrefixOf other && other ≠ location then none else tree.get? other := by
  simp only [clear, discard, get?]
  rw [lookupEntry_filter (fun l => !(location.isPrefixOf l && decide (l ≠ location)))]
  cases location.isPrefixOf other && decide (other ≠ location) <;> rfl

theorem isDirectory_iff (tree : FileTree) (location : Location) :
    tree.IsDirectory location ↔ location = [] ∨ tree.get? location = some .directory :=
  .rfl

/-- What a tree holds lies in one of its directories. -/
theorem isDirectory_dropLast {tree : FileTree} {location : Location}
    (h : tree.get? location ≠ none) : tree.IsDirectory location.dropLast :=
  (tree.housed location h).2

end FileTree

end LuaBindings
