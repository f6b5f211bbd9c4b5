import LuaBindings.Proofs.Project.Running
import LuaBindings.Proofs.Project.Upkeep
/-!
# Undoing a generation

Removing the output after a generation, however that ended, leaves the tree as it was before, less
what had been at or below the output directory and with the directories that had to be made above
it. A file in the way keeps both from doing anything.
-/

namespace LuaBindings

namespace FileTree

/-- Locations at or below the one that a path leads to. Where it leads nowhere, there are none. -/
def AtOrBelow (tree : FileTree) (path : Path) (l : Location) : Prop :=
  ∃ here, tree.locate path = .ok here ∧ here <+: l

/-- Whether a path spells out a file or runs through one. -/
def Obstructed (tree : FileTree) (path : Path) : Prop :=
  ∃ l content, l <+: path.place ∧ tree.get? l = some (.file content)

/-- What a path spells out is a directory if it is there and no file is in the way. -/
theorem isDirectory_place {tree : FileTree} {path : Path} (free : ¬tree.Obstructed path)
    (held : tree.get? path.place ≠ none) : tree.IsDirectory path.place := by
  cases entry : tree.get? path.place with
  | none => exact absurd entry held
  | some found =>
      cases found with
      | directory => exact .inr entry
      | file content => exact absurd ⟨_, content, List.prefix_refl _, entry⟩ free

end FileTree

namespace Project

variable {s : Setting} {tree : FileTree} {l : Location}

/-! ## What a generation changes -/

/-- For a text that the system does not take for a path, nothing is changed. -/
theorem generation_of_not_accepted (nonempty : s.directory.text ≠ "")
    (refused : ¬FileTree.Accepted s.directory) : (s.generation tree).2 = tree := by
  rcases generation_tree s tree with same | ⟨-, text, catalog, -, held, left⟩
  · exact same
  · have fails : ∃ fault, tree.createDirectories s.directory = (.error fault, tree) :=
      FileTree.createDirectories_of_not_accepted nonempty refused
    obtain ⟨fault, failed⟩ := fails
    rw [left, Binding.runWrite_of_error failed]

/-- A generation makes directories above its output directory where none were, and otherwise changes
nothing that does not lie at or below it. -/
theorem generation_direct (direct : s.directory.Direct) (tree : FileTree) (l : Location) :
    (s.generation tree).2.get? l = tree.get? l ∨
      (l <+: s.directory.place ∧ l ≠ s.directory.place ∧ tree.get? l = none ∧
        (s.generation tree).2.get? l = some .directory) ∨
      ((s.generation tree).2.leadsToDirectory s.directory = true ∧ s.directory.place <+: l) := by
  by_cases accepted : FileTree.Accepted s.directory
  · have reaches : ∀ {here}, (s.generation tree).2.walk s.directory = .ok here →
        (s.generation tree).2.IsDirectory here →
        (s.generation tree).2.leadsToDirectory s.directory = true := fun leads isDirectory =>
      FileTree.leadsToDirectory_iff.mpr
        ⟨_, FileTree.locate_eq_ok_iff.mpr ⟨accepted, leads⟩, isDirectory⟩
    rcases generation_altered s tree l with same | altered
    · exact .inl same
    · cases altered with
      | @file directory stem content leads free now =>
          have house : (s.generation tree).2.IsDirectory directory := by
            have housed := FileTree.isDirectory_dropLast (by rw [now]; nofun)
            rwa [List.dropLast_concat] at housed
          refine .inr (.inr ⟨reaches leads house, ?_⟩)
          rw [← FileTree.walk_eq_place direct.noAbove leads]
          exact List.prefix_append _ _
      | @directory _ above free now member leads =>
          have descending := Path.descending_ancestors member direct.noAbove
          have higher : l <+: s.directory.place := by
            rw [FileTree.walk_eq_place descending leads]
            exact Path.place_ancestors member
          by_cases own : l = s.directory.place
          · -- The output directory itself is new.
            have isDirectory : (s.generation tree).2.IsDirectory s.directory.place :=
              .inr (own ▸ now)
            have short : FileTree.Short s.directory.place := by
              rw [← own, FileTree.walk_eq_place descending leads]
              exact FileTree.walk_short descending leads
            refine .inr (.inr ⟨reaches (FileTree.walk_directory direct.noAbove short isDirectory)
              isDirectory, ?_⟩)
            rw [own]
          · exact .inr (.inl ⟨higher, own, free, now⟩)
  · rw [generation_of_not_accepted direct.nonempty accepted]
    exact .inl rfl

/-- A file in the way stays, and so the output directory does not come to be. -/
theorem generation_obstructed (direct : s.directory.Direct) (h : tree.Obstructed s.directory) :
    ¬(s.generation tree).2.leadsToDirectory s.directory = true ∧
      ∀ l, (s.generation tree).2.get? l = tree.get? l := by
  obtain ⟨q, content, onTheWay, file⟩ := h
  have still : ∃ now, (s.generation tree).2.get? q = some (.file now) := by
    rcases generation_altered s tree q with same | altered
    · exact ⟨content, same.trans file⟩
    · exact altered.file_stays file
  obtain ⟨now, stays⟩ := still
  have noDirectory : ¬(s.generation tree).2.IsDirectory q := by
    rintro (root | listed)
    · rw [root, FileTree.get?_root] at file
      cases file
    · rw [show (s.generation tree).2.get? q = _ from listed] at stays
      cases stays
  have nowhere : ¬(s.generation tree).2.leadsToDirectory s.directory = true := by
    intro leads
    obtain ⟨here, located, isDirectory⟩ := FileTree.leadsToDirectory_iff.mp leads
    rw [FileTree.locate_direct direct located] at isDirectory
    exact noDirectory (isDirectory.above onTheWay)
  refine ⟨nowhere, ?_⟩
  intro l
  rcases generation_direct direct tree l with same | ⟨higher, -, free, new⟩ | ⟨leads, -⟩
  · exact same
  · -- A new directory would lie above the file, which is impossible, or below it.
    rcases List.prefix_or_prefix_of_prefix higher onTheWay with above | below
    · have other : l ≠ q := by
        rintro rfl
        rw [free] at file
        cases file
      rcases FileTree.isDirectory_above (by rw [file]; nofun) above other with root | listed
      · rw [root, FileTree.get?_root] at new
        cases new
      · rw [show tree.get? l = _ from listed] at free
        cases free
    · have isDirectory : (s.generation tree).2.IsDirectory l := .inr new
      exact absurd (isDirectory.above below) noDirectory
  · exact absurd leads nowhere

/-! ## What is left in the end -/

theorem cleaned_direct (direct : s.directory.Direct) (leads : tree.leadsToDirectory s.directory = true)
    (below : s.directory.place <+: l) : (cleaned tree s.directory).get? l = none := by
  rw [cleaned_eq, FileTree.removeDirectory_direct direct leads,
    if_pos (List.isPrefixOf_iff_prefix.mpr below)]

theorem cleaned_other (direct : s.directory.Direct)
    (other : ¬(tree.leadsToDirectory s.directory = true ∧ s.directory.place <+: l)) :
    (cleaned tree s.directory).get? l = tree.get? l := by
  rw [cleaned_eq]
  by_cases leads : tree.leadsToDirectory s.directory = true
  · have outside : ¬s.directory.place <+: l := fun below => other ⟨leads, below⟩
    rw [FileTree.removeDirectory_direct direct leads,
      if_neg (mt List.isPrefixOf_iff_prefix.mp outside)]
  · rw [FileTree.removeDirectory_of_not_directory leads]

/-- What a tree comes to when bindings are generated into the directory that a path spells out, and
then the directory is removed. -/
structure Undone (path : Path) (tree generated cleaned : FileTree) : Prop where
  /-- If a file is in the way, neither changes anything. -/
  obstructed : tree.Obstructed path →
    ∀ l, generated.get? l = tree.get? l ∧ cleaned.get? l = tree.get? l
  /-- Otherwise what was at or below the path is gone. -/
  removed : ¬tree.Obstructed path → ∀ l, tree.AtOrBelow path l → cleaned.get? l = none
  /-- All else is as it was, but for directories above that were missing and have been made. -/
  kept : ∀ l, ¬tree.AtOrBelow path l → cleaned.get? l = tree.get? l ∨
    l <+: path.place ∧ l ≠ path.place ∧ tree.get? l = none ∧
      generated.get? l = some .directory ∧ cleaned.get? l = some .directory
  /-- Whatever the generation left above the path stays. -/
  above : ∀ l, l <+: path.place → l ≠ path.place → cleaned.get? l = generated.get? l
  /-- If nothing was there and something was one part up, then all is as it was. -/
  restored : ¬tree.holds path = true → ∀ up, path.parent? = some up → tree.holds up = true →
    ∀ l, cleaned.get? l = tree.get? l

/-- If the output directory is there in the end, whatever was at or below its place before lay where
its path led. -/
theorem atOrBelow_of_held (direct : s.directory.Direct)
    (leads : (s.generation tree).2.leadsToDirectory s.directory = true)
    (below : s.directory.place <+: l) (held : tree.get? l ≠ none) :
    tree.AtOrBelow s.directory l := by
  obtain ⟨here, located, isDirectory⟩ := FileTree.leadsToDirectory_iff.mp leads
  obtain ⟨accepted, walked⟩ := FileTree.locate_eq_ok_iff.mp located
  have place := FileTree.locate_direct direct located
  subst place
  have there : tree.get? s.directory.place ≠ none := by
    by_cases same : s.directory.place = l
    · rw [same]
      exact held
    · exact (FileTree.isDirectory_above held below same).get?_ne_none direct.below
  have notObstructed : ¬tree.Obstructed s.directory := fun file =>
    (generation_obstructed direct file).1 leads
  have wasDirectory := FileTree.isDirectory_place notObstructed there
  have short := FileTree.walk_short direct.noAbove walked
  exact ⟨_, FileTree.locate_eq_ok_iff.mpr
    ⟨accepted, FileTree.walk_directory direct.noAbove short wasDirectory⟩, below⟩

theorem generation_kept (direct : s.directory.Direct) (outside : ¬tree.AtOrBelow s.directory l) :
    (cleaned (s.generation tree).2 s.directory).get? l = tree.get? l ∨
      l <+: s.directory.place ∧ l ≠ s.directory.place ∧ tree.get? l = none ∧
        (s.generation tree).2.get? l = some .directory ∧
        (cleaned (s.generation tree).2 s.directory).get? l = some .directory := by
  by_cases within : (s.generation tree).2.leadsToDirectory s.directory = true ∧
      s.directory.place <+: l
  · left
    rw [cleaned_direct direct within.1 within.2]
    by_contra held
    exact outside (atOrBelow_of_held direct within.1 within.2 (Ne.symm held))
  · rw [cleaned_other direct within]
    rcases generation_direct direct tree l with same | ⟨higher, other, free, new⟩ | taken
    · exact .inl same
    · exact .inr ⟨higher, other, free, new, new⟩
    · exact absurd taken within

/-- If the path one part up leads somewhere, then all that lies above the output directory is
there. -/
theorem held_of_parent {up : Path} (direct : s.directory.Direct)
    (parent : s.directory.parent? = some up) (present : tree.holds up = true)
    (higher : l <+: s.directory.place) (other : l ≠ s.directory.place) (notRoot : l ≠ []) :
    tree.get? l ≠ none := by
  have member : up ∈ s.directory.parents := List.mem_of_mem_head? parent
  cases located : tree.locate up with
  | error fault =>
      rw [FileTree.holds, located] at present
      cases present
  | ok here =>
      obtain ⟨-, walked⟩ := FileTree.locate_eq_ok_iff.mp located
      have place : here = s.directory.place.dropLast := by
        rw [FileTree.walk_eq_place (Path.descending_parents member direct.noAbove) walked]
        exact Path.place_parent parent
      have within : l <+: here := by
        rw [← List.dropLast_append_getLast direct.below] at higher other
        rw [place]
        exact (List.prefix_concat_iff.mp higher).resolve_left other
      have below : here ≠ [] := by
        rintro rfl
        exact notRoot (List.prefix_nil.mp within)
      have held := (FileTree.follow_held (.inl rfl) walked).resolve_left below
      by_cases same : l = here
      · rw [same]
        exact held
      · exact (FileTree.isDirectory_above held within same).get?_ne_none notRoot

/-- Whether a generation succeeds or fails, removing its output undoes it. -/
theorem generation_undone (direct : s.directory.Direct) (tree : FileTree) :
    Undone s.directory tree (s.generation tree).2
      (cleaned (s.generation tree).2 s.directory) where
  obstructed file l := by
    obtain ⟨nowhere, same⟩ := generation_obstructed direct file
    refine ⟨same l, ?_⟩
    rw [cleaned_other direct fun within => nowhere within.1, same]
  removed free l within := by
    obtain ⟨here, located, below⟩ := within
    obtain ⟨accepted, walked⟩ := FileTree.locate_eq_ok_iff.mp located
    have place := FileTree.locate_direct direct located
    subst place
    have held := (FileTree.follow_held (.inl rfl) walked).resolve_left direct.below
    have isDirectory := FileTree.isDirectory_place free held
    have grows := generation_grows s tree
    have still : (s.generation tree).2.locate s.directory = .ok s.directory.place :=
      FileTree.locate_eq_ok_iff.mpr ⟨accepted, grows.follow walked⟩
    exact cleaned_direct direct
      (FileTree.leadsToDirectory_iff.mpr ⟨_, still, grows.isDirectory isDirectory⟩) below
  kept l outside := generation_kept direct outside
  above l higher other := by
    refine cleaned_other direct fun within => other ?_
    exact higher.eq_of_length_le within.2.length_le
  restored missing up parent present l := by
    have outside : ¬tree.AtOrBelow s.directory l := by
      rintro ⟨here, located, -⟩
      rw [FileTree.holds, located] at missing
      exact missing rfl
    rcases generation_kept direct outside with same | ⟨higher, other, free, new, -⟩
    · exact same
    · -- Whatever lies above the output directory was there together with the parent.
      have notRoot : l ≠ [] := by
        rintro rfl
        rw [FileTree.get?_root] at new
        cases new
      exact absurd free (held_of_parent direct parent present higher other notRoot)

/-- A file of one's own, and a directory in the way of the second file of bindings. -/
def usedTree : FileTree :=
  let tree := twoTree.put ["lua"] "own.lua" (.file .empty) twoTree_isDirectory (by decide +kernel)
  tree.put ["lua"] "N.lua" .directory (by decide +kernel) (by decide +kernel)

/-- The generation fails at the second file. -/
theorem generation_undone_used :
    (generationInto "lua" .none).directory.Direct ∧
      ((generationInto "lua" .none).generation usedTree).2.get? ["lua", "M.lua"] ≠ none ∧
      Undone ⟨"/lua"⟩ usedTree ((generationInto "lua" .none).generation usedTree).2
        (cleaned ((generationInto "lua" .none).generation usedTree).2 ⟨"/lua"⟩) ∧
      (cleaned ((generationInto "lua" .none).generation usedTree).2 ⟨"/lua"⟩).get? ["lua"] = none := by
  have direct : (generationInto "lua" .none).directory.Direct :=
    ⟨by decide, by decide, by decide⟩
  exact ⟨direct, by decide +kernel, generation_undone direct usedTree, by decide +kernel⟩

end Project

end LuaBindings
