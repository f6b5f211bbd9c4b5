import LuaBindings.FileTree.Operations
import LuaBindings.Proofs.Except
import LuaBindings.Proofs.Path
/-!
# Following paths

What it takes for a path to lead somewhere, part by part, and that it still leads there in a tree
that has grown.
-/

namespace LuaBindings.FileTree

variable {tree grown : FileTree} {here there next : Location} {part : String}

/-! ## One part -/

/-- Where a part leads from a directory. -/
inductive Step (tree : FileTree) (here : Location) : String → Location → Prop
  | same {part : String} (h : part = "" ∨ part = ".") : Step tree here part here
  | above : Step tree here ".." here.dropLast
  | entry {part : String} (nonempty : part ≠ "") (notSame : part ≠ ".") (notAbove : part ≠ "..")
      (short : part.utf8ByteSize ≤ maxNameSize) (held : tree.get? (here ++ [part]) ≠ none) :
      Step tree here part (here ++ [part])

/-- A part that leads somewhere is looked up in a directory, and the other parts lead on from
there. -/
theorem follow_cons_eq_ok_iff {parts : List String} :
    tree.follow here (part :: parts) = .ok there ↔
      ∃ next, tree.IsDirectory here ∧ Step tree here part next ∧
        tree.follow next parts = .ok there := by
  rw [follow]
  constructor
  · intro h
    split at h
    · cases h
    · rename_i directory
      rw [not_not] at directory
      split at h
      · rename_i void
        exact ⟨here, directory, .same void, h⟩
      · rename_i notVoid
        rw [not_or] at notVoid
        split at h
        · rename_i above
          subst above
          exact ⟨here.dropLast, directory, .above, h⟩
        · rename_i notAbove
          split at h
          · cases h
          · rename_i short
            split at h
            · cases h
            · rename_i held
              exact ⟨here ++ [part], directory,
                .entry notVoid.1 notVoid.2 notAbove (Nat.not_lt.mp short) held, h⟩
  · rintro ⟨next, directory, step, later⟩
    rw [if_neg (not_not.mpr directory)]
    cases step with
    | same void => rw [if_pos void, later]
    | above => rw [if_neg (by decide), if_pos rfl, later]
    | entry nonempty notSame notAbove short held =>
        rw [if_neg (not_or.mpr ⟨nonempty, notSame⟩), if_neg notAbove, if_neg (Nat.not_lt.mpr short),
          if_neg held, later]

theorem Step.eq_of_void (h : Step tree here part next) (void : part = "") : next = here := by
  cases h with
  | same => rfl
  | above => exact absurd void (by decide)
  | entry nonempty => exact absurd void nonempty

/-! ## Several parts -/

theorem follow_append_eq_ok_iff {parts more : List String} :
    tree.follow here (parts ++ more) = .ok there ↔
      ∃ next, tree.follow here parts = .ok next ∧ tree.follow next more = .ok there := by
  induction parts generalizing here with
  | nil =>
      constructor
      · intro h
        exact ⟨here, rfl, h⟩
      · rintro ⟨next, reached, h⟩
        cases reached
        exact h
  | cons part rest ih =>
      rw [List.cons_append, follow_cons_eq_ok_iff]
      constructor
      · rintro ⟨next, directory, step, h⟩
        obtain ⟨middle, before, after⟩ := ih.mp h
        exact ⟨middle, follow_cons_eq_ok_iff.mpr ⟨next, directory, step, before⟩, after⟩
      · rintro ⟨middle, before, after⟩
        obtain ⟨next, directory, step, h⟩ := follow_cons_eq_ok_iff.mp before
        exact ⟨next, directory, step, ih.mpr ⟨middle, h, after⟩⟩

/-- A directory is led to by its own path however many separators end it. -/
theorem follow_void {parts : List String} (voids : ∀ part ∈ parts, part = "")
    (directory : tree.IsDirectory here) : tree.follow here parts = .ok here := by
  induction parts with
  | nil => rfl
  | cons part rest ih =>
      rw [List.forall_mem_cons] at voids
      exact follow_cons_eq_ok_iff.mpr ⟨here, directory, .same (.inl voids.1), ih voids.2⟩

/-- Empty parts lead nowhere else. -/
theorem follow_voids {parts : List String} (voids : ∀ part ∈ parts, part = "")
    (h : tree.follow here parts = .ok there) : there = here := by
  induction parts generalizing here with
  | nil =>
      cases h
      rfl
  | cons part rest ih =>
      rw [List.forall_mem_cons] at voids
      obtain ⟨next, -, step, later⟩ := follow_cons_eq_ok_iff.mp h
      rw [ih voids.2 later, step.eq_of_void voids.1]

/-! ## Growth -/

/-- What was a directory still is one, and what was there still is. -/
structure Grows (tree grown : FileTree) : Prop where
  directories : ∀ l, tree.get? l = some .directory → grown.get? l = some .directory
  entries : ∀ l, tree.get? l ≠ none → grown.get? l ≠ none

theorem Grows.refl (tree : FileTree) : Grows tree tree := ⟨fun _ h => h, fun _ h => h⟩

theorem Grows.trans {a b c : FileTree} (hab : Grows a b) (hbc : Grows b c) : Grows a c where
  directories l h := hbc.directories l (hab.directories l h)
  entries l h := hbc.entries l (hab.entries l h)

theorem Grows.of_get?_eq (same : ∀ l, grown.get? l = tree.get? l) : Grows tree grown where
  directories l h := by rw [same, h]
  entries l h := by rwa [same]

theorem Grows.isDirectory (grows : Grows tree grown) (h : tree.IsDirectory here) :
    grown.IsDirectory here :=
  h.imp_right (grows.directories here)

theorem Grows.step (grows : Grows tree grown) (h : Step tree here part next) :
    Step grown here part next := by
  cases h with
  | same void => exact .same void
  | above => exact .above
  | entry nonempty notSame notAbove short held =>
      exact .entry nonempty notSame notAbove short (grows.entries _ held)

/-- A path leads to where it led before. -/
theorem Grows.follow (grows : Grows tree grown) {parts : List String}
    (h : tree.follow here parts = .ok there) : grown.follow here parts = .ok there := by
  induction parts generalizing here with
  | nil => exact h
  | cons part rest ih =>
      obtain ⟨next, directory, step, later⟩ := follow_cons_eq_ok_iff.mp h
      exact follow_cons_eq_ok_iff.mpr
        ⟨next, grows.isDirectory directory, grows.step step, ih later⟩

/-! ## Above an entry -/

theorem get?_root (tree : FileTree) : tree.get? [] = none := by
  by_contra held
  exact (tree.housed [] held).1 rfl

/-- Whatever is there lies below directories only. -/
theorem isDirectory_above {up : Location} (held : tree.get? here ≠ none) (higher : up <+: here)
    (differs : up ≠ here) : tree.IsDirectory up := by
  induction here using List.reverseRecOn with
  | nil => exact absurd (List.prefix_nil.mp higher) differs
  | append_singleton house name ih =>
      have housed := isDirectory_dropLast held
      rw [List.dropLast_concat] at housed
      have within : up <+: house := (List.prefix_concat_iff.mp higher).resolve_left differs
      by_cases same : up = house
      · rw [same]
        exact housed
      · rcases housed with root | listed
        · rw [root] at within same
          exact absurd (List.prefix_nil.mp within) same
        · apply ih _ within same
          rw [show tree.get? house = _ from listed]
          exact Option.some_ne_none _

theorem IsDirectory.above {up : Location} (h : tree.IsDirectory here) (higher : up <+: here) :
    tree.IsDirectory up := by
  by_cases same : up = here
  · rw [same]
    exact h
  · rcases h with root | listed
    · rw [root] at higher same
      exact absurd (List.prefix_nil.mp higher) same
    · apply isDirectory_above _ higher same
      rw [show tree.get? here = _ from listed]
      exact Option.some_ne_none _

theorem IsDirectory.get?_ne_none (h : tree.IsDirectory here) (below : here ≠ []) :
    tree.get? here ≠ none := by
  rw [show tree.get? here = _ from h.resolve_left below]
  exact Option.some_ne_none _

/-- Where a path leads, something is. -/
theorem follow_held {parts : List String} (held : here = [] ∨ tree.get? here ≠ none)
    (h : tree.follow here parts = .ok there) : there = [] ∨ tree.get? there ≠ none := by
  induction parts generalizing here with
  | nil =>
      cases h
      exact held
  | cons part rest ih =>
      obtain ⟨next, isDirectory, step, later⟩ := follow_cons_eq_ok_iff.mp h
      refine ih ?_ later
      cases step with
      | same void => exact held
      | above =>
          have up : tree.IsDirectory here.dropLast := isDirectory.above (List.dropLast_prefix here)
          by_cases root : here.dropLast = []
          · exact .inl root
          · exact .inr (up.get?_ne_none root)
      | entry nonempty notSame notAbove short found => exact .inr found

/-! ## Whole paths -/

/-- A text that the system takes for a path. -/
structure Accepted (path : Path) : Prop where
  noNul : '\x00' ∉ path.text.toList
  nonempty : path.text ≠ ""
  short : path.text.utf8ByteSize ≤ maxPathSize

theorem partsOf_eq_ok_iff {path : Path} {parts : List String} :
    partsOf path = .ok parts ↔ Accepted path ∧ parts = path.parts.map String.ofList := by
  rw [partsOf]
  constructor
  · intro h
    split at h
    · cases h
    · rename_i noNul
      split at h
      · cases h
      · rename_i nonempty
        split at h
        · cases h
        · rename_i short
          cases h
          exact ⟨⟨by simpa using noNul, nonempty, Nat.not_lt.mp short⟩, rfl⟩
  · rintro ⟨⟨noNul, nonempty, short⟩, rfl⟩
    rw [if_neg (by simpa using noNul), if_neg nonempty, if_neg (Nat.not_lt.mpr short)]

/-- Where the parts of a path lead by themselves. The empty path leads to the root. -/
def walk (tree : FileTree) (path : Path) : Except FileFault Location :=
  tree.follow [] (path.parts.map String.ofList)

theorem locate_eq_ok_iff {path : Path} :
    tree.locate path = .ok there ↔ Accepted path ∧ tree.walk path = .ok there := by
  rw [locate, bind_eq_ok]
  constructor
  · rintro ⟨parts, split, h⟩
    obtain ⟨accepted, rfl⟩ := partsOf_eq_ok_iff.mp split
    exact ⟨accepted, h⟩
  · rintro ⟨accepted, h⟩
    exact ⟨_, partsOf_eq_ok_iff.mpr ⟨accepted, rfl⟩, h⟩

theorem leadsToDirectory_iff {path : Path} :
    tree.leadsToDirectory path = true ↔
      ∃ l, tree.locate path = .ok l ∧ tree.IsDirectory l := by
  rw [leadsToDirectory]
  cases tree.locate path with
  | error fault => simp
  | ok l => simp

theorem isFile_iff {path : Path} :
    tree.isFile path = true ↔
      ∃ l content, tree.locate path = .ok l ∧ tree.get? l = some (.file content) := by
  rw [isFile]
  cases located : tree.locate path with
  | error fault => simp
  | ok l =>
      have held := follow_held (.inl rfl) (locate_eq_ok_iff.mp located).2
      show (!decide (tree.IsDirectory l)) = true ↔ _
      rw [Bool.not_eq_true', decide_eq_false_iff_not, isDirectory_iff, not_or]
      constructor
      · rintro ⟨below, notDirectory⟩
        obtain ⟨entry, found⟩ := Option.ne_none_iff_exists'.mp (held.resolve_left below)
        cases entry with
        | directory => exact absurd found notDirectory
        | file content => exact ⟨l, content, rfl, found⟩
      · rintro ⟨l', content, same, found⟩
        cases same
        refine ⟨?_, by rw [found]; nofun⟩
        rintro rfl
        rw [get?_root] at found
        cases found

theorem walk_empty {path : Path} (empty : path.text = "") : tree.walk path = .ok [] := by
  have parts : path.parts = [[]] := by
    rw [Path.parts, empty]
    rfl
  rw [walk, parts]
  exact follow_void (by simp) (.inl rfl)

/-- The directory that a joined path is looked up from is the one that the path before it leads
to. -/
theorem join_follow (path : Path) {part : Path} (relative : part.isAbsolute = false) :
    ∃ before, (path.join part).parts.map String.ofList = before ++ part.parts.map String.ofList ∧
      ∀ {tree : FileTree} {there : Location}, tree.IsDirectory there →
        (tree.follow [] before = .ok there ↔ tree.walk path = .ok there) := by
  obtain ⟨before, joined, own⟩ := path.parts_join relative
  refine ⟨before.map String.ofList, by simp [joined], ?_⟩
  intro tree there isDirectory
  rw [walk]
  rcases own with own | own
  · rw [own]
  · -- The path ends with a separator; the empty part behind it leads nowhere else.
    rw [own, List.map_append, follow_append_eq_ok_iff]
    constructor
    · intro h
      exact ⟨there, h, follow_void (by simp) isDirectory⟩
    · rintro ⟨next, h, last⟩
      rw [follow_voids (by simp) last]
      exact h

theorem parts_join_follow {name : String} (plain : Path.PlainName name) (path : Path) :
    ∃ before, (path.join ⟨name⟩).parts.map String.ofList = before ++ [name] ∧
      ∀ {tree : FileTree} {there : Location}, tree.IsDirectory there →
        (tree.follow [] before = .ok there ↔ tree.walk path = .ok there) := by
  obtain ⟨before, joined, walked⟩ := join_follow path plain.relative
  refine ⟨before, ?_, walked⟩
  rw [joined, plain.parts]
  simp

/-- Only from a directory does a joined path lead anywhere. -/
theorem walk_of_join {path part : Path} (relative : part.isAbsolute = false)
    (h : tree.walk (path.join part) = .ok there) :
    ∃ directory, tree.walk path = .ok directory ∧ tree.IsDirectory directory := by
  obtain ⟨before, joined, walked⟩ := join_follow path relative
  rw [walk, joined, follow_append_eq_ok_iff] at h
  obtain ⟨directory, reached, later⟩ := h
  obtain ⟨first, others, split⟩ := List.exists_cons_of_ne_nil (Path.divide_ne_nil part.text.toList)
  rw [Path.parts, split, List.map_cons] at later
  obtain ⟨next, isDirectory, -, -⟩ := follow_cons_eq_ok_iff.mp later
  exact ⟨directory, (walked isDirectory).mp reached, isDirectory⟩

/-- A joined name leads to the entry of that name. -/
theorem walk_join_eq_ok_iff {name : String} (plain : Path.PlainName name) {path : Path} :
    tree.walk (path.join ⟨name⟩) = .ok there ↔
      ∃ directory, tree.walk path = .ok directory ∧ tree.IsDirectory directory ∧
        name.utf8ByteSize ≤ maxNameSize ∧ there = directory ++ [name] ∧ tree.get? there ≠ none := by
  obtain ⟨before, joined, walked⟩ := parts_join_follow plain path
  rw [walk, joined, follow_append_eq_ok_iff]
  constructor
  · rintro ⟨directory, reached, last⟩
    obtain ⟨next, isDirectory, step, ended⟩ := follow_cons_eq_ok_iff.mp last
    cases ended
    cases step with
    | same void => exact absurd void (not_or.mpr ⟨plain.nonempty, plain.notSame⟩)
    | above => exact absurd rfl plain.notAbove
    | entry nonempty notSame notAbove short held =>
        exact ⟨directory, (walked isDirectory).mp reached, isDirectory, short, rfl, held⟩
  · rintro ⟨directory, leads, isDirectory, short, rfl, held⟩
    refine ⟨directory, (walked isDirectory).mpr leads, ?_⟩
    exact follow_cons_eq_ok_iff.mpr ⟨_, isDirectory,
      .entry plain.nonempty plain.notSame plain.notAbove short held, rfl⟩

end LuaBindings.FileTree
