import LuaBindings.Proofs.FileTree.Slots
/-!
# Changes to file trees

What a request leaves behind. Writing a file changes the one entry that its path names, and making
directories adds directories and nothing else, each of them led to by a path above the one asked
for. Either way a path leads to where it led before.
-/

namespace LuaBindings.FileTree

variable {tree changed made : FileTree} {path : Path} {directory : Location} {name : String}

/-! ## Writing files -/

theorem putFile_eq_ok {content : ByteArray}
    (h : tree.putFile directory name content = .ok changed) :
    name.utf8ByteSize ≤ maxNameSize ∧ ¬tree.IsDirectory (directory ++ [name]) ∧
      ∀ l, changed.get? l =
        if l = directory ++ [name] then some (.file content) else tree.get? l := by
  rw [putFile] at h
  split at h
  · cases h
  · rename_i short
    split at h
    · split at h
      · cases h
      · rename_i free
        cases h
        exact ⟨Nat.not_lt.mp short, free, get?_insert _ _ _ _ _ _⟩
    · cases h

/-- A tree with a file of that name in the directory that a path leads to, and otherwise as it
was. -/
structure WroteFile (tree : FileTree) (path : Path) (name : String) (content : ByteArray)
    (directory : Location) (changed : FileTree) : Prop where
  accepted : Accepted (path.join ⟨name⟩)
  short : name.utf8ByteSize ≤ maxNameSize
  leads : tree.walk path = .ok directory
  isDirectory : tree.IsDirectory directory
  free : ¬tree.IsDirectory (directory ++ [name])
  get? : ∀ l, changed.get? l = if l = directory ++ [name] then some (.file content) else tree.get? l

theorem writeBytes_join (plain : Path.PlainName name) {content : ByteArray}
    (h : tree.writeBytes (path.join ⟨name⟩) content = .ok changed) :
    ∃ directory, WroteFile tree path name content directory changed := by
  rw [writeBytes, bind_eq_ok] at h
  obtain ⟨s, found, h⟩ := h
  obtain ⟨accepted, leads, isDirectory, last, opened⟩ := (slot_join_eq_ok_iff plain).mp found
  simp only [last, opened, Bool.false_eq_true, if_false] at h
  obtain ⟨short, free, held⟩ := putFile_eq_ok h
  exact ⟨s.directory, accepted, short, leads, isDirectory, free, held⟩

theorem WroteFile.grows {content : ByteArray}
    (h : WroteFile tree path name content directory changed) : Grows tree changed where
  directories l held := by
    have other : l ≠ directory ++ [name] := by
      rintro rfl
      exact h.free (.inr held)
    rw [h.get?, if_neg other, held]
  entries l held := by
    rw [h.get?]
    split
    · exact Option.some_ne_none _
    · exact held

theorem fromUTF8?_toUTF8 (s : String) : String.fromUTF8? s.toUTF8 = some s := by
  have valid : s.toUTF8.IsValidUTF8 := s.isValidUTF8
  rw [String.fromUTF8?, dif_pos valid]
  rfl

/-- A text in a directory is read through the path of the directory. -/
theorem readText_join (plain : Path.PlainName name) (accepted : Accepted (path.join ⟨name⟩))
    (short : name.utf8ByteSize ≤ maxNameSize) (leads : tree.walk path = .ok directory)
    (isDirectory : tree.IsDirectory directory) {content : String}
    (held : tree.get? (directory ++ [name]) = some (.file content.toUTF8)) :
    tree.readText (path.join ⟨name⟩) = .ok content := by
  have located : tree.locate (path.join ⟨name⟩) = .ok (directory ++ [name]) := by
    refine locate_eq_ok_iff.mpr ⟨accepted, (walk_join_eq_ok_iff plain).mpr
      ⟨directory, leads, isDirectory, short, rfl, ?_⟩⟩
    rw [held]
    exact Option.some_ne_none _
  rw [readText, bind_eq_ok]
  refine ⟨_, located, ?_⟩
  simp only [held, fromUTF8?_toUTF8]
  rfl

/-- A text is read from a file. -/
theorem readText_file {text : String} (read : tree.readText path = .ok text) :
    ∃ l content, tree.locate path = .ok l ∧ tree.get? l = some (.file content) := by
  rw [readText, bind_eq_ok] at read
  obtain ⟨l, located, h⟩ := read
  split at h
  · rename_i content held
    exact ⟨l, content, located, held⟩
  · cases h

/-- A text is read again from a tree that has grown and left its file alone. -/
theorem readText_stays {text : String} (grows : Grows tree changed)
    (read : tree.readText path = .ok text)
    (same : ∀ l, tree.locate path = .ok l → changed.get? l = tree.get? l) :
    changed.readText path = .ok text := by
  rw [readText, bind_eq_ok] at read ⊢
  obtain ⟨l, located, held⟩ := read
  obtain ⟨accepted, walked⟩ := locate_eq_ok_iff.mp located
  refine ⟨l, locate_eq_ok_iff.mpr ⟨accepted, grows.follow walked⟩, ?_⟩
  rw [same l located]
  exact held

/-- A file can be written in a directory where no directory has its name. -/
theorem writeBytes_join_of_free (plain : Path.PlainName name) (content : ByteArray)
    (accepted : Accepted (path.join ⟨name⟩)) (short : name.utf8ByteSize ≤ maxNameSize)
    (leads : tree.walk path = .ok directory) (isDirectory : tree.IsDirectory directory)
    (free : ¬tree.IsDirectory (directory ++ [name])) :
    ∃ changed, tree.writeBytes (path.join ⟨name⟩) content = .ok changed ∧
      ∀ l, changed.get? l =
        if l = directory ++ [name] then some (.file content) else tree.get? l := by
  have found : tree.slot (path.join ⟨name⟩) = .ok ⟨directory, .name name, false⟩ :=
    (slot_join_eq_ok_iff plain).mpr ⟨accepted, leads, isDirectory, rfl, rfl⟩
  refine ⟨tree.put directory name (.file content) isDirectory free, ?_, get?_insert _ _ _ _ _ _⟩
  rw [writeBytes, bind_eq_ok]
  refine ⟨_, found, ?_⟩
  show tree.putFile directory name content = _
  rw [putFile, if_neg (Nat.not_lt.mpr short), dif_pos isDirectory, dif_neg free]

/-- A file that is there already can be written again, and nothing changes. -/
theorem writeBytes_again (plain : Path.PlainName name) {content : ByteArray} {l : Location}
    (located : tree.locate (path.join ⟨name⟩) = .ok l)
    (held : tree.get? l = some (.file content)) :
    ∃ changed, tree.writeBytes (path.join ⟨name⟩) content = .ok changed ∧
      ∀ l, changed.get? l = tree.get? l := by
  obtain ⟨accepted, walked⟩ := locate_eq_ok_iff.mp located
  obtain ⟨directory, leads, isDirectory, short, rfl, -⟩ := (walk_join_eq_ok_iff plain).mp walked
  have free : ¬tree.IsDirectory (directory ++ [name]) := by
    rw [isDirectory_iff, held]
    simp
  obtain ⟨changed, wrote, holds⟩ :=
    writeBytes_join_of_free plain content accepted short leads isDirectory free
  refine ⟨changed, wrote, ?_⟩
  intro other
  rw [holds]
  by_cases same : other = directory ++ [name]
  · rw [if_pos same, same, held]
  · rw [if_neg same]

/-! ## Making directories -/

/-- A tree with more directories, each of them led to by one of some paths, and otherwise as it
was. -/
def AddsDirectories (tree made : FileTree) (paths : List Path) : Prop :=
  ∀ l, made.get? l = tree.get? l ∨
    tree.get? l = none ∧ made.get? l = some .directory ∧ ∃ path ∈ paths, made.walk path = .ok l

theorem AddsDirectories.refl (tree : FileTree) (paths : List Path) :
    AddsDirectories tree tree paths := fun _ => .inl rfl

theorem AddsDirectories.grows {paths : List Path} (h : AddsDirectories tree made paths) :
    Grows tree made where
  directories l held := by
    rcases h l with same | ⟨-, new, -⟩
    · rw [same, held]
    · exact new
  entries l held := by
    rcases h l with same | ⟨-, new, -⟩
    · rwa [same]
    · rw [new]
      exact Option.some_ne_none _

theorem AddsDirectories.mono {paths more : List Path} (h : AddsDirectories tree made paths)
    (within : paths ⊆ more) : AddsDirectories tree made more := by
  intro l
  rcases h l with same | ⟨free, new, path, member, leads⟩
  · exact .inl same
  · exact .inr ⟨free, new, path, within member, leads⟩

theorem AddsDirectories.trans {middle : FileTree} {paths : List Path}
    (before : AddsDirectories tree middle paths) (after : AddsDirectories middle made paths) :
    AddsDirectories tree made paths := by
  intro l
  rcases after l with same | ⟨free, new, path, member, leads⟩
  · rcases before l with unchanged | ⟨free, new, path, member, leads⟩
    · exact .inl (same.trans unchanged)
    · exact .inr ⟨free, same.trans new, path, member, after.grows.follow leads⟩
  · rcases before l with unchanged | ⟨-, taken, -⟩
    · exact .inr ⟨unchanged ▸ free, new, path, member, leads⟩
    · rw [free] at taken
      cases taken

theorem putDirectory_eq_ok (h : tree.putDirectory directory name = .ok made) :
    name.utf8ByteSize ≤ maxNameSize ∧ tree.get? (directory ++ [name]) = none ∧
      ∀ l, made.get? l = if l = directory ++ [name] then some .directory else tree.get? l := by
  rw [putDirectory] at h
  split at h
  · cases h
  · rename_i short
    split at h
    · split at h
      · cases h
      · split at h
        · cases h
        · rename_i free
          cases h
          exact ⟨Nat.not_lt.mp short, not_not.mp free, get?_insert _ _ _ _ _ _⟩
    · cases h

/-- A directory that is made is the one that its path leads to afterwards. -/
theorem createDirectory_eq_ok (h : tree.createDirectory path = .ok made) :
    ∃ l, made.walk path = .ok l ∧ made.IsDirectory l ∧ AddsDirectories tree made [path] := by
  rw [createDirectory, bind_eq_ok] at h
  obtain ⟨s, found, h⟩ := h
  cases last : s.last with
  | none =>
      rw [last] at h
      cases h
  | same =>
      rw [last] at h
      cases h
  | above =>
      rw [last] at h
      cases h
  | name name =>
      rw [last] at h
      obtain ⟨short, free, held⟩ := putDirectory_eq_ok h
      obtain ⟨before, voids, split, empty, nonempty, notSame, notAbove, leads, isDirectory⟩ :=
        slot_name found last
      have new : made.get? (s.directory ++ [name]) = some .directory := by
        rw [held, if_pos rfl]
      have grows : Grows tree made := by
        constructor
        · intro l entry
          rw [held, entry, ite_self]
        · intro l entry
          rw [held]
          split
          · exact Option.some_ne_none _
          · exact entry
      -- The parts before the name lead where they led, and the entry they lead to is new.
      have walked : made.walk path = .ok (s.directory ++ [name]) := by
        rw [walk, split]
        refine follow_append_eq_ok_iff.mpr ⟨s.directory, grows.follow leads, ?_⟩
        refine follow_cons_eq_ok_iff.mpr ⟨_, grows.isDirectory isDirectory,
          .entry nonempty notSame notAbove short ?_, follow_void empty (.inr new)⟩
        rw [new]
        exact Option.some_ne_none _
      refine ⟨_, walked, .inr new, ?_⟩
      intro l
      by_cases same : l = s.directory ++ [name]
      · subst same
        exact .inr ⟨free, new, path, List.mem_singleton_self path, walked⟩
      · left
        rw [held, if_neg same]

/-- Whatever comes of it, making directories adds directories that some of the paths lead to. -/
theorem createNested_adds (paths : List Path) (tree : FileTree) :
    AddsDirectories tree (tree.createNested paths).2 paths := by
  induction paths with
  | nil => exact .refl tree []
  | cons path above ih =>
      have one : ∀ {before after : FileTree}, before.createDirectory path = .ok after →
          AddsDirectories before after (path :: above) := by
        intro before after h
        obtain ⟨l, -, -, adds⟩ := createDirectory_eq_ok h
        exact adds.mono (by simp)
      have others : AddsDirectories tree (tree.createNested above).2 (path :: above) :=
        ih.mono (List.subset_cons_self path above)
      rw [createNested]
      -- The path is tried by itself, then those above it are made, then it is tried again.
      split
      · exact .refl tree _
      · split
        · rename_i created
          exact one created
        · split
          · rename_i failed
            rw [failed] at others
            exact others
          · rename_i created
            rw [created] at others
            split
            · rename_i retried
              exact others.trans (one retried)
            · exact others
        · exact .refl tree _

/-- Where it fails, the first of the paths has not been made, so only the others have been. -/
theorem createNested_refused {above : List Path} {fault : FileFault}
    (h : tree.createNested (path :: above) = (.error fault, made)) :
    AddsDirectories tree made above := by
  have settled : ∀ {before : FileTree} {answer : Except FileFault Unit},
      AddsDirectories tree before above → (answer, before) = (.error fault, made) →
      AddsDirectories tree made above := by
    intro before answer adds h
    cases h
    exact adds
  have others := createNested_adds above tree
  rw [createNested] at h
  split at h
  · cases h
  · split at h
    · cases h
    · split at h
      · rename_i failed
        rw [failed] at others
        exact settled others h
      · rename_i created
        rw [created] at others
        split at h
        · cases h
        · exact settled others h
    · exact settled (.refl tree above) h

/-- Where it succeeds, the first of the paths leads to a directory. -/
theorem createNested_leads {paths : List Path}
    (h : tree.createNested (path :: paths) = (.ok (), made)) :
    ∃ l, made.walk path = .ok l ∧ made.IsDirectory l := by
  have one : ∀ {before : FileTree}, before.createDirectory path = .ok made →
      ∃ l, made.walk path = .ok l ∧ made.IsDirectory l := by
    intro before created
    obtain ⟨l, leads, isDirectory, -⟩ := createDirectory_eq_ok created
    exact ⟨l, leads, isDirectory⟩
  have found : ∀ {tree : FileTree} {fault : FileFault},
      ((if tree.leadsToDirectory path then Except.ok () else .error fault), tree) = (.ok (), made) →
      ∃ l, made.walk path = .ok l ∧ made.IsDirectory l := by
    intro tree fault h
    split at h
    · rename_i leads
      obtain ⟨l, located, isDirectory⟩ := leadsToDirectory_iff.mp leads
      cases h
      exact ⟨l, (locate_eq_ok_iff.mp located).2, isDirectory⟩
    · cases h
  rw [createNested] at h
  split at h
  · rename_i empty
    exact ⟨[], walk_empty empty, .inl rfl⟩
  · split at h
    · rename_i created
      cases h
      exact one created
    · split at h
      · cases h
      · split at h
        · rename_i created
          cases h
          exact one created
        · exact found h
    · exact found h

/-- The paths above a path, and the path itself, are those that making it may make. -/
theorem createDirectories_adds (tree : FileTree) (path : Path) :
    AddsDirectories tree (tree.createDirectories path).2 path.ancestors :=
  createNested_adds _ tree

theorem createDirectories_refused {fault : FileFault}
    (h : tree.createDirectories path = (.error fault, made)) :
    AddsDirectories tree made path.parents :=
  createNested_refused h

theorem createDirectories_leads (h : tree.createDirectories path = (.ok (), made)) :
    ∃ l, made.walk path = .ok l ∧ made.IsDirectory l :=
  createNested_leads h

/-! ## Directories that are there, and paths that are none -/

/-- A directory that is there is not made again. -/
theorem createDirectory_of_directory {l : Location} (accepted : Accepted path)
    (leads : tree.walk path = .ok l) (isDirectory : tree.IsDirectory l) :
    ∃ fault, tree.createDirectory path = .error fault ∧ fault ≠ .notFound := by
  obtain ⟨s, found⟩ := slot_of_walk accepted leads
  rw [createDirectory, found]
  simp only [bind, Except.bind]
  cases last : s.last with
  | none => exact ⟨.alreadyExists, rfl, nofun⟩
  | same => exact ⟨.alreadyExists, rfl, nofun⟩
  | above => exact ⟨.alreadyExists, rfl, nofun⟩
  | name name =>
      have taken : tree.IsDirectory (s.directory ++ [name]) :=
        slot_name_walk (.refl tree) found last leads ▸ isDirectory
      show ∃ fault, tree.putDirectory s.directory name = .error fault ∧ fault ≠ .notFound
      obtain ⟨before, voids, -, -, -, -, -, -, parent⟩ := slot_name found last
      by_cases long : maxNameSize < name.utf8ByteSize
      · refine ⟨.nameTooLong, ?_, nofun⟩
        rw [putDirectory, if_pos long]
      · refine ⟨.alreadyExists, ?_, nofun⟩
        rw [putDirectory, if_neg long, dif_pos parent, dif_pos taken]

/-- Where the path itself cannot be made for another reason than that something above it is missing,
none above it is made either. -/
theorem createDirectories_of_error {fault : FileFault} (nonempty : path.text ≠ "")
    (failed : tree.createDirectory path = .error fault) (present : fault ≠ .notFound) :
    tree.createDirectories path =
      (if tree.leadsToDirectory path then .ok () else .error fault, tree) := by
  rw [createDirectories, Path.ancestors, createNested, if_neg nonempty, failed]
  cases fault with
  | notFound => exact absurd rfl present
  | _ => rfl

theorem createDirectories_of_directory {l : Location} (accepted : path.text ≠ "" → Accepted path)
    (leads : tree.walk path = .ok l) (isDirectory : tree.IsDirectory l) :
    tree.createDirectories path = (.ok (), tree) := by
  by_cases empty : path.text = ""
  · rw [createDirectories, Path.ancestors, createNested, if_pos empty]
  · obtain ⟨fault, failed, present⟩ :=
      createDirectory_of_directory (accepted empty) leads isDirectory
    have found : tree.leadsToDirectory path = true :=
      leadsToDirectory_iff.mpr ⟨l, locate_eq_ok_iff.mpr ⟨accepted empty, leads⟩, isDirectory⟩
    rw [createDirectories_of_error empty failed present, if_pos found]

/-- Nothing is made for a text that the system does not take for a path. -/
theorem createDirectories_of_not_accepted (nonempty : path.text ≠ "") (refused : ¬Accepted path) :
    ∃ fault, tree.createDirectories path = (.error fault, tree) := by
  have fails : ∃ fault, partsOf path = .error fault ∧ fault ≠ .notFound := by
    cases parts : partsOf path with
    | ok found => exact absurd (partsOf_eq_ok_iff.mp parts).1 refused
    | error fault =>
        refine ⟨fault, rfl, ?_⟩
        rintro rfl
        rw [partsOf, if_neg nonempty] at parts
        split at parts
        · cases parts
        · split at parts
          · cases parts
          · cases parts
  obtain ⟨fault, parts, present⟩ := fails
  have failed : tree.createDirectory path = .error fault := by
    rw [createDirectory, slot, parts]
    rfl
  have nowhere : tree.leadsToDirectory path = false := by
    rw [leadsToDirectory, locate, parts]
    rfl
  refine ⟨fault, ?_⟩
  rw [createDirectories_of_error nonempty failed present, nowhere]
  rfl

/-- A directory is made only for a text that the system takes for a path. -/
theorem createDirectories_accepted (h : tree.createDirectories path = (.ok (), made))
    (nonempty : path.text ≠ "") : Accepted path := by
  by_contra refused
  have fails : ∃ fault, tree.createDirectories path = (.error fault, tree) :=
    createDirectories_of_not_accepted nonempty refused
  obtain ⟨fault, failed⟩ := fails
  rw [failed] at h
  cases h

end LuaBindings.FileTree
