import LuaBindings.Proofs.Binding.Writing
/-!
# What writing bindings may change

However a run ends that writes planned files into a directory, each place of the tree is as it was,
or it holds a file of bindings that lies in the directory itself, or a directory is new there on the
way to it. Writing files that stand there already changes nothing.
-/

namespace LuaBindings.Binding

open LuaBindings.Path (PlainName)
open FileTree (Grows)

variable {tree after : FileTree} {path : Path} {files : List PlannedFile}

/-- The names of planned files tell what they are. -/
theorem plan_stems (catalog : Catalog) (options : Options) :
    ∀ f ∈ plan catalog options, ∃ stem, f.name = stem ++ ".lua" := by
  rw [plan]
  split
  · rw [List.forall_mem_singleton]
    exact ⟨"natives", rfl⟩
  · rw [List.forall_mem_map]
    intro ns _
    exact ⟨ns.name, rfl⟩

/-- A name that ends otherwise is none of theirs. -/
theorem bindings_ne {name : String} (last : name.toList.getLast? ≠ some 'a') (stem : String) :
    stem ++ ".lua" ≠ name := by
  rintro rfl
  have own : ".lua".toList.getLast? = some 'a' := by decide
  rw [String.toList_append, List.getLast?_append, own, Option.some_or] at last
  exact last rfl

/-! ## Changes -/

/-- How a place may differ once bindings have been written into the directory that a path leads
to. -/
inductive Altered (path : Path) (tree after : FileTree) : Location → Prop
  /-- A file of bindings is new in the directory, or replaces another file. -/
  | file {directory : Location} {stem : String} {content : ByteArray}
      (leads : after.walk path = .ok directory)
      (free : ¬tree.IsDirectory (directory ++ [stem ++ ".lua"]))
      (now : after.get? (directory ++ [stem ++ ".lua"]) = some (.file content)) :
      Altered path tree after (directory ++ [stem ++ ".lua"])
  /-- A directory is new where the path or one above it leads. -/
  | directory {l : Location} {above : Path} (free : tree.get? l = none)
      (now : after.get? l = some .directory) (member : above ∈ path.ancestors)
      (leads : after.walk above = .ok l) : Altered path tree after l

/-- However a run ends, what was there still is. -/
theorem runWrite_grows (plain : ∀ f ∈ files, PlainName f.name) (tree : FileTree) (path : Path) :
    Grows tree (runWrite tree path files).2 := by
  have grows := (FileTree.createDirectories_adds tree path).grows
  cases created : tree.createDirectories path with
  | mk answer made =>
      rw [created] at grows
      cases answer with
      | error fault =>
          rw [runWrite_of_error created]
          exact grows
      | ok done =>
          obtain ⟨directory, leads, -⟩ := FileTree.createDirectories_leads created
          obtain ⟨done, rest, -, wrote, -⟩ := runWriteAll_wrote plain leads
          rw [runWrite_of_ok created]
          exact grows.trans wrote.grows

/-- What a run that writes planned files into the directory of a path has brought to a place. -/
inductive Brought (path : Path) (files : List PlannedFile) (tree after : FileTree)
    (l : Location) : Prop
  /-- A planned file stands there in full. -/
  | file {directory : Location} {f : PlannedFile} (planned : f ∈ files)
      (leads : after.walk path = .ok directory) (place : l = directory ++ [f.name])
      (now : after.get? l = some (.file f.content.toUTF8)) : Brought path files tree after l
  /-- A directory is new where the path or one above it leads. -/
  | directory {above : Path} (free : tree.get? l = none) (now : after.get? l = some .directory)
      (member : above ∈ path.ancestors) (leads : after.walk above = .ok l) :
      Brought path files tree after l

/-- However a run ends, each place is as it was, or the run has brought something there. -/
theorem runWrite_brought (plain : ∀ f ∈ files, PlainName f.name)
    (distinct : (files.map (·.name)).Nodup) (tree : FileTree) (path : Path) (l : Location) :
    (runWrite tree path files).2.get? l = tree.get? l ∨
      Brought path files tree (runWrite tree path files).2 l := by
  have adds := FileTree.createDirectories_adds tree path
  cases ran : runWrite tree path files with
  | mk result after =>
      rcases runWrite_outcome plain distinct ran with
        ⟨fault, refused, -⟩ | ⟨done, rest, directory, split, written, -⟩
      · rw [refused] at adds
        rcases adds l with same | ⟨free, new, above, member, leads⟩
        · exact .inl same
        · exact .inr (.directory free new member leads)
      · by_cases isFile : ∃ f ∈ done, l = directory ++ [f.name]
        · obtain ⟨f, member, place⟩ := isFile
          have planned : f ∈ files := split ▸ List.mem_append_left rest member
          refine .inr (.file planned written.leads place ?_)
          rw [place]
          exact written.entries f member
        · have other : ∀ f ∈ done, l ≠ directory ++ [f.name] :=
            fun f member same => isFile ⟨f, member, same⟩
          rcases written.others l other with same | ⟨free, new, above, member, leads⟩
          · exact .inl same
          · exact .inr (.directory free new member leads)

/-- However a run ends, nothing is altered but as bindings alter it. -/
theorem runWrite_altered (plain : ∀ f ∈ files, PlainName f.name)
    (distinct : (files.map (·.name)).Nodup) (stems : ∀ f ∈ files, ∃ stem, f.name = stem ++ ".lua")
    (tree : FileTree) (path : Path) (l : Location) :
    (runWrite tree path files).2.get? l = tree.get? l ∨
      Altered path tree (runWrite tree path files).2 l := by
  rcases runWrite_brought plain distinct tree path l with same | brought
  · exact .inl same
  · cases brought with
    | @file directory f planned leads place now =>
        obtain ⟨stem, spelled⟩ := stems f planned
        -- A directory would still be one.
        have free : ¬tree.IsDirectory l := by
          intro isDirectory
          have still := (runWrite_grows plain tree path).isDirectory isDirectory
          rw [FileTree.isDirectory_iff, now, place] at still
          simp at still
        rw [place, spelled] at now free ⊢
        exact .inr (.file leads free now)
    | directory free now member leads => exact .inr (.directory free now member leads)

/-- What was a file still is one. -/
theorem Altered.file_stays {l : Location} {content : ByteArray} (h : Altered path tree after l)
    (held : tree.get? l = some (.file content)) : ∃ now, after.get? l = some (.file now) := by
  cases h with
  | file leads free now => exact ⟨_, now⟩
  | directory free =>
      rw [held] at free
      cases free

/-! ## Writing once more -/

/-- A run that succeeds had a path to write to. -/
theorem runWrite_accepted {paths : List Path}
    (ran : runWrite tree path files = (.ok paths, after)) (nonempty : path.text ≠ "") :
    FileTree.Accepted path := by
  cases created : tree.createDirectories path with
  | mk answer made =>
      cases answer with
      | error fault =>
          rw [runWrite_of_error created] at ran
          cases ran
      | ok done => exact FileTree.createDirectories_accepted created nonempty

/-- What was written stands where its path leads. -/
theorem Written.stands {directory : Location} (written : Written tree path files directory after)
    (plain : ∀ f ∈ files, PlainName f.name) :
    ∀ f ∈ files, after.locate (path.join ⟨f.name⟩) = .ok (directory ++ [f.name]) := by
  intro f member
  have read := written.texts f member
  rw [FileTree.readText, bind_eq_ok] at read
  obtain ⟨l, located, -⟩ := read
  obtain ⟨-, walked⟩ := FileTree.locate_eq_ok_iff.mp located
  obtain ⟨found, leads, -, -, rfl, -⟩ := (FileTree.walk_join_eq_ok_iff (plain f member)).mp walked
  have same : found = directory := Except.ok.inj (leads.symm.trans written.leads)
  rw [located, same]

/-- Files that stand where they are written to are written again, and nothing changes. -/
theorem runWriteAll_again (plain : ∀ f ∈ files, PlainName f.name)
    (stand : ∀ f ∈ files, ∃ l, tree.locate (path.join ⟨f.name⟩) = .ok l ∧
      tree.get? l = some (.file f.content.toUTF8)) :
    ∃ again, runWriteAll tree path files = (.ok (files.map fun f => path.join ⟨f.name⟩), again) ∧
      ∀ l, again.get? l = tree.get? l := by
  induction files generalizing tree with
  | nil => exact ⟨tree, rfl, fun l => rfl⟩
  | cons f rest ih =>
      rw [List.forall_mem_cons] at plain stand
      obtain ⟨⟨l, located, held⟩, others⟩ := stand
      obtain ⟨changed, wrote, same⟩ := FileTree.writeBytes_again plain.1 located held
      -- The other files stand in the changed tree just as well.
      have still : ∀ f ∈ rest, ∃ l, changed.locate (path.join ⟨f.name⟩) = .ok l ∧
          changed.get? l = some (.file f.content.toUTF8) := by
        intro f member
        obtain ⟨l, located, held⟩ := others f member
        obtain ⟨accepted, walked⟩ := FileTree.locate_eq_ok_iff.mp located
        refine ⟨l, FileTree.locate_eq_ok_iff.mpr ⟨accepted, ?_⟩, (same l).trans held⟩
        exact (Grows.of_get?_eq same).follow walked
      obtain ⟨again, ran, unchanged⟩ := ih plain.2 still
      refine ⟨again, ?_, fun l => (unchanged l).trans (same l)⟩
      rw [runWriteAll_of_ok wrote, ran]
      rfl

end LuaBindings.Binding
