import LuaBindings.Binding.Output
import LuaBindings.Proofs.Catalog.Loading
import LuaBindings.Proofs.FileTree.Changes
import Mathlib.Data.List.Nodup
/-!
# Writing planned files

The files that are planned for a loaded catalog have names of their own that lead nowhere but into
the output directory, so none of them is lost to another and nothing else is overwritten.
-/

namespace LuaBindings.Binding

open LuaBindings.Path (PlainName)
open FileTree (Grows WroteFile)

/-! ## Names -/

theorem plainName_luaFile (ns : String) (undivided : '/' ∉ ns.toList) :
    PlainName (ns ++ ".lua") := by
  have longer : 3 < (ns ++ ".lua").length := by
    rw [String.length_append]
    exact Nat.lt_of_lt_of_le (by decide) (Nat.le_add_left _ _)
  have other : ∀ name : String, name.length ≤ 3 → ns ++ ".lua" ≠ name := by
    intro name short same
    rw [same] at longer
    exact Nat.not_lt.mpr short longer
  refine ⟨other "" (by decide), other "." (by decide), other ".." (by decide), ?_⟩
  rw [String.toList_append, List.mem_append, not_or]
  exact ⟨undivided, by simp [Path.separator]⟩

/-- The planned files of a valid catalog have plain names, each its own. -/
theorem plan_names {catalog : Catalog} (valid : (Catalog.outline catalog).Valid)
    (options : Options) :
    (∀ f ∈ plan catalog options, PlainName f.name) ∧
      ((plan catalog options).map (·.name)).Nodup := by
  have names : (catalog.namespaces.map (·.name)).Nodup := by
    simpa [Catalog.outline, Function.comp_def] using valid.names
  have undivided : ∀ ns ∈ catalog.namespaces, '/' ∉ ns.name.toList := by
    intro ns member
    exact (valid.separators _ (List.mem_map.mpr ⟨ns, member, rfl⟩)).1
  rw [plan]
  split
  · refine ⟨?_, List.nodup_singleton _⟩
    rw [List.forall_mem_singleton]
    exact plainName_luaFile "natives" (by decide)
  · constructor
    · rw [List.forall_mem_map]
      intro ns member
      exact plainName_luaFile ns.name (undivided ns member)
    · have injective : Function.Injective fun ns : String => ns ++ ".lua" :=
        fun a b equal => (String.append_left_inj _).mp equal
      have mapped := names.map injective
      rw [List.map_map] at mapped ⊢
      exact mapped

/-! ## Runs -/

/-- What comes of writing files into a directory of a file tree, and the tree that is left. -/
def runWrite (tree : FileTree) (path : Path) (files : List PlannedFile) :
    Except WriteError (List Path) × FileTree :=
  (write (m := StateM FileTree) path files).run.run tree

/-- What comes of writing files into a directory that is there, and the tree that is left. -/
def runWriteAll (tree : FileTree) (path : Path) (files : List PlannedFile) :
    Except WriteError (List Path) × FileTree :=
  (writeAll (m := StateM FileTree) path files).run.run tree

/-- A request for directories is answered as the tree answers it. -/
theorem run_createDirectories (tree : FileTree) (path : Path) :
    (FileSystem.createDirectories path : ExceptT WriteError (StateM FileTree) _).run.run tree =
      (.ok (tree.createDirectories path).1, (tree.createDirectories path).2) := rfl

theorem runWrite_of_error {tree made : FileTree} {path : Path} {fault : FileFault}
    (failed : tree.createDirectories path = (.error fault, made)) (files : List PlannedFile) :
    runWrite tree path files = (.error (.createDirectory path fault), made) := by
  have answered := run_createDirectories tree path
  rw [failed] at answered
  rw [runWrite, write, run_bind_of_ok answered]
  rfl

theorem runWrite_of_ok {tree made : FileTree} {path : Path}
    (created : tree.createDirectories path = (.ok (), made)) (files : List PlannedFile) :
    runWrite tree path files = runWriteAll made path files := by
  have answered := run_createDirectories tree path
  rw [created] at answered
  rw [runWrite, write, run_bind_of_ok answered]
  rfl

/-- A request for a text in a file is answered as the tree answers it. -/
theorem run_writeText (tree : FileTree) (path : Path) (text : String) :
    (FileSystem.writeText path text : ExceptT WriteError (StateM FileTree) _).run.run tree =
      (.ok (FileTree.attempt (·.writeBytes path text.toUTF8) tree).1,
        (FileTree.attempt (·.writeBytes path text.toUTF8) tree).2) := rfl

theorem runWriteAll_of_error {tree : FileTree} {path : Path} {file : PlannedFile}
    {fault : FileFault}
    (failed : tree.writeBytes (path.join ⟨file.name⟩) file.content.toUTF8 = .error fault)
    (files : List PlannedFile) :
    runWriteAll tree path (file :: files) =
      (.error (.writeFile (path.join ⟨file.name⟩) fault), tree) := by
  rw [runWriteAll, writeAll, ExceptT.run_bind, StateT.run_bind, run_writeText, FileTree.attempt,
    failed]
  rfl

theorem runWriteAll_of_ok {tree changed : FileTree} {path : Path} {file : PlannedFile}
    (wrote : tree.writeBytes (path.join ⟨file.name⟩) file.content.toUTF8 = .ok changed)
    (files : List PlannedFile) :
    runWriteAll tree path (file :: files) =
      ((runWriteAll changed path files).1.map (path.join ⟨file.name⟩ :: ·),
        (runWriteAll changed path files).2) := by
  rw [runWriteAll, writeAll, ExceptT.run_bind, StateT.run_bind, run_writeText, FileTree.attempt,
    wrote]
  cases ran : runWriteAll changed path files with
  | mk result after =>
      have later : (writeAll (m := StateM FileTree) path files).run.run changed =
          (result, after) := ran
      show StateT.run (ExceptT.run (do
        return path.join ⟨file.name⟩ :: (← writeAll (m := StateM FileTree) path files))) changed = _
      rw [ExceptT.run_bind, StateT.run_bind, later]
      cases result with
      | error error => rfl
      | ok paths => rfl

/-- The tree with some files written, one after another, if all of them can be. -/
def writtenAll (path : Path) (files : List PlannedFile) (tree : FileTree) :
    Except FileFault FileTree :=
  files.foldlM (fun tree f => tree.writeBytes (path.join ⟨f.name⟩) f.content.toUTF8) tree

theorem exists_runWriteAll_iff {tree after : FileTree} {path : Path} {files : List PlannedFile} :
    (∃ paths, runWriteAll tree path files = (.ok paths, after)) ↔
      writtenAll path files tree = .ok after := by
  induction files generalizing tree with
  | nil =>
      constructor
      · rintro ⟨paths, ran⟩
        cases ran
        rfl
      · intro written
        cases written
        exact ⟨[], rfl⟩
  | cons f rest ih =>
      rw [writtenAll, List.foldlM_cons, bind_eq_ok]
      constructor
      · rintro ⟨paths, ran⟩
        cases wrote : tree.writeBytes (path.join ⟨f.name⟩) f.content.toUTF8 with
        | error fault =>
            rw [runWriteAll_of_error wrote] at ran
            cases ran
        | ok changed =>
            cases later : runWriteAll changed path rest with
            | mk result final =>
                rw [runWriteAll_of_ok wrote, later] at ran
                cases result with
                | error error => cases ran
                | ok others =>
                    cases ran
                    exact ⟨changed, rfl, ih.mp ⟨others, later⟩⟩
      · rintro ⟨changed, wrote, later⟩
        obtain ⟨paths, ran⟩ := ih.mpr later
        rw [runWriteAll_of_ok wrote, ran]
        exact ⟨_, rfl⟩

/-- A run succeeds just where the directory can be made and all files can be written. -/
theorem exists_runWrite_iff {tree after : FileTree} {path : Path} {files : List PlannedFile} :
    (∃ paths, runWrite tree path files = (.ok paths, after)) ↔
      ∃ made, tree.createDirectories path = (.ok (), made) ∧
        writtenAll path files made = .ok after := by
  cases created : tree.createDirectories path with
  | mk answer made =>
      cases answer with
      | error fault =>
          rw [runWrite_of_error created]
          exact ⟨nofun, fun ⟨_, h, _⟩ => nomatch h⟩
      | ok done =>
          rw [runWrite_of_ok created, exists_runWriteAll_iff]
          constructor
          · exact fun written => ⟨made, rfl, written⟩
          · rintro ⟨_, same, written⟩
            cases same
            exact written

/-- The tree after some files have been written, one after another, into the directory that a path
leads to. -/
inductive Wrote (path : Path) (directory : Location) :
    FileTree → List PlannedFile → FileTree → Prop
  | nil (tree : FileTree) : Wrote path directory tree [] tree
  | cons {tree changed after : FileTree} {file : PlannedFile} {files : List PlannedFile}
      (first : WroteFile tree path file.name file.content.toUTF8 directory changed)
      (others : Wrote path directory changed files after) :
      Wrote path directory tree (file :: files) after

/-- A run writes some first files of those planned. It fails if there is one more that it could not
write, and nothing has come of that one. -/
theorem runWriteAll_wrote {tree : FileTree} {path : Path} {directory : Location}
    {files : List PlannedFile} (plain : ∀ f ∈ files, PlainName f.name)
    (leads : tree.walk path = .ok directory) :
    ∃ done rest, files = done ++ rest ∧
      Wrote path directory tree done (runWriteAll tree path files).2 ∧
      (rest = [] ∧ (runWriteAll tree path files).1 = .ok (files.map fun f => path.join ⟨f.name⟩) ∨
      ∃ f later fault, rest = f :: later ∧
        (runWriteAll tree path files).2.writeBytes (path.join ⟨f.name⟩) f.content.toUTF8 =
          .error fault ∧
        (runWriteAll tree path files).1 = .error (.writeFile (path.join ⟨f.name⟩) fault)) := by
  induction files generalizing tree with
  | nil => exact ⟨[], [], rfl, .nil tree, .inl ⟨rfl, rfl⟩⟩
  | cons f rest ih =>
      rw [List.forall_mem_cons] at plain
      cases wrote : tree.writeBytes (path.join ⟨f.name⟩) f.content.toUTF8 with
      | error fault =>
          rw [runWriteAll_of_error wrote]
          exact ⟨[], f :: rest, rfl, .nil tree, .inr ⟨f, rest, fault, rfl, wrote, rfl⟩⟩
      | ok changed =>
          rw [runWriteAll_of_ok wrote]
          obtain ⟨found, first⟩ := FileTree.writeBytes_join plain.1 wrote
          -- The path still leads to the same directory for the files to come.
          have same : found = directory := Except.ok.inj (first.leads.symm.trans leads)
          subst same
          obtain ⟨done, others, split, wroteDone, outcome⟩ :=
            ih plain.2 (first.grows.follow leads)
          refine ⟨f :: done, others, by rw [split]; rfl, .cons first wroteDone, ?_⟩
          rcases outcome with ⟨none, result⟩ | ⟨g, later, fault, some, failed, result⟩
          · exact .inl ⟨none, congrArg (Except.map (path.join ⟨f.name⟩ :: ·)) result⟩
          · exact .inr ⟨g, later, fault, some, failed,
              congrArg (Except.map (path.join ⟨f.name⟩ :: ·)) result⟩

theorem Wrote.grows {path : Path} {directory : Location} {tree after : FileTree}
    {files : List PlannedFile} (h : Wrote path directory tree files after) : Grows tree after := by
  induction h with
  | nil tree => exact .refl tree
  | cons first others ih => exact first.grows.trans ih

/-- Every file that was written had a path that the system takes, and a name that a directory can
hold. -/
theorem Wrote.accepted {path : Path} {directory : Location} {tree after : FileTree}
    {files : List PlannedFile} (h : Wrote path directory tree files after) :
    ∀ f ∈ files, FileTree.Accepted (path.join ⟨f.name⟩) ∧
      f.name.utf8ByteSize ≤ FileTree.maxNameSize := by
  induction h with
  | nil tree => exact List.forall_mem_nil _
  | cons first others ih => exact List.forall_mem_cons.mpr ⟨⟨first.accepted, first.short⟩, ih⟩

/-- Writing files leaves everything else as it was. -/
theorem Wrote.get?_other {path : Path} {directory : Location} {tree after : FileTree}
    {files : List PlannedFile} (h : Wrote path directory tree files after) {l : Location}
    (other : ∀ f ∈ files, l ≠ directory ++ [f.name]) : after.get? l = tree.get? l := by
  induction h with
  | nil tree => rfl
  | cons first others ih =>
      rw [List.forall_mem_cons] at other
      rw [ih other.2, first.get?, if_neg other.1]

/-- Under names of their own, the files are all there in the end. -/
theorem Wrote.get?_file {path : Path} {directory : Location} {tree after : FileTree}
    {files : List PlannedFile} (h : Wrote path directory tree files after)
    (distinct : (files.map (·.name)).Nodup) :
    ∀ f ∈ files, after.get? (directory ++ [f.name]) = some (.file f.content.toUTF8) := by
  induction h with
  | nil tree => exact List.forall_mem_nil _
  | @cons tree changed after file files first others ih =>
      rw [List.map_cons, List.nodup_cons] at distinct
      refine List.forall_mem_cons.mpr ⟨?_, ih distinct.2⟩
      have last : ∀ f ∈ files, directory ++ [file.name] ≠ directory ++ [f.name] := by
        intro f member same
        have names := List.singleton_inj.mp (List.append_cancel_left same)
        exact distinct.1 (List.mem_map.mpr ⟨f, member, names.symm⟩)
      rw [others.get?_other last, first.get?, if_pos rfl]

/-! ## Writing what was planned -/

/-- Files that can be written into the directory of a path and nowhere else, none over another. -/
structure Confined (path : Path) (files : List PlannedFile) : Prop where
  plain : ∀ f ∈ files, PlainName f.name
  distinct : (files.map fun f => path.join ⟨f.name⟩).Nodup
  /-- In every tree, what a file is written to is an entry of the directory that the path leads
  to. -/
  direct : ∀ f ∈ files, ∀ (tree : FileTree) s, tree.slot (path.join ⟨f.name⟩) = .ok s →
    tree.walk path = .ok s.directory ∧ s.last = .name f.name ∧ s.closed = false

/-- What a successful run leaves behind in the directory that a path leads to. -/
structure Written (tree : FileTree) (path : Path) (files : List PlannedFile) (directory : Location)
    (after : FileTree) : Prop where
  leads : after.walk path = .ok directory
  isDirectory : after.IsDirectory directory
  texts : ∀ f ∈ files, after.readText (path.join ⟨f.name⟩) = .ok f.content
  entries : ∀ f ∈ files, after.get? (directory ++ [f.name]) = some (.file f.content.toUTF8)
  /-- All else is as before, except for directories that were missing where the paths above lead. -/
  others : ∀ l, (∀ f ∈ files, l ≠ directory ++ [f.name]) → after.get? l = tree.get? l ∨
    tree.get? l = none ∧ after.get? l = some .directory ∧
      ∃ above ∈ path.ancestors, after.walk above = .ok l
  /-- If the path never leads up, then no such directory lies in its own. -/
  inside : ['.', '.'] ∉ path.parts → ∀ l, directory <+: l → l ≠ directory →
    (∀ f ∈ files, l ≠ directory ++ [f.name]) → after.get? l = tree.get? l

/-- The planned files of a valid catalog are confined to any directory that they are written to. -/
theorem confined_plan {catalog : Catalog} (valid : (Catalog.outline catalog).Valid)
    (options : Options) (path : Path) : Confined path (plan catalog options) := by
  obtain ⟨plain, names⟩ := plan_names valid options
  refine ⟨plain, ?_, ?_⟩
  · have paths : ((plan catalog options).map fun f => path.join ⟨f.name⟩).Pairwise (· ≠ ·) := by
      rw [List.pairwise_map]
      refine (List.pairwise_map.mp names).imp_of_mem ?_
      intro a b ha hb differ same
      exact differ ((plain a ha).join_inj (plain b hb) same)
    exact paths
  · intro f member tree s found
    obtain ⟨-, leads, -, last, opened⟩ := (FileTree.slot_join_eq_ok_iff (plain f member)).mp found
    exact ⟨leads, last, opened⟩

/-- Files that were written once the directory was there stand in it, and nothing else has changed
but directories on the way. -/
theorem Wrote.written {tree made after : FileTree} {path : Path} {directory : Location}
    {files : List PlannedFile} (wrote : Wrote path directory made files after)
    (plain : ∀ f ∈ files, PlainName f.name) (distinct : (files.map (·.name)).Nodup)
    (adds : FileTree.AddsDirectories tree made path.ancestors)
    (leads : made.walk path = .ok directory) (isDirectory : made.IsDirectory directory) :
    Written tree path files directory after := by
  have still := wrote.grows.isDirectory isDirectory
  have walked := wrote.grows.follow leads
  have entries := wrote.get?_file distinct
  -- What is no file was left alone, or was made on the way.
  have others : ∀ l, (∀ f ∈ files, l ≠ directory ++ [f.name]) →
      after.get? l = tree.get? l ∨
        tree.get? l = none ∧ after.get? l = some .directory ∧
          ∃ above ∈ path.ancestors, after.walk above = .ok l := by
    intro l other
    rcases adds l with same | ⟨free, new, above, member, found⟩
    · exact .inl ((wrote.get?_other other).trans same)
    · exact .inr ⟨free, (wrote.get?_other other).trans new, above, member,
        wrote.grows.follow found⟩
  refine ⟨walked, still, ?_, entries, others, ?_⟩
  · intro f member
    obtain ⟨accepted, short⟩ := wrote.accepted f member
    exact FileTree.readText_join (plain f member) accepted short walked still (entries f member)
  · intro descending l below differs other
    rcases others l other with same | ⟨-, -, above, member, found⟩
    · exact same
    · -- A path above leads above the directory itself, so not into it.
      rcases List.mem_cons.mp member with rfl | member
      · exact absurd (Except.ok.inj (found.symm.trans walked)) differs
      · have higher := FileTree.walk_parents descending member walked found
        exact absurd (higher.eq_of_length_le below.length_le) differs

/-- All that can come of a run: the directory could not be made, or some first files were written,
and either these are all or the next one could not be written. -/
theorem runWrite_outcome {tree after : FileTree} {path : Path} {files : List PlannedFile}
    {result : Except WriteError (List Path)} (plain : ∀ f ∈ files, PlainName f.name)
    (distinct : (files.map (·.name)).Nodup) (ran : runWrite tree path files = (result, after)) :
    (∃ fault, tree.createDirectories path = (.error fault, after) ∧
        result = .error (.createDirectory path fault)) ∨
      ∃ done rest directory, files = done ++ rest ∧ Written tree path done directory after ∧
        (rest = [] ∧ result = .ok (files.map fun f => path.join ⟨f.name⟩) ∨
        ∃ f later fault, rest = f :: later ∧
          after.writeBytes (path.join ⟨f.name⟩) f.content.toUTF8 = .error fault ∧
          result = .error (.writeFile (path.join ⟨f.name⟩) fault)) := by
  have adds := FileTree.createDirectories_adds tree path
  cases created : tree.createDirectories path with
  | mk answer made =>
      rw [created] at adds
      cases answer with
      | error fault =>
          rw [runWrite_of_error created] at ran
          cases ran
          exact .inl ⟨fault, rfl, rfl⟩
      | ok done =>
          rw [runWrite_of_ok created] at ran
          obtain ⟨directory, leads, isDirectory⟩ := FileTree.createDirectories_leads created
          obtain ⟨done, rest, split, wrote, outcome⟩ := runWriteAll_wrote plain leads
          rw [ran] at wrote outcome
          refine .inr ⟨done, rest, directory, split, ?_, outcome⟩
          rw [split, List.forall_mem_append] at plain
          rw [split, List.map_append, List.nodup_append] at distinct
          exact wrote.written plain.1 distinct.1 adds leads isDirectory

/-- A run that succeeds has written every file, and nothing else but directories on the way. -/
theorem runWrite_written {tree after : FileTree} {path : Path} {files : List PlannedFile}
    {paths : List Path} (plain : ∀ f ∈ files, PlainName f.name)
    (distinct : (files.map (·.name)).Nodup) (ran : runWrite tree path files = (.ok paths, after)) :
    paths = (files.map fun f => path.join ⟨f.name⟩) ∧
      ∃ directory, Written tree path files directory after := by
  rcases runWrite_outcome plain distinct ran with ⟨fault, -, failed⟩ |
    ⟨done, rest, directory, split, written, ⟨rfl, result⟩ | ⟨f, later, fault, -, -, failed⟩⟩
  · cases failed
  · rw [List.append_nil] at split
    subst split
    exact ⟨Except.ok.inj result, directory, written⟩
  · cases failed

/-- Whatever catalog is loaded and however it is planned, its files are confined to any directory
that they are written to, and a run that succeeds leaves all of them there. -/
theorem write_loaded_plan {text : String} {catalog : Catalog}
    (loaded : Catalog.load text = .ok catalog) (options : Options) (path : Path) :
    Confined path (plan catalog options) ∧
      ∀ tree paths after, runWrite tree path (plan catalog options) = (.ok paths, after) →
        paths = ((plan catalog options).map fun f => path.join ⟨f.name⟩) ∧
          ∃ directory, Written tree path (plan catalog options) directory after := by
  obtain ⟨document, -, valid, same, -⟩ := Catalog.load_eq_ok_iff.mp loaded
  rw [← same] at valid
  obtain ⟨plain, distinct⟩ := plan_names valid options
  exact ⟨confined_plan valid options path, fun tree paths after ran =>
    runWrite_written plain distinct ran⟩

/-- Namespaces with names that would lead elsewhere by themselves. -/
def dottedText : String := "\x7b\"\":\x7b\x7d,\".\":\x7b\x7d,\"..\":\x7b\x7d\x7d"

/-- The catalog of it. -/
def dottedCatalog : Catalog := ⟨[⟨"", []⟩, ⟨".", []⟩, ⟨"..", []⟩]⟩

theorem write_dottedCatalog :
    (runWrite .empty ⟨"out/"⟩ (plan dottedCatalog .none)).1 =
        .ok [⟨"out/.lua"⟩, ⟨"out/..lua"⟩, ⟨"out/...lua"⟩] ∧
      ∃ directory, Written .empty ⟨"out/"⟩ (plan dottedCatalog .none) directory
        (runWrite .empty ⟨"out/"⟩ (plan dottedCatalog .none)).2 := by
  have loaded : Catalog.load dottedText = .ok dottedCatalog := by decide +kernel
  have succeeds : (runWrite .empty ⟨"out/"⟩ (plan dottedCatalog .none)).1 =
      .ok [⟨"out/.lua"⟩, ⟨"out/..lua"⟩, ⟨"out/...lua"⟩] := by decide +kernel
  cases ran : runWrite .empty ⟨"out/"⟩ (plan dottedCatalog .none) with
  | mk result after =>
      rw [ran] at succeeds
      change result = _ at succeeds
      subst succeeds
      exact ⟨rfl, ((write_loaded_plan loaded .none ⟨"out/"⟩).2 _ _ _ ran).2⟩

/-- A tree with one directory. -/
def oneDirectory : FileTree := FileTree.empty.put [] "a" .directory (.inl rfl) (by decide)

/-- A path that leads down to a missing directory and up again has it made: the directory that is
written to has a new entry besides the planned files. -/
theorem write_adds_directory :
    Catalog.load "\x7b\"N\":\x7b\x7d\x7d" = .ok ⟨[⟨"N", []⟩]⟩ ∧
      (runWrite oneDirectory ⟨"a/b/.."⟩ (plan ⟨[⟨"N", []⟩]⟩ .none)).1 = .ok [⟨"a/b/../N.lua"⟩] ∧
      (runWrite oneDirectory ⟨"a/b/.."⟩ (plan ⟨[⟨"N", []⟩]⟩ .none)).2.walk ⟨"a/b/.."⟩ =
        .ok ["a"] ∧
      ¬∀ name, name ≠ "N.lua" →
        (runWrite oneDirectory ⟨"a/b/.."⟩ (plan ⟨[⟨"N", []⟩]⟩ .none)).2.get? ["a", name] =
          oneDirectory.get? ["a", name] := by
  refine ⟨by decide +kernel, by decide +kernel, by decide +kernel, ?_⟩
  intro unchanged
  have before : oneDirectory.get? ["a", "b"] = none := by decide +kernel
  have after : (runWrite oneDirectory ⟨"a/b/.."⟩ (plan ⟨[⟨"N", []⟩]⟩ .none)).2.get? ["a", "b"] =
      some .directory := by decide +kernel
  rw [unchanged "b" (by decide), before] at after
  cases after

end LuaBindings.Binding
