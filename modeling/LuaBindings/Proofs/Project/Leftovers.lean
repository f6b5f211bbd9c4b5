import LuaBindings.Proofs.Project.Running
/-!
# What a failed generation leaves behind

A generation fails before it writes anything, or while the output directory is made, or at one of
the planned files. What it leaves is told by where it failed: nothing, or directories on the way to
the output, or besides these the files planned before the one in question.
-/

namespace LuaBindings

namespace Binding

/-- What is left when all files of `done` have been written, and the first one of `rest` could not
be. -/
structure Stopped (tree : FileTree) (path : Path) (done rest : List PlannedFile)
    (directory : Location) (after : FileTree) : Prop
    extends Written tree path done directory after where
  /-- Nothing has come of the others. Only where a path leads down and up again can a directory be
  new in the place of one, and then nothing was there. -/
  unwritten : ∀ f ∈ rest,
    after.get? (directory ++ [f.name]) = tree.get? (directory ++ [f.name]) ∨
      tree.get? (directory ++ [f.name]) = none ∧
        after.get? (directory ++ [f.name]) = some .directory ∧ ['.', '.'] ∈ path.parts ∧
        ∃ above ∈ path.parents, after.walk above = .ok (directory ++ [f.name])

/-- Files of other names are not among those written. -/
theorem Written.stopped {tree after : FileTree} {path : Path} {done rest : List PlannedFile}
    {directory : Location} (written : Written tree path done directory after)
    (distinct : ((done ++ rest).map (·.name)).Nodup) :
    Stopped tree path done rest directory after := by
  refine ⟨written, ?_⟩
  intro f member
  have other : ∀ g ∈ done, directory ++ [f.name] ≠ directory ++ [g.name] := by
    intro g held same
    have names := List.singleton_inj.mp (List.append_cancel_left same)
    rw [List.map_append, List.nodup_append] at distinct
    exact distinct.2.2 _ (List.mem_map.mpr ⟨g, held, rfl⟩) _ (List.mem_map.mpr ⟨f, member, rfl⟩)
      names.symm
  have below : directory ++ [f.name] ≠ directory := by simp
  rcases written.others _ other with same | ⟨free, new, above, held, found⟩
  · exact .inl same
  · by_cases descending : ['.', '.'] ∈ path.parts
    · rcases List.mem_cons.mp held with rfl | parent
      · exact absurd (Except.ok.inj (found.symm.trans written.leads)) below
      · exact .inr ⟨free, new, descending, above, parent, found⟩
    · exact .inl (written.inside descending _ (List.prefix_append _ _) below other)

end Binding

namespace Project

open Binding (Stopped)

/-- What a generation that failed leaves behind. -/
inductive LeftBehind (s : Setting) (tree : FileTree) : Failure → FileTree → Prop
  /-- No catalog was found or loaded: all is as before. -/
  | loading {failure : Failure} (failed : s.loaded tree = .error failure)
      (other : ∀ directory error, failure ≠ .output directory error) :
      LeftBehind s tree failure tree
  /-- The output directory could not be made: there are at most new directories where the paths
  above lead. -/
  | directory {path : Path} {catalog : Catalog} {fault : FileFault} {after : FileTree}
      (loaded : s.loaded tree = .ok (path, catalog))
      (refused : tree.createDirectories s.directory = (.error fault, after))
      (adds : FileTree.AddsDirectories tree after s.directory.parents) :
      LeftBehind s tree (.output s.directory (.createDirectory s.directory fault)) after
  /-- A file could not be written: those planned before it are there, and nothing has come of it or
  of those behind it. -/
  | file {path : Path} {catalog : Catalog} {done later : List Binding.PlannedFile}
      {f : Binding.PlannedFile} {fault : FileFault} {location : Location} {after : FileTree}
      (loaded : s.loaded tree = .ok (path, catalog))
      (split : s.planned catalog = done ++ f :: later)
      (refused : after.writeBytes (s.directory.join ⟨f.name⟩) f.content.toUTF8 = .error fault)
      (stopped : Stopped tree s.directory done (f :: later) location after) :
      LeftBehind s tree (.output s.directory (.writeFile (s.directory.join ⟨f.name⟩) fault)) after

/-- Every generation that fails leaves behind what the place of its failure tells. -/
theorem generation_leaves {s : Setting} {tree after : FileTree} {failure : Failure}
    (failed : s.generation tree = (.error failure, after)) : LeftBehind s tree failure after := by
  rcases generation_eq_error_iff.mp failed with
    ⟨unloaded, rfl⟩ | ⟨path, catalog, error, loaded, ran, rfl⟩
  · exact .loading unloaded (loaded_ne_output unloaded)
  · obtain ⟨text, -, held⟩ := (loaded_eq_ok_iff.mp loaded).2
    obtain ⟨plain, distinct⟩ := Binding.plan_names (Catalog.outline_valid held) s.options
    rcases Binding.runWrite_outcome plain distinct ran with ⟨fault, refused, same⟩ |
      ⟨done, rest, location, split, written, ⟨-, succeeded⟩ | ⟨f, later, fault, rfl, refused, same⟩⟩
    · cases same
      exact .directory loaded refused (FileTree.createDirectories_refused refused)
    · cases succeeded
    · cases same
      exact .file loaded split refused (written.stopped (split ▸ distinct))

/-- A catalog of two namespaces, and a directory in the way of the second one's file. -/
def obstructedTree : FileTree :=
  let tree := catalogTree "\x7b\"A\":\x7b\x7d,\"B\":\x7b\x7d\x7d"
  let tree := tree.put [] "out" .directory (.inl rfl) (by decide +kernel)
  tree.put ["out"] "B.lua" .directory (by decide +kernel) (by decide +kernel)

/-- What comes of writing its bindings. -/
def obstructedRun : Except Failure GenerationSummary × FileTree :=
  (generationInto "out" .none).generation obstructedTree

theorem generation_leaves_first :
    obstructedRun.1 = .error (.output ⟨"/out"⟩ (.writeFile ⟨"/out/B.lua"⟩ .isDirectory)) ∧
      LeftBehind (generationInto "out" .none) obstructedTree
        (.output ⟨"/out"⟩ (.writeFile ⟨"/out/B.lua"⟩ .isDirectory)) obstructedRun.2 ∧
      obstructedRun.2.readText ⟨"/out/A.lua"⟩ = .ok "A = \x7b\x7d\n\n\n" := by
  have fails : obstructedRun.1 =
      .error (.output ⟨"/out"⟩ (.writeFile ⟨"/out/B.lua"⟩ .isDirectory)) := by decide +kernel
  have ran : (generationInto "out" .none).generation obstructedTree =
      (.error (.output ⟨"/out"⟩ (.writeFile ⟨"/out/B.lua"⟩ .isDirectory)), obstructedRun.2) :=
    Prod.ext fails rfl
  exact ⟨fails, generation_leaves ran, by decide +kernel⟩

/-- A catalog of one namespace. -/
def smallTree : FileTree := catalogTree "\x7b\"N\":\x7b\x7d\x7d"

/-- What comes of writing its bindings to where a path leads down and up again. -/
def detouredRun : Except Failure GenerationSummary × FileTree :=
  (generationInto "N.lua/.." .none).generation smallTree

/-- If a directory that is made on the way goes by the name of a planned file, the file cannot be
written, and yet its place has changed: nothing was there, and now a directory is. -/
theorem generation_fills_place :
    detouredRun.1 = .error (.output ⟨"/N.lua/.."⟩ (.writeFile ⟨"/N.lua/../N.lua"⟩ .isDirectory)) ∧
      detouredRun.2.walk ⟨"/N.lua/.."⟩ = .ok [] ∧
      ¬detouredRun.2.get? ["N.lua"] = smallTree.get? ["N.lua"] :=
  ⟨by decide +kernel, by decide +kernel, by decide +kernel⟩

end Project

end LuaBindings
