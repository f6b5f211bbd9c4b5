import LuaBindings.Proofs.Project.Running
/-!
# Generating again

A generation that has succeeded can be run again with the same outcome, and the tree stays as the
first run left it, unless that run wrote over the catalog. What the first run adds to the tree is no
catalog by its name, so the second run finds the catalog where the first one did; and it finds the
directories and the files there already that it is to make.
-/

namespace LuaBindings.Project

open LuaBindings.Path (PlainName)

variable {s : Setting} {tree after : FileTree} {path project : Path} {summary : GenerationSummary}

/-! ## The catalog -/

/-- A path that led to a file still does. -/
theorem isFile_stays (s : Setting) (h : tree.isFile path = true) :
    (s.generation tree).2.isFile path = true := by
  obtain ⟨l, content, located, held⟩ := FileTree.isFile_iff.mp h
  obtain ⟨accepted, walked⟩ := FileTree.locate_eq_ok_iff.mp located
  have still : (s.generation tree).2.locate path = .ok l :=
    FileTree.locate_eq_ok_iff.mpr ⟨accepted, (generation_grows s tree).follow walked⟩
  rcases generation_altered s tree l with same | altered
  · exact FileTree.isFile_iff.mpr ⟨l, content, still, same.trans held⟩
  · obtain ⟨now, found⟩ := altered.file_stays held
    exact FileTree.isFile_iff.mpr ⟨l, now, still, found⟩

theorem plainName_natives : PlainName "natives.json" :=
  ⟨by decide, by decide, by decide, by decide⟩

/-- If a generation leaves a file of a catalog's name in a directory that was there, then the file
was there. -/
theorem isFile_natives {directory : Location} (s : Setting) (leads : tree.walk project = .ok directory)
    (isDirectory : tree.IsDirectory directory)
    (h : (s.generation tree).2.isFile (project.join ⟨"natives.json"⟩) = true) :
    tree.isFile (project.join ⟨"natives.json"⟩) = true := by
  obtain ⟨l, content, located, held⟩ := FileTree.isFile_iff.mp h
  obtain ⟨accepted, walked⟩ := FileTree.locate_eq_ok_iff.mp located
  obtain ⟨found, leadsAfter, -, short, rfl, -⟩ :=
    (FileTree.walk_join_eq_ok_iff plainName_natives).mp walked
  have same : found = directory :=
    Except.ok.inj (leadsAfter.symm.trans ((generation_grows s tree).follow leads))
  subst same
  have before : tree.get? (found ++ ["natives.json"]) = some (.file content) := by
    rcases generation_altered s tree (found ++ ["natives.json"]) with unchanged | altered
    · rw [← unchanged]
      exact held
    · generalize place : found ++ ["natives.json"] = l at altered held
      cases altered with
      | @file _ stem =>
          have names := List.append_inj_right' place rfl
          exact absurd (List.singleton_inj.mp names).symm (Binding.bindings_ne (by decide) stem)
      | directory free now =>
          rw [held] at now
          cases now
  refine FileTree.isFile_iff.mpr ⟨_, content, FileTree.locate_eq_ok_iff.mpr ⟨accepted, ?_⟩, before⟩
  refine (FileTree.walk_join_eq_ok_iff plainName_natives).mpr
    ⟨found, leads, isDirectory, short, rfl, ?_⟩
  rw [before]
  nofun

/-- The catalog is found where it was. -/
theorem located_stays (h : s.located tree = .ok path) :
    s.located (s.generation tree).2 = .ok path := by
  rw [Setting.located] at h ⊢
  cases configured : configuredCatalog s.project s.workingDir s.manifest s.request.catalog with
  | some named =>
      simp only [configured] at h ⊢
      split at h
      · rename_i isFile
        rw [if_pos (isFile_stays s isFile)]
        exact h
      · cases h
  | none =>
      simp only [configured, catalogCandidates, List.map_cons, List.map_nil] at h ⊢
      cases first : tree.isFile (s.project.join ⟨"natives.json"⟩) with
      | true =>
          rw [List.find?_cons_of_pos first] at h
          rw [List.find?_cons_of_pos (isFile_stays s first)]
          exact h
      | false =>
          rw [List.find?_cons_of_neg (by simp [first])] at h
          cases second : tree.isFile (s.project.join ⟨"gta5-nativedb-data/natives.json"⟩) with
          | false =>
              rw [List.find?_cons_of_neg (by simp [second])] at h
              cases h
          | true =>
              rw [List.find?_cons_of_pos second] at h
              -- The project is a directory that was there, so it gets no catalog of the first name.
              obtain ⟨l, content, located, -⟩ := FileTree.isFile_iff.mp second
              obtain ⟨directory, leads, isDirectory⟩ :=
                FileTree.walk_of_join (by decide) (FileTree.locate_eq_ok_iff.mp located).2
              have none : ¬(s.generation tree).2.isFile (s.project.join ⟨"natives.json"⟩) = true := by
                intro found
                rw [isFile_natives s leads isDirectory found] at first
                cases first
              rw [List.find?_cons_of_neg none, List.find?_cons_of_pos (isFile_stays s second)]
              exact h

/-! ## Whole runs -/

/-- If no file was written over the catalog, generating again tells the same and changes nothing. -/
theorem generation_again (ran : s.generation tree = (.ok summary, after))
    (apart : ∀ file ∈ summary.files, after.locate file.1 ≠ after.locate summary.catalog) :
    ∃ again, s.generation after = (.ok summary, again) ∧ ∀ l, again.get? l = after.get? l := by
  have left : (s.generation tree).2 = after := congrArg Prod.snd ran
  obtain ⟨path, catalog, paths, loaded, wrote, rfl⟩ := generation_eq_ok_iff.mp ran
  obtain ⟨located, text, read, held⟩ := loaded_eq_ok_iff.mp loaded
  obtain ⟨plain, distinct⟩ := s.planned_names held
  obtain ⟨rfl, directory, written⟩ := Binding.runWrite_written plain distinct wrote
  have grows := generation_grows s tree
  rw [left] at grows
  have stand := written.stands plain
  -- The catalog is no file that was written, and nothing else that was there has changed.
  have unchanged : ∀ l, tree.locate path = .ok l → after.get? l = tree.get? l := by
    intro l found
    obtain ⟨accepted, walked⟩ := FileTree.locate_eq_ok_iff.mp found
    have foundAgain : after.locate path = .ok l :=
      FileTree.locate_eq_ok_iff.mpr ⟨accepted, grows.follow walked⟩
    have other : ∀ f ∈ s.planned catalog, l ≠ directory ++ [f.name] := by
      rintro f member rfl
      apply apart (s.directory.join ⟨f.name⟩, f.functionCount)
      · rw [s.summary_files path catalog]
        exact List.mem_map.mpr ⟨f, member, rfl⟩
      · exact (stand f member).trans foundAgain.symm
    rcases written.others l other with same | ⟨free, -⟩
    · exact same
    · obtain ⟨l', content, located', file⟩ := FileTree.readText_file read
      rw [Except.ok.inj (found.symm.trans located'), file] at free
      cases free
  have loadedAgain : s.loaded after = .ok (path, catalog) := by
    refine loaded_eq_ok_iff.mpr ⟨?_, text, FileTree.readText_stays grows read unchanged, held⟩
    rw [← left]
    exact located_stays located
  have created : after.createDirectories s.directory = (.ok (), after) :=
    FileTree.createDirectories_of_directory (Binding.runWrite_accepted wrote) written.leads
      written.isDirectory
  obtain ⟨again, ranAgain, same⟩ := Binding.runWriteAll_again plain fun f member =>
    ⟨_, stand f member, written.entries f member⟩
  refine ⟨again, generation_eq_ok_iff.mpr ⟨path, catalog, _, loadedAgain, ?_, rfl⟩, same⟩
  rw [Binding.runWrite_of_ok created]
  exact ranAgain

/-- A file in the place of a file of bindings. -/
def staleTree : FileTree :=
  twoTree.put ["lua"] "N.lua" (.file .empty) twoTree_isDirectory (by decide +kernel)

/-- What comes of writing the bindings there. -/
def staleRun : Except Failure GenerationSummary × FileTree :=
  (generationInto "lua" .none).generation staleTree

/-- What is told of it. -/
def staleSummary : GenerationSummary where
  catalog := ⟨"/c.json"⟩
  files := [(⟨"/lua/M.lua"⟩, 0), (⟨"/lua/N.lua"⟩, 0)]
  namespaces := 2
  functions := 0
  fixups := 0

theorem generation_again_stale :
    staleRun.1 = .ok staleSummary ∧ staleRun.2.get? ["lua", "N.lua"] ≠ staleTree.get? ["lua", "N.lua"] ∧
      ∃ again, (generationInto "lua" .none).generation staleRun.2 = (.ok staleSummary, again) ∧
        ∀ l, again.get? l = staleRun.2.get? l := by
  have succeeds : staleRun.1 = .ok staleSummary := by decide +kernel
  have ran : (generationInto "lua" .none).generation staleTree = (.ok staleSummary, staleRun.2) :=
    Prod.ext succeeds rfl
  refine ⟨succeeds, by decide +kernel, generation_again ran ?_⟩
  show ∀ file ∈ [((⟨"/lua/M.lua"⟩ : Path), 0), (⟨"/lua/N.lua"⟩, 0)],
    staleRun.2.locate file.1 ≠ staleRun.2.locate ⟨"/c.json"⟩
  rw [List.forall_mem_cons, List.forall_mem_singleton]
  exact ⟨by decide +kernel, by decide +kernel⟩

end LuaBindings.Project
