import LuaBindings.Proofs.Binding.Planning
import LuaBindings.Proofs.Project.Running
/-!
# The two output modes

A catalog is written to a file for each of its namespaces, or to a single file for all of them. On
disk the single file is the others one after another, and both runs count the same.
-/

namespace LuaBindings

/-- The bytes of the file that a path leads to. -/
def FileTree.bytes? (tree : FileTree) (path : Path) : Option ByteArray :=
  match tree.locate path with
  | .error _ => none
  | .ok location =>
    match tree.get? location with
    | some (.file content) => some content
    | _ => none

/-- A file that is read as a text has the bytes of the text. -/
theorem FileTree.bytes?_eq_some {tree : FileTree} {path : Path} {text : String}
    (h : tree.readText path = .ok text) : tree.bytes? path = some text.toUTF8 := by
  rw [readText, bind_eq_ok] at h
  obtain ⟨location, located, h⟩ := h
  rw [bytes?, located]
  split at h
  · rename_i content held
    split at h
    · rename_i read
      cases h
      rw [String.fromUTF8?] at read
      split at read
      · cases read
        simp only [held]
        rfl
      · cases read
    · cases h
  · cases h

/-- The bytes of joined texts are those of the texts. -/
theorem toUTF8_join (texts : List String) :
    (String.join texts).toUTF8 = (texts.map String.toUTF8).foldl (· ++ ·) .empty := by
  -- Over the texts still to come, behind any that are there.
  have behind : ∀ text : String, (texts.foldl (· ++ ·) text).toUTF8 =
      (texts.map String.toUTF8).foldl (· ++ ·) text.toUTF8 := by
    induction texts with
    | nil =>
        intro text
        rfl
    | cons next others ih =>
        intro text
        have appended : (text ++ next).toUTF8 = text.toUTF8 ++ next.toUTF8 :=
          String.toByteArray_append
        rw [List.foldl_cons, ih, appended, List.map_cons, List.foldl_cons]
  exact behind ""

namespace Project

variable {s split single : Setting} {tree after splitTree singleTree : FileTree} {text : String}
  {catalog : Catalog} {summary splitSummary singleSummary : GenerationSummary}

/-- Every planned file is on disk with the bytes of its content. -/
theorem Generated.bytes (h : Generated s tree catalog summary after) :
    summary.files.map (fun file => after.bytes? file.1) =
      ((s.planned catalog).map (·.content.toUTF8)).map some := by
  obtain ⟨location, written⟩ := h.written
  rw [h.files, List.map_map, List.map_map]
  refine List.map_congr_left ?_
  intro f member
  exact FileTree.bytes?_eq_some (written.texts f member)

/-- The number of functions in the files of a summary. -/
def GenerationSummary.filed (summary : GenerationSummary) : Nat :=
  summary.files.foldr (fun file count => file.2 + count) 0

theorem Generated.filed (h : Generated s tree catalog summary after) :
    summary.filed = summary.functions := by
  rw [GenerationSummary.filed, h.files, h.functions, List.foldr_map]
  exact Binding.count_plan catalog s.options

/-- A file that was not there before is one of those planned. -/
theorem Generated.get?_file (h : Generated s tree catalog summary after) {l : Location}
    {content : ByteArray} (held : after.get? l = some (.file content)) :
    tree.get? l = some (.file content) ∨
      ∃ location, after.walk s.directory = .ok location ∧
        ∃ f ∈ s.planned catalog, l = location ++ [f.name] := by
  obtain ⟨location, written⟩ := h.written
  by_cases planned : ∃ f ∈ s.planned catalog, l = location ++ [f.name]
  · exact .inr ⟨location, written.leads, planned⟩
  · rw [not_exists] at planned
    rcases written.others l fun f member same => planned f ⟨member, same⟩ with same | ⟨-, new, -⟩
    · exact .inl (same.symm.trans held)
    · rw [held] at new
      cases new

/-- How a run in split mode and one in single-file mode go together. -/
structure ModesAgree (tree : FileTree) (catalog : Catalog) (split single : Setting)
    (splitSummary singleSummary : GenerationSummary) (splitTree singleTree : FileTree) : Prop where
  /-- One file for each namespace. -/
  splitFiles : splitSummary.files =
    catalog.namespaces.map fun ns =>
      (split.directory.join ⟨ns.name ++ ".lua"⟩, ns.functions.length)
  singleFile : singleSummary.files =
    [(single.directory.join ⟨"natives.lua"⟩, catalog.functionCount)]
  /-- No other file has come of the single run. -/
  singleOnly : ∀ l content, singleTree.get? l = some (.file content) →
    tree.get? l = some (.file content) ∨
      ∃ location, singleTree.walk single.directory = .ok location ∧
        l = location ++ ["natives.lua"]
  /-- The single file holds what the others hold, one after another. -/
  bytes : ∃ contents : List ByteArray,
    splitSummary.files.map (fun file => splitTree.bytes? file.1) = contents.map some ∧
      singleTree.bytes? (single.directory.join ⟨"natives.lua"⟩) =
        some (contents.foldl (· ++ ·) .empty)
  /-- Without namespaces there is no file in the one mode and an empty file in the other. -/
  empty : catalog.namespaces = [] → splitSummary.files = [] ∧
    singleTree.bytes? (single.directory.join ⟨"natives.lua"⟩) = some .empty
  splitFiled : splitSummary.filed = splitSummary.functions
  singleFiled : singleSummary.filed = singleSummary.functions
  namespaces : splitSummary.namespaces = singleSummary.namespaces
  functions : splitSummary.functions = singleSummary.functions
  fixups : splitSummary.fixups = singleSummary.fixups

/-- Runs in the two modes that read the same text agree, wherever they write and whatever else they
put into the files. -/
theorem generation_modesAgree (loaded : Catalog.load text = .ok catalog)
    (comments : split.options.comments = single.options.comments)
    (signatures : split.options.signatures = single.options.signatures)
    (isSplit : split.options.singleFile = false) (isSingle : single.options.singleFile = true)
    (splitRan : split.generation tree = (.ok splitSummary, splitTree))
    (splitRead : tree.readText splitSummary.catalog = .ok text)
    (singleRan : single.generation tree = (.ok singleSummary, singleTree))
    (singleRead : tree.readText singleSummary.catalog = .ok text) :
    ModesAgree tree catalog split single splitSummary singleSummary splitTree singleTree := by
  have splitHolds := generation_generated loaded splitRan splitRead
  have singleHolds := generation_generated loaded singleRan singleRead
  have splitFiles : splitSummary.files = catalog.namespaces.map fun ns =>
      (split.directory.join ⟨ns.name ++ ".lua"⟩, ns.functions.length) := by
    rw [splitHolds.files, Setting.planned, Binding.plan_split isSplit, List.map_map]
    rfl
  have singleFile : singleSummary.files =
      [(single.directory.join ⟨"natives.lua"⟩, catalog.functionCount)] := by
    rw [singleHolds.files, Setting.planned, Binding.plan_single isSingle]
    rfl
  have contents : ((split.planned catalog).map (·.content.toUTF8)) =
      (catalog.namespaces.map (Binding.fileText single.options)).map String.toUTF8 := by
    rw [Setting.planned, Binding.plan_split isSplit, List.map_map, List.map_map]
    refine List.map_congr_left ?_
    intro ns _
    exact congrArg String.toUTF8 (Binding.fileText_congr comments signatures ns)
  have whole : singleTree.bytes? (single.directory.join ⟨"natives.lua"⟩) =
      some (((split.planned catalog).map (·.content.toUTF8)).foldl (· ++ ·) .empty) := by
    have held := singleHolds.bytes
    rw [singleFile, Setting.planned, Binding.plan_single isSingle] at held
    rw [contents, ← toUTF8_join]
    exact List.singleton_inj.mp held
  have only : ∀ l content, singleTree.get? l = some (.file content) →
      tree.get? l = some (.file content) ∨
        ∃ location, singleTree.walk single.directory = .ok location ∧
          l = location ++ ["natives.lua"] := by
    intro l content held
    refine (singleHolds.get?_file held).imp_right ?_
    rintro ⟨location, leads, f, member, rfl⟩
    rw [Setting.planned, Binding.plan_single isSingle] at member
    cases List.mem_singleton.mp member
    exact ⟨location, leads, rfl⟩
  refine ⟨splitFiles, singleFile, only, ⟨_, splitHolds.bytes, whole⟩, ?_, splitHolds.filed,
    singleHolds.filed, splitHolds.namespaces.trans singleHolds.namespaces.symm,
    splitHolds.functions.trans singleHolds.functions.symm,
    splitHolds.fixups.trans singleHolds.fixups.symm⟩
  intro none
  rw [splitFiles, whole, Setting.planned, Binding.plan_split isSplit, none]
  exact ⟨rfl, rfl⟩

/-- Two namespaces, the first of them with a function. -/
def modesText : String :=
  "\x7b\"A\":\x7b\"0x1\":[\"F\",\"\",[],\"void\",null,null]\x7d,\"B\":\x7b\x7d\x7d"

/-- The catalog of it. -/
def modesCatalog : Catalog := ⟨[⟨"A", [⟨"F", "0x1", 0, "void", [], "", none, none⟩]⟩, ⟨"B", []⟩]⟩

/-- A run in split mode. -/
def splitRun : Except Failure GenerationSummary × FileTree :=
  (generationInto "out" ⟨true, false, false⟩).generation (catalogTree modesText)

/-- A run in single-file mode. -/
def singleRun : Except Failure GenerationSummary × FileTree :=
  (generationInto "one/" ⟨true, false, true⟩).generation (catalogTree modesText)

theorem generation_modesAgree_two :
    splitRun.1 = .ok ⟨⟨"/c.json"⟩, [(⟨"/out/A.lua"⟩, 1), (⟨"/out/B.lua"⟩, 0)], 2, 1, 0⟩ ∧
      singleRun.1 = .ok ⟨⟨"/c.json"⟩, [(⟨"/one/natives.lua"⟩, 1)], 2, 1, 0⟩ ∧
      ModesAgree (catalogTree modesText) modesCatalog (generationInto "out" ⟨true, false, false⟩)
        (generationInto "one/" ⟨true, false, true⟩)
        ⟨⟨"/c.json"⟩, [(⟨"/out/A.lua"⟩, 1), (⟨"/out/B.lua"⟩, 0)], 2, 1, 0⟩
        ⟨⟨"/c.json"⟩, [(⟨"/one/natives.lua"⟩, 1)], 2, 1, 0⟩ splitRun.2 singleRun.2 := by
  have loaded : Catalog.load modesText = .ok modesCatalog := by decide +kernel
  have read : (catalogTree modesText).readText ⟨"/c.json"⟩ = .ok modesText := by decide +kernel
  have split : splitRun.1 =
      .ok ⟨⟨"/c.json"⟩, [(⟨"/out/A.lua"⟩, 1), (⟨"/out/B.lua"⟩, 0)], 2, 1, 0⟩ := by decide +kernel
  have single : singleRun.1 = .ok ⟨⟨"/c.json"⟩, [(⟨"/one/natives.lua"⟩, 1)], 2, 1, 0⟩ := by
    decide +kernel
  exact ⟨split, single, generation_modesAgree loaded rfl rfl rfl rfl (Prod.ext split rfl) read
    (Prod.ext single rfl) read⟩

end Project

end LuaBindings
