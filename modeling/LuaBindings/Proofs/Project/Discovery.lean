import LuaBindings.Proofs.Project.Running
/-!
# Finding the manifest

The directories from a start upward are looked at one after another. The first that has a manifest
decides: what its manifest says, or why it cannot be read, is what comes of the search, and nothing
else of the tree counts.
-/

namespace LuaBindings.Project

variable {tree : FileTree} {start directory : Path}

/-- Where the manifest of a directory lies. -/
def manifestPath (directory : Path) : Path := directory.join ⟨Manifest.fileName⟩

/-- The nearest directory from `start` upward that has a manifest. -/
def nearest? (tree : FileTree) (start : Path) : Option Path :=
  start.ancestors.find? fun directory => tree.isFile (manifestPath directory)

/-- What the manifest of a directory says. -/
def manifestIn (tree : FileTree) (directory : Path) : Except Failure Manifest :=
  match tree.readText (manifestPath directory) with
  | .error fault => .error (.unreadableManifest (manifestPath directory) fault)
  | .ok text => (Manifest.read text).mapError (.malformedManifest (manifestPath directory))

/-- What comes of the search where some directory has been found, or none. -/
def decided (tree : FileTree) : Option Path → Except Failure (Option (Manifest × Path))
  | none => .ok none
  | some directory => (manifestIn tree directory).map fun manifest => some (manifest, directory)

/-- Looking for a manifest leaves the tree as it is. -/
theorem run_firstManifest (tree : FileTree) (directories : List Path) :
    (firstManifest (m := StateM FileTree) directories).run.run tree =
      (decided tree (directories.find? fun directory => tree.isFile (manifestPath directory)),
        tree) := by
  induction directories with
  | nil => rfl
  | cons directory others ih =>
      rw [firstManifest, run_bind_of_ok (run_isFile tree _), List.find?_cons, ← manifestPath]
      cases tree.isFile (manifestPath directory) with
      | false => exact ih
      | true =>
          rw [if_pos rfl, run_bind_of_ok (run_readText tree _), decided, manifestIn]
          cases tree.readText (manifestPath directory) with
          | error fault => rfl
          | ok text =>
              simp only []
              cases Manifest.read text with
              | error error => rfl
              | ok manifest => rfl

theorem run_findManifest (tree : FileTree) (start : Path) :
    (findManifest (m := StateM FileTree) start).run.run tree =
      (decided tree (nearest? tree start), tree) :=
  run_firstManifest tree start.ancestors

/-- A directory that has a manifest, with none on the way up to it, is the nearest. -/
theorem nearest?_of_split {nearer others : List Path}
    (split : start.ancestors = nearer ++ directory :: others)
    (without : ∀ d ∈ nearer, ¬tree.isFile (manifestPath d) = true)
    (has : tree.isFile (manifestPath directory) = true) : nearest? tree start = some directory := by
  rw [nearest?, split, List.find?_append, List.find?_eq_none.mpr without, Option.none_or]
  exact List.find?_cons_of_pos has

/-- A project whose bindings go where its manifest and its catalog lie, with a directory in it. -/
def crampedTree : FileTree :=
  let manifest := "[catalog]\npath = \"N.lua\"\n[output]\ndir = \"\"\n"
  let tree := FileTree.empty.put [] "p" .directory empty_isDirectory_root (by decide +kernel)
  let tree := tree.put ["p"] "a" .directory (by decide +kernel) (by decide +kernel)
  let tree := tree.put ["p"] Manifest.fileName (.file manifest.toUTF8) (by decide +kernel)
    (by decide +kernel)
  tree.put ["p"] "N.lua" (.file "\x7b\"N\":\x7b\x7d\x7d".toUTF8) (by decide +kernel)
    (by decide +kernel)

end LuaBindings.Project
