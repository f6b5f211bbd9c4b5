import LuaBindings.Proofs.Project.Discovery
import LuaBindings.Proofs.Project.OutputModes
/-!
# The nearest manifest

From the start one climbs part by part. The first path that has a file for a manifest decides: it is
the project, or its manifest is what is wrong. A manifest further up does not make up for one that
cannot be used, and no directory of that name counts for one.
-/

namespace LuaBindings

/-! ## Files and their bytes -/

namespace FileTree

variable {tree : FileTree} {path : Path} {content : ByteArray}

theorem bytes?_eq_some_iff :
    tree.bytes? path = some content ↔
      ∃ l, tree.locate path = .ok l ∧ tree.get? l = some (.file content) := by
  unfold bytes?
  cases tree.locate path with
  | error fault => simp
  | ok l =>
      cases held : tree.get? l with
      | none => simp [held]
      | some entry =>
          cases entry with
          | directory => simp [held]
          | file other => simp [held]

/-- A path leads to a file exactly when there are bytes to be read. -/
theorem isFile_iff_bytes? :
    tree.isFile path = true ↔ ∃ content, tree.bytes? path = some content := by
  rw [isFile_iff]
  constructor
  · rintro ⟨l, content, located, held⟩
    exact ⟨content, bytes?_eq_some_iff.mpr ⟨l, located, held⟩⟩
  · rintro ⟨content, holds⟩
    obtain ⟨l, located, held⟩ := bytes?_eq_some_iff.mp holds
    exact ⟨l, content, located, held⟩

theorem not_isFile_iff : ¬tree.isFile path = true ↔ tree.bytes? path = none := by
  rw [isFile_iff_bytes?, Option.eq_none_iff_forall_ne_some, not_exists]

/-- What is read of a file are its bytes, if they are those of a text. -/
theorem readText_of_bytes? (holds : tree.bytes? path = some content) :
    tree.readText path =
      match String.fromUTF8? content with
      | some text => .ok text
      | none => .error .notText := by
  obtain ⟨l, located, held⟩ := bytes?_eq_some_iff.mp holds
  rw [readText, located]
  simp only [bind, Except.bind, held]
  rfl

end FileTree

namespace Project

variable {tree : FileTree} {start directory : Path} {content : ByteArray}

/-! ## Climbing to a manifest -/

/-- The search is a loop: it looks at a path and, where no manifest is, goes on from the path one
part up until there is none. -/
theorem findManifest_eq {m : Type → Type} [Monad m] [FileSystem m] (start : Path) :
    findManifest (m := m) start = (do
      if ← FileSystem.isFile (manifestPath start) then
        match ← FileSystem.readText (manifestPath start) with
        | .error fault => throw (.unreadableManifest (manifestPath start) fault)
        | .ok text =>
          match Manifest.read text with
          | .error error => throw (.malformedManifest (manifestPath start) error)
          | .ok manifest => return some (manifest, start)
      else
        match start.parent? with
        | none => return none
        | some up => findManifest up) := by
  have others : firstManifest (m := m) start.parents =
      match start.parent? with
      | none => return none
      | some up => findManifest up := by
    cases higher : start.parent? with
    | none =>
        rw [Path.parents_eq_nil higher]
        rfl
    | some up =>
        rw [(Path.stepsUp_parent higher).parents]
        rfl
  rw [← others]
  rfl

/-- So many steps up lies the first path with a manifest, which has these bytes. -/
structure Nearest (tree : FileTree) (start : Path) (steps : Nat) (directory : Path)
    (content : ByteArray) : Prop where
  reached : start.climb steps = some directory
  has : tree.bytes? (manifestPath directory) = some content
  first : ∀ fewer < steps, ∀ nearer, start.climb fewer = some nearer →
    tree.bytes? (manifestPath nearer) = none

theorem nearest?_eq_none_iff :
    nearest? tree start = none ↔
      ∀ steps directory, start.climb steps = some directory →
        tree.bytes? (manifestPath directory) = none := by
  unfold nearest?
  rw [List.find?_eq_none]
  constructor
  · intro without steps directory reached
    rw [← Path.getElem?_ancestors] at reached
    exact FileTree.not_isFile_iff.mp (without directory (List.mem_of_getElem? reached))
  · intro without directory member
    obtain ⟨steps, reached⟩ := List.mem_iff_getElem?.mp member
    rw [Path.getElem?_ancestors] at reached
    exact FileTree.not_isFile_iff.mpr (without steps directory reached)

/-- The first path with a manifest is the one that the search decides for. -/
theorem Nearest.found {steps : Nat} (nearest : Nearest tree start steps directory content) :
    nearest? tree start = some directory := by
  have reached := nearest.reached
  rw [← Path.getElem?_ancestors] at reached
  obtain ⟨inside, same⟩ := List.getElem?_eq_some_iff.mp reached
  -- The ancestors up to the one that is reached have been passed over.
  have split : start.ancestors =
      start.ancestors.take steps ++ directory :: start.ancestors.drop (steps + 1) := by
    rw [← same, List.cons_getElem_drop_succ, List.take_append_drop]
  refine nearest?_of_split split ?_ (FileTree.isFile_iff_bytes?.mpr ⟨content, nearest.has⟩)
  intro nearer member
  obtain ⟨fewer, before, rfl⟩ := List.mem_take_iff_getElem.mp member
  refine FileTree.not_isFile_iff.mpr (nearest.first fewer (by omega) _ ?_)
  rw [← Path.getElem?_ancestors]
  exact List.getElem?_eq_getElem _

/-- What is found is the first path with a manifest. -/
theorem nearest_of_found (found : nearest? tree start = some directory) :
    ∃ steps content, Nearest tree start steps directory content := by
  obtain ⟨has, steps, inside, same, without⟩ := List.find?_eq_some_iff_getElem.mp found
  obtain ⟨content, holds⟩ := FileTree.isFile_iff_bytes?.mp has
  refine ⟨steps, content, ?_, holds, ?_⟩
  · rw [← Path.getElem?_ancestors, List.getElem?_eq_some_iff]
    exact ⟨inside, same⟩
  · intro fewer before nearer reached
    rw [← Path.getElem?_ancestors] at reached
    obtain ⟨within, rfl⟩ := List.getElem?_eq_some_iff.mp reached
    exact FileTree.not_isFile_iff.mp (by simpa using without fewer before)

/-- A tree that has the same manifests up to the first has the same first one. -/
theorem Nearest.congr {other : FileTree} {steps : Nat}
    (nearest : Nearest tree start steps directory content)
    (same : ∀ fewer ≤ steps, ∀ nearer, start.climb fewer = some nearer →
      other.bytes? (manifestPath nearer) = tree.bytes? (manifestPath nearer)) :
    Nearest other start steps directory content where
  reached := nearest.reached
  has := (same steps (Nat.le_refl _) directory nearest.reached).trans nearest.has
  first := by
    intro fewer before nearer reached
    rw [same fewer (Nat.le_of_lt before) nearer reached]
    exact nearest.first fewer before nearer reached

/-! ## What comes of the search -/

/-- What comes of the search for a manifest. -/
def search (tree : FileTree) (start : Path) : Except Failure (Option (Manifest × Path)) :=
  ((findManifest (m := StateM FileTree) start).run.run tree).1

theorem search_eq (tree : FileTree) (start : Path) :
    search tree start = decided tree (nearest? tree start) := by
  rw [search, run_findManifest]

/-- What bytes of a manifest come to. -/
def judged (directory : Path) (content : ByteArray) : Except Failure (Option (Manifest × Path)) :=
  match String.fromUTF8? content with
  | none => .error (.unreadableManifest (manifestPath directory) .notText)
  | some text =>
    match Manifest.read text with
    | .error error => .error (.malformedManifest (manifestPath directory) error)
    | .ok manifest => .ok (some (manifest, directory))

/-- The first manifest decides, whatever is in it. -/
theorem Nearest.search_eq {steps : Nat} (nearest : Nearest tree start steps directory content) :
    search tree start = judged directory content := by
  rw [Project.search_eq, nearest.found, decided, manifestIn,
    FileTree.readText_of_bytes? nearest.has, judged]
  cases String.fromUTF8? content with
  | none => rfl
  | some text =>
      dsimp only
      cases Manifest.read text with
      | error error => rfl
      | ok manifest => rfl

theorem judged_ne_none (directory : Path) (content : ByteArray) :
    judged directory content ≠ .ok none := by
  intro none
  unfold judged at none
  split at none
  · cases none
  · split at none
    · cases none
    · cases none

/-- Nothing comes of the search exactly when no path has a file for a manifest. -/
theorem search_eq_none_iff :
    search tree start = .ok none ↔ ∀ steps directory, start.climb steps = some directory →
      tree.bytes? (manifestPath directory) = none := by
  rw [← nearest?_eq_none_iff]
  cases found : nearest? tree start with
  | none =>
      rw [search_eq, found]
      exact ⟨fun _ => rfl, fun _ => rfl⟩
  | some directory =>
      obtain ⟨steps, content, nearest⟩ := nearest_of_found found
      rw [nearest.search_eq]
      constructor
      · intro none
        exact absurd none (judged_ne_none directory content)
      · intro none
        cases none

/-- What comes of the search depends on the manifests up to the first alone. -/
theorem search_congr {other : FileTree}
    (same : ∀ steps directory, start.climb steps = some directory →
      (∀ fewer < steps, ∀ nearer, start.climb fewer = some nearer →
        tree.bytes? (manifestPath nearer) = none) →
      other.bytes? (manifestPath directory) = tree.bytes? (manifestPath directory)) :
    search other start = search tree start := by
  cases found : nearest? tree start with
  | none =>
      have without := nearest?_eq_none_iff.mp found
      have withoutToo : search other start = .ok none := by
        apply search_eq_none_iff.mpr
        intro steps directory reached
        rw [same steps directory reached fun fewer _ => without fewer]
        exact without steps directory reached
      rw [withoutToo, search_eq_none_iff.mpr without]
  | some directory =>
      obtain ⟨steps, content, nearest⟩ := nearest_of_found found
      have nearestToo : Nearest other start steps directory content := by
        apply nearest.congr
        intro fewer before nearer reached
        apply same fewer nearer reached
        intro still less
        exact nearest.first still (by omega)
      rw [nearest.search_eq, nearestToo.search_eq]

/-- The climb ends, and the search leaves the tree as it is. Nothing comes of it exactly when no
path has a file for a manifest. Otherwise the first such file decides: where it is no text or no
manifest, the failure names that very file, and where it is one, the path that it was found at comes
with it. Nothing else of the tree has any bearing on what comes of the search. -/
theorem findManifest_nearest (tree : FileTree) (start : Path) :
    start.climb (start.text.length + 1) = none ∧
    ((findManifest (m := StateM FileTree) start).run.run tree).2 = tree ∧
    (search tree start = .ok none ↔ ∀ steps directory, start.climb steps = some directory →
      tree.bytes? (manifestPath directory) = none) ∧
    (∀ steps directory content, Nearest tree start steps directory content →
      (String.fromUTF8? content = none → ∃ failure, search tree start = .error failure ∧
        ∀ wording, failure.message wording = "reading " ++ (manifestPath directory).text ++ ": " ++
          FileFault.notText.message) ∧
      ∀ text, String.fromUTF8? content = some text →
        (∀ error, Manifest.read text = .error error →
          ∃ failure, search tree start = .error failure ∧
            ∀ wording, failure.message wording = "parsing " ++ (manifestPath directory).text ++
              ": " ++ wording.manifest error) ∧
        ∀ manifest, Manifest.read text = .ok manifest →
          search tree start = .ok (some (manifest, directory))) ∧
    ∀ other : FileTree,
      (∀ steps directory, start.climb steps = some directory →
        (∀ fewer < steps, ∀ nearer, start.climb fewer = some nearer →
          tree.bytes? (manifestPath nearer) = none) →
        other.bytes? (manifestPath directory) = tree.bytes? (manifestPath directory)) →
      search other start = search tree start := by
  refine ⟨start.climb_ends, ?_, search_eq_none_iff, ?_, fun _ => search_congr⟩
  · rw [run_findManifest]
  · intro steps directory content nearest
    rw [nearest.search_eq, judged]
    constructor
    · intro notText
      rw [notText]
      exact ⟨_, rfl, fun _ => rfl⟩
    · intro text read
      rw [read]
      constructor
      · intro error malformed
        simp only [malformed]
        exact ⟨_, rfl, fun _ => rfl⟩
      · intro manifest fine
        simp only [fine]

/-- A manifest that cannot be used below one that can, and below both a directory of that name. -/
def nestedTree : FileTree :=
  let tree := FileTree.empty.put [] "w" .directory empty_isDirectory_root (by decide +kernel)
  let tree := tree.put ["w"] Manifest.fileName (.file "".toUTF8) (by decide +kernel)
    (by decide +kernel)
  let tree := tree.put ["w"] "q" .directory (by decide +kernel) (by decide +kernel)
  let tree := tree.put ["w", "q"] Manifest.fileName (.file "catalog = 1".toUTF8) (by decide +kernel)
    (by decide +kernel)
  let tree := tree.put ["w", "q"] "r" .directory (by decide +kernel) (by decide +kernel)
  tree.put ["w", "q", "r"] Manifest.fileName .directory (by decide +kernel) (by decide +kernel)

theorem findManifest_nearest_nested :
    Nearest nestedTree ⟨"/w/q/r/s"⟩ 2 ⟨"/w/q"⟩ "catalog = 1".toUTF8 ∧
      ∃ failure, search nestedTree ⟨"/w/q/r/s"⟩ = .error failure ∧
        ∀ wording, failure.message wording =
          "parsing /w/q/nativegen.toml: " ++ wording.manifest (.wrongType "catalog") := by
  have nearest : Nearest nestedTree ⟨"/w/q/r/s"⟩ 2 ⟨"/w/q"⟩ "catalog = 1".toUTF8 := by
    refine ⟨by decide +kernel, by decide +kernel, ?_⟩
    intro fewer before nearer reached
    have cases : fewer = 0 ∨ fewer = 1 := by omega
    rcases cases with rfl | rfl
    · cases reached
      decide +kernel
    · have same : nearer = ⟨"/w/q/r"⟩ := by
        have climbed : (Path.mk "/w/q/r/s").climb 1 = some ⟨"/w/q/r"⟩ := by decide +kernel
        exact (Option.some.inj (climbed.symm.trans reached)).symm
      rw [same]
      decide +kernel
  have read : String.fromUTF8? "catalog = 1".toUTF8 = some "catalog = 1" := by decide +kernel
  have malformed : Manifest.read "catalog = 1" = .error (.wrongType "catalog") := by decide +kernel
  obtain ⟨-, -, -, decides, -⟩ := findManifest_nearest nestedTree ⟨"/w/q/r/s"⟩
  obtain ⟨failure, failed, message⟩ :=
    ((decides 2 ⟨"/w/q"⟩ _ nearest).2 _ read).1 _ malformed
  have opening : "parsing " ++ (manifestPath ⟨"/w/q"⟩).text ++ ": " =
      "parsing /w/q/nativegen.toml: " := by decide +kernel
  refine ⟨nearest, failure, failed, fun wording => ?_⟩
  rw [message, opening]

end Project

end LuaBindings
