import LuaBindings.Proofs.FileTree.Climbing
import LuaBindings.Proofs.Project.Nearest
import LuaBindings.Proofs.Project.Upkeep
/-!
# Starting a project

A project is started with a manifest of its own, or not at all: then nothing has changed. The new
manifest is the one that is found from the directory and from anywhere below it, and while one is
there, however it has been edited, the project is not started again.
-/

namespace LuaBindings

namespace FileTree

variable {tree : FileTree} {path : Path} {name : String}

/-- A joined name goes by something if it is the name of an entry. -/
theorem holds_join_iff (plain : Path.PlainName name) (short : name.utf8ByteSize ≤ maxNameSize) :
    tree.holds (path.join ⟨name⟩) = true ↔ Accepted (path.join ⟨name⟩) ∧
      ∃ l, tree.walk path = .ok l ∧ tree.IsDirectory l ∧ tree.get? (l ++ [name]) ≠ none := by
  have found : tree.holds (path.join ⟨name⟩) = true ↔
      ∃ there, tree.locate (path.join ⟨name⟩) = .ok there := by
    rw [holds]
    cases tree.locate (path.join ⟨name⟩) with
    | error fault =>
        constructor
        · intro found
          cases found
        · rintro ⟨there, located⟩
          cases located
    | ok there =>
        constructor
        · intro _
          exact ⟨there, rfl⟩
        · intro _
          rfl
  rw [found]
  constructor
  · rintro ⟨there, located⟩
    obtain ⟨accepted, walked⟩ := locate_eq_ok_iff.mp located
    obtain ⟨l, leads, isDirectory, -, rfl, held⟩ := (walk_join_eq_ok_iff plain).mp walked
    exact ⟨accepted, l, leads, isDirectory, held⟩
  · rintro ⟨accepted, l, leads, isDirectory, held⟩
    exact ⟨l ++ [name], locate_eq_ok_iff.mpr
      ⟨accepted, (walk_join_eq_ok_iff plain).mpr ⟨l, leads, isDirectory, short, rfl, held⟩⟩⟩

end FileTree

namespace Project

variable {tree after : FileTree} {directory : Path} {location : Location}

theorem short_manifest : Manifest.fileName.utf8ByteSize ≤ FileTree.maxNameSize := by decide

/-- What comes of starting a project: how it ends, what has been told, and the tree that is left. -/
def starting (tree : FileTree) (directory : Path) :
    (Except Stop Unit × List String) × FileTree :=
  (runInit (m := StateM FileTree) directory).carryOut.run tree

/-- A tree with the starting manifest in the directory that a path leads to, where nothing was, and
otherwise as it was. -/
structure AddsManifest (tree : FileTree) (directory : Path) (location : Location)
    (after : FileTree) : Prop
    extends FileTree.WroteFile tree directory Manifest.fileName Manifest.template.toUTF8 location
      after where
  vacant : tree.get? (location ++ [Manifest.fileName]) = none

/-! ## Failing and succeeding -/

/-- Nothing goes by the name of the manifest if nothing is in its place. -/
theorem holds_manifest_of_vacant (leads : tree.walk directory = .ok location)
    (vacant : tree.get? (location ++ [Manifest.fileName]) = none) :
    tree.holds (manifestPath directory) = false := by
  rw [← Bool.not_eq_true]
  intro holds
  obtain ⟨-, other, found, -, held⟩ :=
    (FileTree.holds_join_iff plainName_manifest short_manifest).mp holds
  rw [← FileTree.walk_unique leads found] at held
  exact held vacant

/-- Either nothing has changed, or a manifest has been added. -/
theorem starting_cases (tree : FileTree) (directory : Path) :
    (∃ failure, starting tree directory = ((.error (.failed failure), []), tree)) ∨
      ∃ lines location after, starting tree directory = ((.ok (), lines), after) ∧
        AddsManifest tree directory location after := by
  rw [starting, run_runInit]
  cases holds : tree.holds (manifestPath directory) with
  | true => exact .inl ⟨_, if_pos holds⟩
  | false =>
      rw [if_neg (by rw [← manifestPath, holds]; exact Bool.false_ne_true)]
      let template := Manifest.template.toUTF8
      cases wrote : tree.writeBytes (directory.join ⟨Manifest.fileName⟩) template with
      | error fault => exact .inl ⟨_, rfl⟩
      | ok after =>
          obtain ⟨location, written⟩ := FileTree.writeBytes_join plainName_manifest wrote
          refine .inr ⟨_, location, after, rfl, written, ?_⟩
          by_contra held
          have there := (FileTree.holds_join_iff plainName_manifest short_manifest).mpr
            ⟨written.accepted, location, written.leads, written.isDirectory, held⟩
          rw [manifestPath, there] at holds
          cases holds

/-- A manifest is added wherever the system takes its path and nothing is in its place. -/
theorem starting_of_vacant (accepted : FileTree.Accepted (manifestPath directory))
    (leads : tree.walk directory = .ok location) (isDirectory : tree.IsDirectory location)
    (vacant : tree.get? (location ++ [Manifest.fileName]) = none) :
    ∃ lines after, starting tree directory = ((.ok (), lines), after) := by
  have holds := holds_manifest_of_vacant leads vacant
  have free : ¬tree.IsDirectory (location ++ [Manifest.fileName]) := by
    rw [FileTree.isDirectory_iff, vacant]
    simp
  obtain ⟨after, wrote, -⟩ := FileTree.writeBytes_join_of_free plainName_manifest
    Manifest.template.toUTF8 accepted short_manifest leads isDirectory free
  rw [starting, run_runInit, ← manifestPath, holds, if_neg Bool.false_ne_true, manifestPath, wrote]
  exact ⟨_, after, rfl⟩

/-- Where something goes by the name of the manifest, or no directory is there, nothing changes. The
empty path leads nowhere, but a name that is joined to it is looked up in the root. -/
theorem starting_refused (obstructed : tree.holds (manifestPath directory) = true ∨
      directory.text ≠ "" ∧ tree.leadsToDirectory directory = false) :
    ∃ failure, starting tree directory = ((.error (.failed failure), []), tree) := by
  rcases starting_cases tree directory with failed | ⟨lines, location, after, -, adds⟩
  · exact failed
  · exfalso
    rcases obstructed with holds | ⟨nonempty, nowhere⟩
    · rw [holds_manifest_of_vacant adds.leads adds.vacant] at holds
      cases holds
    · have accepted := FileTree.Accepted.of_join plainName_manifest nonempty adds.accepted
      have leads := FileTree.leadsToDirectory_iff.mpr
        ⟨location, FileTree.locate_eq_ok_iff.mpr ⟨accepted, adds.leads⟩, adds.isDirectory⟩
      rw [leads] at nowhere
      cases nowhere

/-- A manifest that is there keeps a project from being started, whatever else has become of the
tree. -/
theorem starting_again (adds : AddsManifest tree directory location after) {later : FileTree}
    (held : later.get? (location ++ [Manifest.fileName]) ≠ none) :
    ∃ failure, starting later directory = ((.error (.failed failure), []), later) := by
  rcases starting_cases later directory with failed | ⟨lines, other, changed, -, again⟩
  · exact failed
  · have vacant := again.vacant
    rw [← FileTree.walk_unique adds.leads again.leads] at vacant
    exact absurd vacant held

/-! ## Finding the new manifest -/

/-- The settings that a project starts with. -/
def starter : Manifest where
  catalogPath := none
  outputDir := some "natives"
  singleFile := some false
  comments := some true
  signatures := some false

theorem read_template : Manifest.read Manifest.template = .ok starter := by decide +kernel

theorem judged_toUTF8 (up : Path) {text : String} {manifest : Manifest}
    (read : Manifest.read text = .ok manifest) :
    judged up text.toUTF8 = .ok (some (manifest, up)) := by
  rw [judged, FileTree.fromUTF8?_toUTF8]
  simp only [read]

namespace AddsManifest

variable {start up : Path} {steps : Nat}

theorem leads_after (adds : AddsManifest tree directory location after) :
    after.walk directory = .ok location :=
  adds.grows.follow adds.leads

theorem isDirectory_after (adds : AddsManifest tree directory location after) :
    after.IsDirectory location :=
  adds.grows.isDirectory adds.isDirectory

/-- The new manifest is there by every path that leads to its directory. -/
theorem bytes? (adds : AddsManifest tree directory location after)
    (leads : after.walk up = .ok location) (accepted : FileTree.Accepted (manifestPath up)) :
    after.bytes? (manifestPath up) = some Manifest.template.toUTF8 := by
  have held : after.get? (location ++ [Manifest.fileName]) =
      some (.file Manifest.template.toUTF8) := by
    rw [adds.get?, if_pos rfl]
  apply FileTree.bytes?_eq_some_iff.mpr
  refine ⟨_, FileTree.locate_eq_ok_iff.mpr ⟨accepted, ?_⟩, held⟩
  apply (FileTree.walk_join_eq_ok_iff plainName_manifest).mpr
  refine ⟨location, leads, adds.isDirectory_after, adds.short, rfl, ?_⟩
  rw [held]
  exact Option.some_ne_none _

/-- It is found wherever the climb comes to it first. -/
theorem search_eq (adds : AddsManifest tree directory location after)
    (climbed : start.climb steps = some up) (leads : after.walk up = .ok location)
    (accepted : FileTree.Accepted (manifestPath up))
    (first : ∀ fewer < steps, ∀ nearer, start.climb fewer = some nearer →
      after.bytes? (manifestPath nearer) = none) :
    search after start = .ok (some (starter, up)) := by
  have nearest : Nearest after start steps up Manifest.template.toUTF8 :=
    ⟨climbed, adds.bytes? leads accepted, first⟩
  rw [nearest.search_eq, judged_toUTF8 up read_template]

end AddsManifest

/-- What the new manifest does, in the tree that is left and in those that become of it. -/
structure TakesEffect (directory : Path) (location : Location) (after : FileTree) : Prop where
  /-- From the directory itself the new manifest is found. -/
  here : search after directory = .ok (some (starter, directory))
  /-- From below the directory it is found with the path of the directory, less the separators and
  dots that end it. -/
  below : ∀ names, (∀ name ∈ names, Path.PlainName name) →
    (∀ fewer < names.length, ∀ nearer, (directory.descend names).climb fewer = some nearer →
      after.bytes? (manifestPath nearer) = none) →
    ∃ up, up.text.toList <+: directory.text.toList ∧ up.place = directory.place ∧
      search after (directory.descend names) = .ok (some (starter, up))
  /-- It is so from every path that leads to the directory or below it, however it is spelled, if
  the system takes the path of a manifest behind it: then the climb comes to a path that leads to
  the directory, and that one comes with the manifest. -/
  spelled : ∀ start l, after.walk start = .ok l → location <+: l →
    FileTree.Accepted (manifestPath start) →
    ∃ steps up, FileTree.Meets after start location steps up ∧
      ((∀ fewer < steps, ∀ nearer, start.climb fewer = some nearer →
        after.bytes? (manifestPath nearer) = none) →
        search after start = .ok (some (starter, up)))
  /-- As long as a manifest is there, the project is not started again, and nothing changes. -/
  again : ∀ later : FileTree, later.get? (location ++ [Manifest.fileName]) ≠ none →
    ∃ failure, starting later directory = ((.error (.failed failure), []), later)

theorem AddsManifest.takesEffect (adds : AddsManifest tree directory location after) :
    TakesEffect directory location after where
  here := by
    have climbed : directory.climb 0 = some directory := rfl
    apply adds.search_eq climbed adds.leads_after adds.accepted
    intro fewer less
    exact absurd less (Nat.not_lt_zero fewer)
  below := by
    intro names plain first
    obtain ⟨up, climbed, beginning, place⟩ := directory.climb_descend plain
    have leads := FileTree.walk_of_place_eq place adds.leads_after adds.isDirectory_after
    have accepted := adds.accepted.of_beginning plainName_manifest beginning
    exact ⟨up, beginning, place, adds.search_eq climbed leads accepted first⟩
  spelled := by
    intro start l leads within accepted
    obtain ⟨steps, up, meets⟩ := FileTree.exists_meets leads within
    refine ⟨steps, up, meets, ?_⟩
    intro first
    have acceptedUp := FileTree.Accepted.of_beginning plainName_manifest
      (Path.beginning_climb meets.climbed) accepted
    exact adds.search_eq meets.climbed meets.leads acceptedUp first
  again := fun later held => starting_again adds held

/-- A project is started as a whole or not at all. It is not where something goes by the name of the
manifest or no directory is there, and it is wherever the system takes the path of the manifest and
nothing is in its place. Once it has been started, the manifest takes effect. -/
theorem runInit_starts (tree : FileTree) (directory : Path) :
    ((∃ failure, starting tree directory = ((.error (.failed failure), []), tree)) ∨
      ∃ lines location after, starting tree directory = ((.ok (), lines), after) ∧
        AddsManifest tree directory location after) ∧
    (tree.holds (manifestPath directory) = true ∨
        directory.text ≠ "" ∧ tree.leadsToDirectory directory = false →
      ∃ failure, starting tree directory = ((.error (.failed failure), []), tree)) ∧
    (∀ location, FileTree.Accepted (manifestPath directory) → tree.walk directory = .ok location →
      tree.IsDirectory location → tree.get? (location ++ [Manifest.fileName]) = none →
      ∃ lines after, starting tree directory = ((.ok (), lines), after)) ∧
    ∀ lines after, starting tree directory = ((.ok (), lines), after) →
      ∃ location, AddsManifest tree directory location after ∧
        TakesEffect directory location after := by
  refine ⟨starting_cases tree directory, starting_refused, ?_, ?_⟩
  · intro location accepted leads isDirectory vacant
    exact starting_of_vacant accepted leads isDirectory vacant
  · intro lines after ran
    rcases starting_cases tree directory with ⟨failure, failed⟩ | ⟨_, location, _, started, adds⟩
    · rw [failed] at ran
      cases ran
    · rw [started] at ran
      cases ran
      exact ⟨location, adds, adds.takesEffect⟩

/-- A project is started in the empty directory of a tree, and only once. -/
theorem runInit_starts_empty :
    ∃ lines after, starting twoTree ⟨"/lua"⟩ = ((.ok (), lines), after) ∧
      search after ⟨"/lua"⟩ = .ok (some (starter, ⟨"/lua"⟩)) ∧
      ∃ failure, starting after ⟨"/lua"⟩ = ((.error (.failed failure), []), after) := by
  obtain ⟨-, -, succeeds, effect⟩ := runInit_starts twoTree ⟨"/lua"⟩
  have accepted : FileTree.Accepted (manifestPath ⟨"/lua"⟩) :=
    ⟨by decide +kernel, by decide +kernel, by decide +kernel⟩
  have leads : twoTree.walk ⟨"/lua"⟩ = .ok ["lua"] := by decide +kernel
  obtain ⟨lines, after, ran⟩ :=
    succeeds ["lua"] accepted leads twoTree_isDirectory (by decide +kernel)
  obtain ⟨location, adds, takesEffect⟩ := effect lines after ran
  refine ⟨lines, after, ran, takesEffect.here, takesEffect.again after ?_⟩
  rw [adds.get?, if_pos rfl]
  exact Option.some_ne_none _

end Project

end LuaBindings
