import LuaBindings.Binding.Render
import LuaBindings.Path
/-!
# Manifests

A project may have a manifest with its settings. Every setting is optional. Paths in it are relative
to the directory of the manifest.
-/

namespace LuaBindings

/-- The settings of a project, as far as its manifest gives them. -/
structure Manifest where
  /-- Where the catalog lies. -/
  catalogPath : Option String
  /-- Where the generated files go. -/
  outputDir : Option String
  singleFile : Option Bool
  comments : Option Bool
  signatures : Option Bool
  deriving DecidableEq, Repr

namespace Manifest

/-- The name of a manifest. -/
def fileName : String := "nativegen.toml"

/-- The output directory where no setting names one. -/
def defaultOutputDir : String := "natives"

/-- A manifest without settings. -/
def empty : Manifest := ⟨none, none, none, none, none⟩

/-- What the settings say about the generated text; off where they say nothing. -/
def options (manifest : Manifest) : Binding.Options where
  comments := manifest.comments.getD false
  signatures := manifest.signatures.getD false
  singleFile := manifest.singleFile.getD false

/-- The manifest that a new project starts with. -/
def template : String :=
  "[catalog]\n" ++
  "# Leave unset to look for natives.json, then gta5-nativedb-data/natives.json\n" ++
  "# path = \"natives.json\"\n" ++
  "\n" ++
  "[output]\n" ++
  "dir = \"" ++ defaultOutputDir ++ "\"\n" ++
  "single_file = false\n" ++
  "\n" ++
  "[generate]\n" ++
  "comments = true\n" ++
  "signatures = false\n"

end Manifest

end LuaBindings
