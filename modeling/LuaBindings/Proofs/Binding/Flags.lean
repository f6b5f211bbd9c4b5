import LuaBindings.Catalog.Report
import LuaBindings.Proofs.Binding.Planning
import LuaBindings.Proofs.Binding.ReadBack
/-!
# Flags in generated text

Which calls of a generated text carry the flag is read off the text. The reader goes through the
functions of a catalog in order and takes off what is known of the text of each, whatever its names
and its comment hold; nothing is left open but the word for the flag.
-/

namespace LuaBindings.Binding

/-! ## The reader -/

/-- The text of a function up to the flag of its call. -/
def beforeFlag (options : Options) (ns : String) (f : NativeFunction) : List Char :=
  unlines ((headLines options f).map String.toList ++
      [(headerLine ns f).toList, (invokeLine f).toList]) ++
    ("    " ++ typeConstant f.returnType ++ ", " ++ toString f.sequenceId.toNat ++ ", ").toList

/-- The text of a function behind the flag of its call, with the empty line that ends it. -/
def behindFlag (f : NativeFunction) : List Char :=
  (if f.parameters.isEmpty then "" else ",").toList ++ '\n' ::
    unlines (commaLines (f.parameters.map fun p => (argumentLine p).toList) ++
      ["  )".toList, "end".toList, []])

/-- The word for a flag. -/
def flagWord (flag : Bool) : List Char := (if flag then "true" else "false").toList

/-- A flag from its word, and the text behind the word. -/
def takeFlag (s : List Char) : Option (Bool × List Char) :=
  match s.dropPrefix? (flagWord true) with
  | some rest => some (true, rest)
  | none => (s.dropPrefix? (flagWord false)).map (false, ·)

/-- Those of some functions of a table whose calls carry the flag, in a text that starts with all of
them, and the text behind these. -/
def takeFlagged (options : Options) (ns : String) :
    List NativeFunction → List Char → Option (List NativeFunction × List Char)
  | [], s => some ([], s)
  | f :: fs, s => do
      let s ← s.dropPrefix? (beforeFlag options ns f)
      let (flag, s) ← takeFlag s
      let s ← s.dropPrefix? (behindFlag f)
      let (flagged, s) ← takeFlagged options ns fs s
      return (if flag then f :: flagged else flagged, s)

/-- The functions whose calls carry the flag, in a text that holds some namespaces and no more. -/
def takeNamespaces (options : Options) :
    List Namespace → List Char → Option (List (Namespace × NativeFunction))
  | [], s => if s = [] then some [] else none
  | ns :: others, s => do
      let s ← s.dropPrefix? (unlines [(titleLine ns.name).toList, []])
      let (flagged, s) ← takeFlagged options ns.name ns.functions s
      let s ← s.dropPrefix? ['\n']
      return flagged.map (ns, ·) ++ (← takeNamespaces options others s)

/-- The functions of a catalog whose calls carry the flag in its files. -/
def flaggedIn (catalog : Catalog) (options : Options) (files : List PlannedFile) :
    Option (List (Namespace × NativeFunction)) :=
  takeNamespaces options catalog.namespaces (files.flatMap (·.content.toList))

/-! ## What is read -/

theorem takeFlag_flagWord (flag : Bool) (rest : List Char) :
    takeFlag (flagWord flag ++ rest) = some (flag, rest) := by
  cases flag with
  | true => rw [takeFlag, dropPrefix?_append]
  | false =>
      have other : (flagWord false ++ rest).dropPrefix? (flagWord true) = none := by
        simp [flagWord, List.dropPrefix?]
      rw [takeFlag, other, dropPrefix?_append]
      rfl

/-- The one thing in the text of a function that depends on the fix-up is the word for the flag. -/
theorem renderFunction_flag (options : Options) (ns : String) (f : NativeFunction) :
    (renderFunction ns f options ++ "\n").toList =
      beforeFlag options ns f ++ (flagWord (needsFixup f) ++ behindFlag f) := by
  have call : (callLine f).toList =
      ("    " ++ typeConstant f.returnType ++ ", " ++ toString f.sequenceId.toNat ++ ", ").toList ++
        (flagWord (needsFixup f) ++ (if f.parameters.isEmpty then "" else ",").toList) := by
    simp only [callLine, flagWord, String.toList_append, List.append_assoc]
  have ending : "\n".toList = unlines [[]] := by simp [unlines]
  have none : unlines [] = [] := rfl
  rw [String.toList_append, renderFunction_toList, codeLines, blockLines, call, beforeFlag,
    behindFlag, ending]
  simp only [unlines_append, unlines_cons, none, List.cons_append, List.append_assoc,
    List.nil_append]

theorem takeFlagged_functions (options : Options) (ns : String) (fs : List NativeFunction)
    (rest : List Char) :
    takeFlagged options ns fs
        ((fs.flatMap fun f => (renderFunction ns f options ++ "\n").toList) ++ rest) =
      some (fs.filter needsFixup, rest) := by
  induction fs with
  | nil => rfl
  | cons f fs ih =>
      rw [List.flatMap_cons, renderFunction_flag, takeFlagged]
      simp only [List.append_assoc, dropPrefix?_append, takeFlag_flagWord, ih,
        Option.bind_eq_bind, Option.bind_some, List.filter_cons]
      rfl

theorem takeNamespaces_files (options : Options) (namespaces : List Namespace) :
    takeNamespaces options namespaces
        (namespaces.flatMap fun ns => (fileText options ns).toList) =
      some (Catalog.fixups ⟨namespaces⟩) := by
  induction namespaces with
  | nil => rfl
  | cons ns others ih =>
      have text : (fileText options ns).toList = unlines [(titleLine ns.name).toList, []] ++
          ((ns.functions.flatMap fun f => (renderFunction ns.name f options ++ "\n").toList) ++
            ['\n']) := by
        simp [fileText, renderNamespace, titleLine, unlines, String.toList_join, List.flatMap_map]
      have found : Catalog.fixups ⟨ns :: others⟩ =
          (ns.functions.filter needsFixup).map (ns, ·) ++ Catalog.fixups ⟨others⟩ := by
        simp [Catalog.fixups, Catalog.functions, List.filter_map, Function.comp_def]
      rw [List.flatMap_cons, text, takeNamespaces, found]
      simp only [List.append_assoc, dropPrefix?_append, takeFlagged_functions, ih,
        Option.bind_eq_bind, Option.bind_some]
      rfl

/-- Whatever is planned for a catalog, the flag is carried by the calls of those natives that are to
be fixed up. -/
theorem flaggedIn_plan (catalog : Catalog) (options : Options) :
    flaggedIn catalog options (plan catalog options) = some catalog.fixups := by
  rw [flaggedIn, plan_text]
  exact takeNamespaces_files options catalog.namespaces

end LuaBindings.Binding
