import LuaBindings.Binding.Plan
import LuaBindings.Proofs.Catalog.Outline
/-!
# What is planned

The files of a catalog in either mode: which there are, what is in them and what they count.
-/

namespace LuaBindings.Binding

variable {catalog : Catalog} {options other : Options}

theorem plan_split (h : options.singleFile = false) :
    plan catalog options = catalog.namespaces.map fun ns =>
      ⟨ns.name ++ ".lua", fileText options ns, ns.functions.length⟩ := by
  rw [plan, h]
  rfl

theorem plan_single (h : options.singleFile = true) :
    plan catalog options = [⟨singleFileName,
      String.join (catalog.namespaces.map (fileText options)), catalog.functionCount⟩] := by
  rw [plan, h]
  rfl

/-- How the files are divided makes no difference to the text of a namespace. -/
theorem fileText_congr (comments : options.comments = other.comments)
    (signatures : options.signatures = other.signatures) (ns : Namespace) :
    fileText options ns = fileText other ns := by
  have heads : headLines options = headLines other := by
    funext f
    rw [headLines, headLines, comments, signatures]
  simp only [fileText, renderNamespace, renderFunction, heads]

/-- However the files are divided, all functions are counted. -/
theorem count_plan (catalog : Catalog) (options : Options) :
    (plan catalog options).foldr (fun file count => file.functionCount + count) 0 =
      catalog.functionCount := by
  cases mode : options.singleFile with
  | true =>
      rw [plan_single mode]
      rfl
  | false =>
      rw [plan_split mode, List.foldr_map]
      rfl

/-- However the files are divided, one behind the other they hold the namespaces in order. -/
theorem plan_text (catalog : Catalog) (options : Options) :
    (plan catalog options).flatMap (·.content.toList) =
      catalog.namespaces.flatMap fun ns => (fileText options ns).toList := by
  cases mode : options.singleFile with
  | true => rw [plan_single mode, List.flatMap_singleton, String.toList_join, List.flatMap_map]
  | false => rw [plan_split mode, List.flatMap_map]

/-- The file that is planned for the namespace of a name. -/
def plannedFile? (catalog : Catalog) (options : Options) (name : String) : Option PlannedFile :=
  (plan catalog options).find? (·.name = name ++ ".lua")

/-- In split mode, each of some namespaces of different names has a file of its own. -/
theorem plannedFile?_split (h : options.singleFile = false)
    (names : (catalog.namespaces.map (·.name)).Nodup) {ns : Namespace}
    (member : ns ∈ catalog.namespaces) :
    plannedFile? catalog options ns.name =
      some ⟨ns.name ++ ".lua", fileText options ns, ns.functions.length⟩ := by
  have found : catalog.namespaces.find? (·.name = ns.name) = some ns :=
    Catalog.namespace?_eq_some names member
  have alike : ∀ other : Namespace,
      decide (other.name ++ ".lua" = ns.name ++ ".lua") = decide (other.name = ns.name) :=
    fun other => decide_eq_decide.mpr (String.append_left_inj _)
  rw [plannedFile?, plan_split h, List.find?_map]
  simp only [Function.comp_def, alike, found]
  rfl

end LuaBindings.Binding
