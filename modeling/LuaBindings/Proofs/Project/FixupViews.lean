import LuaBindings.Proofs.Binding.Flags
import LuaBindings.Proofs.Catalog.Large
import LuaBindings.Proofs.Project.Running
/-!
# Views of the natives to fix up

Three walks over a catalog tell which natives are to be fixed up: the rendered calls by their flag,
the overview by its last lines, and the summary of a generation by a number. On every catalog that
is loaded they tell of the same natives, those that the table has under their name and position, as
long as there are places for all functions and room for all names.
-/

namespace LuaBindings.Project

/-- How the views of the natives to fix up go together, for the catalog of a text and an overview
of it. -/
structure ViewsAgree (text : String) (catalog : Catalog) (overview : List String) : Prop where
  /-- In the files of either mode, the calls of the matched natives carry the flag. -/
  flagged : ∀ options : Binding.Options,
    Binding.flaggedIn catalog options (Binding.plan catalog options) = some catalog.matched
  /-- The overview has a row for each of them, and no other native has one. -/
  rows : Catalog.fixupLines overview =
    if catalog.matched.isEmpty then ["  none matched"] else catalog.matched.map Catalog.fixupRow
  listed : catalog.listed overview = catalog.matched
  noneMatched : "  none matched" ∈ overview ↔ catalog.matched.length = 0
  /-- A row of the table takes at most one native. -/
  once : ∀ row ∈ Binding.vectorFixups,
    (catalog.matched.filter fun entry => entry.2.name = row.1).length ≤ 1
  few : catalog.matched.length ≤ 39
  /-- Wherever the text is generated from, as many natives are told of, and in all as many
  namespaces and functions as the overview tells of. -/
  counted : ∀ (s : Setting) (tree after : FileTree) (summary : GenerationSummary),
    s.generation tree = (.ok summary, after) → tree.readText summary.catalog = .ok text →
      summary.fixups = catalog.matched.length ∧
        overview[0]? = some ("  Namespaces: " ++ toString summary.namespaces) ∧
        overview[1]? = some ("  Functions:  " ++ toString summary.functions)

theorem fixup_viewsAgree {text : String} {catalog : Catalog}
    (loaded : Catalog.load text = .ok catalog) (few : catalog.functionCount < UInt32.size)
    (narrow : catalog.Narrow) :
    ∃ overview, catalog.overview = .ok overview ∧ ViewsAgree text catalog overview := by
  have counted := Catalog.places_eq_range loaded few
  have same := Catalog.fixups_eq_matched counted
  refine ⟨_, Catalog.overview_of_narrow narrow, ?_, ?_, ?_, ?_, ?_, ?_, ?_⟩
  · intro options
    rw [← same]
    exact Binding.flaggedIn_plan catalog options
  · rw [← same]
    exact Catalog.fixupLines_eq catalog
  · rw [← same]
    exact Catalog.listed_eq_fixups counted
  · rw [← same]
    exact Catalog.noneMatched_iff catalog
  · intro row _
    rw [← same]
    exact Catalog.fixups_once counted row.1
  · rw [← same]
    exact Catalog.fixups_length_le counted
  · intro s tree after summary ran read
    have generated := generation_generated loaded ran read
    rw [← same, generated.fixups, generated.namespaces, generated.functions]
    exact ⟨rfl, rfl, rfl⟩

/-- Of two natives with a name of the table, the one at its position there is told of by all. -/
theorem fixup_viewsAgree_matrix :
    let catalog := (Catalog.lateOutline 0).catalog
    Catalog.load (Catalog.lateOutline 0).print = .ok catalog ∧
      catalog.functionCount < UInt32.size ∧ catalog.Narrow ∧
      ∃ overview, catalog.overview = .ok overview ∧
        ViewsAgree (Catalog.lateOutline 0).print catalog overview ∧
        catalog.matched.map (fun entry => (entry.1.name, entry.2.name, entry.2.hash)) =
          [("B", "GET_ENTITY_MATRIX", "1")] ∧
        Catalog.fixupLines overview = ["  B.GET_ENTITY_MATRIX (761)"] := by
  have loaded := Catalog.load_print (Catalog.lateOutline_valid 0)
  have few : (Catalog.lateOutline 0).catalog.functionCount < UInt32.size := by
    rw [Catalog.functionCount_catalog, Catalog.functionCount_late]
    decide
  have narrow := Catalog.narrow_late 0
  have matched : (Catalog.lateOutline 0).catalog.matched =
      [(Catalog.lateNamespace 0, Catalog.lateFunction 0)] := by
    rw [← Catalog.fixups_eq_matched (Catalog.places_eq_range loaded few), Catalog.fixups_late rfl]
  obtain ⟨overview, told, views⟩ := fixup_viewsAgree loaded few narrow
  refine ⟨loaded, few, narrow, overview, told, views, ?_, ?_⟩
  · rw [matched]
    rfl
  · rw [views.rows, matched]
    decide +kernel

/-- There are catalogs that are loaded and of which there is no overview, and some in which a native
is fixed up that is far from its position in the table. -/
theorem fixup_views_differ :
    (Catalog.load (Catalog.wideOutline 65536).print = .ok (Catalog.wideOutline 65536).catalog ∧
      ¬∃ overview, (Catalog.wideOutline 65536).catalog.overview = .ok overview) ∧
    (let catalog := (Catalog.lateOutline UInt32.size).catalog
    let entry := (Catalog.lateNamespace UInt32.size, Catalog.lateFunction UInt32.size)
    Catalog.load (Catalog.lateOutline UInt32.size).print = .ok catalog ∧
      catalog.functions[UInt32.size + 761]? = some entry ∧
      entry ∈ catalog.fixups ∧ entry ∉ catalog.matched ∧
      ¬∃ overview, catalog.overview = .ok overview ∧
        ViewsAgree (Catalog.lateOutline UInt32.size).print catalog overview) := by
  have unmatched := Catalog.matched_late (Nat.le_refl UInt32.size)
  have fixedUp := Catalog.fixups_late (show UInt32.ofNat UInt32.size = 0 from rfl)
  refine ⟨⟨Catalog.load_print (Catalog.wideOutline_valid 65536), ?_⟩,
    Catalog.load_print (Catalog.lateOutline_valid UInt32.size), Catalog.getElem?_late UInt32.size,
    ?_, unmatched, ?_⟩
  · rintro ⟨overview, told⟩
    exact Catalog.not_narrow_wide (by decide) (Catalog.overview_eq_ok_iff.mp told).1
  · rw [fixedUp]
    exact List.mem_singleton_self _
  · rintro ⟨overview, -, views⟩
    have flagged := views.flagged .none
    rw [Binding.flaggedIn_plan, Option.some.injEq, fixedUp] at flagged
    exact unmatched (flagged ▸ List.mem_singleton_self _)

end LuaBindings.Project
