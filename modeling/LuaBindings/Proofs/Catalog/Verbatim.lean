import LuaBindings.Proofs.Catalog.Loading
/-!
# Outlines as they stand in a text

Besides the document that it holds, a text has an outline in which every key stands as often as it
does in the text. The document is that outline with repeated keys merged; where none is repeated,
the text is loaded as the catalog of the outline.
-/

namespace LuaBindings.Catalog

open Json

/-- The outline that stands in a text, repeated keys included. -/
def Outline.read (text : List Char) : Except Failure Outline :=
  readDocument (Json.entries (Json.entries functionFormat.reader)) text

/-- No namespace stands twice, and no function in its namespace. -/
structure Outline.Distinct (outline : Outline) : Prop where
  names : (outline.map Prod.fst).Nodup
  hashes : ∀ ns ∈ outline, (ns.2.map Prod.fst).Nodup

/-- A document is what stands in its text with repeated keys merged. -/
theorem read_merged (text : List Char) :
    Document.read text = (Outline.read text).map Outline.merged := by
  have whole : ∀ s, documentReader.read s =
      ((Json.entries (Json.entries functionFormat.reader)).map Outline.merged).read s := by
    intro s
    rw [documentReader, Reader.read_map, Json.entries_map, Reader.read_map, Reader.read_map]
    cases (Json.entries (Json.entries functionFormat.reader)).read s with
    | error failure => rfl
    | ok step => rfl
  rw [Document.read, Outline.read, ← readDocument_map, readDocument, readDocument, whole]

/-- The document that a text holds, told from the outline that stands in it. -/
theorem read_of_stands {text : List Char} {outline : Outline}
    (stands : Outline.read text = .ok outline) : Document.read text = .ok outline.merged := by
  rw [read_merged, stands]
  rfl

/-- A text without repeated keys is loaded as the catalog of what stands in it, or not at all. -/
theorem load_verbatim {text : String} {outline : Outline} {catalog : Catalog}
    (stands : Outline.read text.toList = .ok outline) (distinct : outline.Distinct)
    (loaded : load text = .ok catalog) : catalog = outline.catalog := by
  have read := read_of_stands stands
  have same := Outline.merged_outline distinct.names distinct.hashes
  obtain ⟨document, held, valid, -, -⟩ := load_eq_ok_iff.mp loaded
  rw [read] at held
  cases held
  have again : load text = .ok outline.catalog :=
    load_eq_ok_iff.mpr
      ⟨_, read, valid, (outline_catalog outline).trans same.symm, ids_catalog outline⟩
  exact Except.ok.inj (loaded.symm.trans again)

end LuaBindings.Catalog
