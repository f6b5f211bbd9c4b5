import LuaBindings.Proofs.Catalog.Verbatim
/-!
# Printing outlines

Every outline can be written down: without blanks, with all fields of each record, and with an escape
for each character that may not stand in a string as it is. What is printed is read back as it is,
keys that are repeated included.
-/

namespace LuaBindings.Catalog

open Json

/-! ## Strings -/

/-- The digit of a value below sixteen. -/
def hexDigit (value : Nat) : Char := "0123456789abcdef".toList.getD value '0'

theorem hexDigit_spells {value : Nat} (small : value < 16) : HexDigit value (hexDigit value) := by
  left
  have inside : value < "0123456789abcdef".toList.length := small
  rw [hexDigit, List.getD_eq_getElem?_getD, List.getElem?_eq_getElem inside]
  rfl

/-- A character inside a string: by its number where it may not stand for itself. -/
def printChar (c : Char) : List Char :=
  if c = '"' ∨ c = '\\' ∨ c.toNat < 0x20 then
    ['\\', 'u', '0', '0', hexDigit (c.toNat / 16), hexDigit (c.toNat % 16)]
  else [c]

theorem charText_print (c : Char) : CharText c (printChar c) := by
  unfold printChar
  by_cases escaped : c = '"' ∨ c = '\\' ∨ c.toNat < 0x20
  · have small : c.toNat < 256 := by
      rcases escaped with rfl | rfl | control
      · decide
      · decide
      · omega
    have digits : UnitText (((0 * 16 + 0) * 16 + c.toNat / 16) * 16 + c.toNat % 16)
        ['0', '0', hexDigit (c.toNat / 16), hexDigit (c.toNat % 16)] :=
      .digits (.inl rfl) (.inl rfl) (hexDigit_spells (by omega)) (hexDigit_spells (by omega))
    have number : ((0 * 16 + 0) * 16 + c.toNat / 16) * 16 + c.toNat % 16 = c.toNat := by omega
    rw [number] at digits
    rw [if_pos escaped]
    exact .coded digits
  · rw [if_neg escaped]
    rw [not_or, not_or] at escaped
    exact .plain escaped.1 escaped.2.1 (Nat.le_of_not_lt escaped.2.2)

/-- A string between quotes. -/
def printString (t : String) : List Char := '"' :: ((t.toList.map printChar).flatten ++ ['"'])

theorem stringText_print (t : String) : StringText t (printString t) := by
  refine .intro ?_
  rw [List.forall₂_map_right_iff, List.forall₂_same]
  intro c _
  exact charText_print c

/-! ## Containers -/

/-- Parts between two brackets, with commas between them. -/
def printParts (opening closing : Char) (parts : List (List Char)) : List Char :=
  opening :: ([','].intercalate parts ++ [closing])

theorem bracketed_print (opening closing : Char) (parts : List (List Char)) :
    Bracketed opening closing parts (printParts opening closing parts) := by
  cases parts with
  | nil => exact .empty .nil
  | cons part rest => exact .parts (listed_intercalate part rest)

/-- An object. -/
def printObject (members : List (String × List Char)) : List Char :=
  printParts '\x7b' '\x7d' (members.map fun m => printString m.1 ++ ':' :: m.2)

theorem objectText_print (members : List (String × List Char)) :
    ObjectText members (printObject members) := by
  refine .intro ?_ (bracketed_print _ _ _)
  rw [List.forall₂_map_right_iff, List.forall₂_same]
  intro m _
  exact ⟨_, stringText_print m.1, .intro .nil .nil⟩

/-! ## Records -/

/-- A parameter. -/
def printParameter (p : Parameter) : List Char :=
  printObject [("type", printString p.type), ("name", printString p.name)]

theorem parameterText_print (p : Parameter) : ParameterText p (printParameter p) := by
  have once : ∀ key ∈ ["type", "name"], ["type", "name"].count key ≤ 1 := by decide
  refine ⟨_, .intro (objectText_print _) ?_ ?_ once, by simp, by simp⟩
  · simp only [List.forall_mem_cons]
    exact ⟨fun _ => .type (stringText_print _), fun _ => .name (stringText_print _),
      List.forall_mem_nil _⟩
  · simp

/-- A string, or `null` where there is none. -/
def printOptional : Option String → List Char
  | none => ['n', 'u', 'l', 'l']
  | some t => printString t

/-- A function with all of its fields. -/
def printFunction (f : FunctionRecord) : List Char :=
  printObject [("name", printString f.name), ("comment", printString f.comment),
    ("params", printParts '[' ']' (f.parameters.map printParameter)),
    ("return_type", printString f.returnType), ("jhash", printOptional f.jhash),
    ("build", printOptional f.build)]

theorem functionText_print (f : FunctionRecord) : FunctionText f (printFunction f) := by
  have parameters : List.Forall₂ (fun item p => ParameterText p item)
      (f.parameters.map printParameter) f.parameters := by
    rw [List.forall₂_map_left_iff, List.forall₂_same]
    intro p _
    exact parameterText_print p
  have jhash : FunctionField f "jhash" (printOptional f.jhash) := by
    cases held : f.jhash with
    | none => exact .noJhash held
    | some t => exact .jhash held (stringText_print t)
  have build : FunctionField f "build" (printOptional f.build) := by
    cases held : f.build with
    | none => exact .noBuild held
    | some t => exact .build held (stringText_print t)
  have once : ∀ key ∈ functionKeys, functionKeys.count key ≤ 1 := by decide
  refine ⟨_, .intro (objectText_print _) ?_ ?_ once, by simp, by simp, by simp, by simp, by simp,
    by simp⟩
  · simp only [List.forall_mem_cons]
    exact ⟨fun _ => .name (stringText_print _), fun _ => .comment (stringText_print _),
      fun _ => .params (bracketed_print _ _ _) parameters,
      fun _ => .returnType (stringText_print _), fun _ => jhash, fun _ => build,
      List.forall_mem_nil _⟩
  · simp [functionKeys]

/-! ## Outlines -/

/-- A map with one member for each entry. -/
def printMap {α : Type} (value : α → List Char) (entries : List (String × α)) : List Char :=
  printObject (entries.map fun entry => (entry.1, value entry.2))

theorem mapText_print {α : Type} {value : α → List Char} {valueText : α → List Char → Prop}
    (spells : ∀ a, valueText a (value a)) (entries : List (String × α)) :
    MapText valueText entries (printMap value entries) := by
  refine .intro (objectText_print _) ?_
  rw [List.forall₂_map_left_iff, List.forall₂_same]
  intro entry _
  exact ⟨rfl, spells entry.2⟩

/-- An outline as a text. -/
def Outline.print (o : Outline) : String := .ofList (printMap (printMap printFunction) o)

theorem Outline.text_print (o : Outline) : o.Text o.print.toList := by
  have whole : o.Text ([] ++ printMap (printMap printFunction) o ++ []) :=
    .intro .nil .nil (mapText_print (mapText_print functionText_print) o)
  rw [List.nil_append, List.append_nil] at whole
  rw [Outline.print, String.toList_ofList]
  exact whole

/-- What stands in a text of an outline is the outline. -/
theorem read_text {o : Outline} {s : List Char} (spelled : o.Text s) : Outline.read s = .ok o := by
  obtain ⟨hb, ha, @⟨_, _, text, values⟩⟩ := spelled
  have functions : ∀ {ns : List (String × FunctionRecord)} {s : List Char},
      MapText FunctionText ns s → Reads (Json.entries functionFormat.reader) s ns := by
    rintro ns s ⟨text, values⟩
    exact reads_entries text (values.imp fun _ _ h => ⟨h.1, reads_function h.2⟩)
  exact readDocument_reads
    (reads_entries text (values.imp fun _ _ h => ⟨h.1, functions h.2⟩)) hb ha

/-- What is printed of an outline is read back as the outline. -/
theorem read_print (o : Outline) : Outline.read o.print.toList = .ok o := read_text o.text_print

end LuaBindings.Catalog
