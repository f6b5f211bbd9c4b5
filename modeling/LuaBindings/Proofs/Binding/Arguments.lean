import LuaBindings.Proofs.Binding.ReadBack
import LuaBindings.Proofs.Lua.Scope
/-!
# Arguments and parameters

Every argument line of a function names a parameter. Where no two names of parameters clash once
they are escaped, each line names its own and hands on what was passed for it. Where two do, both
lines name the later of the two: what was passed for it is handed on twice, and what was passed for
the other is lost.
-/

namespace LuaBindings.Binding

/-! ## Reading names off lines -/

/-- What stands behind the last occurrence of a character. -/
def behindLast (mark : Char) (s : List Char) : List Char :=
  (s.reverse.takeWhile (· ≠ mark)).reverse

/-- The names between the last two brackets of a line. -/
def listedNames? (line : List Char) : Option (List String) := do
  let inside ← (behindLast '(' line).dropSuffix? [')']
  return if inside = [] then [] else (commaParts inside).map String.ofList

/-- The name in front of the bracket that ends a line, a comma apart. -/
def argumentName? (line : List Char) : Option String :=
  ((behindLast ' ' (dropComma line).1).dropSuffix? [')']).map String.ofList

theorem behindLast_append {mark : Char} {s : List Char} (absent : mark ∉ s) (before : List Char) :
    behindLast mark (before ++ mark :: s) = s := by
  have kept : ∀ c ∈ s.reverse, decide (c ≠ mark) = true := by
    intro c member
    refine decide_eq_true fun same => absent ?_
    exact same ▸ List.mem_reverse.mp member
  unfold behindLast
  rw [List.reverse_append, List.reverse_cons, List.append_assoc,
    List.takeWhile_append_of_pos kept]
  simp

theorem listedNames?_headerLine (ns : String) {f : NativeFunction}
    (names : ∀ p ∈ f.parameters, IsIdentifier p.name) :
    listedNames? (headerLine ns f).toList =
      some (f.parameters.map fun p => Lua.escapeReserved p.name) := by
  let inside := [',', ' '].intercalate
    ((f.parameters.map fun p => Lua.escapeReserved p.name).map String.toList)
  have identifiers : ∀ name ∈ f.parameters.map fun p => Lua.escapeReserved p.name,
      IsIdentifier name :=
    List.forall_mem_map.mpr fun p member => (names p member).escapeReserved
  have line : (headerLine ns f).toList =
      ("function " ++ ns ++ "." ++ f.name).toList ++ '(' :: (inside ++ [')']) := by
    simp [headerLine, inside, String.toList_intercalate]
  have outside : ∀ c ∈ inside, c ≠ '(' := by
    apply forall_mem_intercalate
    · simp
    · rw [List.forall_mem_map]
      intro name held c char
      exact ((identifiers name held).quiet c char).ne (by decide)
  have absent : '(' ∉ inside ++ [')'] := by
    rw [List.mem_append, not_or]
    exact ⟨fun member => outside _ member rfl, by decide⟩
  unfold listedNames?
  rw [line, behindLast_append absent, dropSuffix?_append]
  exact congrArg some (names_intercalate identifiers)

theorem argumentName?_line {p : Parameter} (name : IsIdentifier p.name) (comma : Bool) :
    argumentName? ((argumentLine p).toList ++ if comma then [','] else []) =
      some (Lua.escapeReserved p.name) := by
  have line : (argumentLine p).toList =
      ("    " ++ (if p.isPointer then "ref" else "arg") ++ "(" ++ typeConstant p.type ++ ",").toList
        ++ ' ' :: ((Lua.escapeReserved p.name).toList ++ [')']) := by
    simp [argumentLine]
  have closed : (argumentLine p).toList.getLast? ≠ some ',' := by
    rw [argumentLine, String.toList_append]
    intro comma
    exact absurd (List.getLast?_concat.symm.trans comma) (by decide)
  have dropped : (dropComma ((argumentLine p).toList ++ if comma then [','] else [])).1 =
      (argumentLine p).toList := by
    cases comma with
    | true =>
        rw [if_pos rfl, dropComma_append]
    | false =>
        rw [if_neg Bool.false_ne_true, List.append_nil, dropComma_of_getLast closed]
  have absent : ' ' ∉ (Lua.escapeReserved p.name).toList ++ [')'] := by
    rw [List.mem_append, not_or]
    refine ⟨fun member => ?_, by decide⟩
    rcases name.escapeReserved.word ' ' member with letter | underscore
    · exact absurd letter (by decide)
    · exact absurd underscore (by decide)
  unfold argumentName?
  rw [dropped, line, behindLast_append absent, dropSuffix?_append, Option.map_some,
    String.ofList_toList]

/-- Each argument line names its parameter as the first line of the function does. -/
theorem argumentName?_commaLines {ps : List Parameter} (names : ∀ p ∈ ps, IsIdentifier p.name) :
    (commaLines (ps.map fun p => (argumentLine p).toList)).map argumentName? =
      (ps.map fun p => Lua.escapeReserved p.name).map some := by
  induction ps with
  | nil => rfl
  | cons p rest ih =>
      rw [List.forall_mem_cons] at names
      cases rest with
      | nil =>
          have read := argumentName?_line names.1 false
          rw [if_neg Bool.false_ne_true, List.append_nil] at read
          exact congrArg (fun name => [name]) read
      | cons q others =>
          have read := argumentName?_line names.1 true
          exact congrArg₂ List.cons read (ih names.2)

/-! ## Arguments -/

/-- In the text of a function the first line lists identifiers that are no reserved words, one for
each parameter, and the argument lines name them one by one. They are distinct exactly if no two
names of parameters clash. A line names its own parameter unless the name of a later one clashes
with it; then it names that later one. -/
theorem renderFunction_arguments (ns : String) {f : NativeFunction} (options : Options)
    (names : ∀ p ∈ f.parameters, IsIdentifier p.name)
    (distinct : (f.parameters.map (·.name)).Nodup) :
    ∃ shown : List String,
      (renderFunction ns f options).toList =
        unlines ((headLines options f).map String.toList) ++
          unlines ((headerLine ns f).toList :: (invokeLine f).toList :: (callLine f).toList ::
            (commaLines (f.parameters.map fun p => (argumentLine p).toList) ++
              ["  )".toList, "end".toList])) ∧
      listedNames? (headerLine ns f).toList = some shown ∧
      (commaLines (f.parameters.map fun p => (argumentLine p).toList)).map argumentName? =
        shown.map some ∧
      shown.length = f.parameters.length ∧
      (∀ name ∈ shown, IsIdentifier name ∧ Lua.isReserved name = false) ∧
      (shown.Nodup ↔ ∀ p ∈ f.parameters, ∀ q ∈ f.parameters, ¬Lua.Clash p.name q.name) ∧
      ∀ i p, f.parameters[i]? = some p → ∃ name, shown[i]? = some name ∧
        ((∀ j q, i < j → f.parameters[j]? = some q → ¬Lua.Clash p.name q.name) →
          Lua.denoted? shown name = some i) ∧
        ∀ j q, i < j → f.parameters[j]? = some q → Lua.Clash p.name q.name →
          Lua.denoted? shown name = some j := by
  have shown : f.parameters.map (fun p => Lua.escapeReserved p.name) =
      (f.parameters.map (·.name)).map Lua.escapeReserved := by
    rw [List.map_map]
    rfl
  refine ⟨_, ?_, listedNames?_headerLine ns names, argumentName?_commaLines names,
    List.length_map _, ?_, ?_, ?_⟩
  · rw [renderFunction_toList, codeLines, blockLines, List.cons_append, List.cons_append,
      List.cons_append, List.append_assoc]
    rfl
  · rw [List.forall_mem_map]
    intro p member
    exact ⟨(names p member).escapeReserved, Lua.isReserved_escapeReserved p.name⟩
  · rw [shown, Lua.nodup_escapeReserved_iff distinct, List.forall_mem_map]
    exact forall₂_congr fun p _ => List.forall_mem_map
  · intro i p held
    have heldName : (f.parameters.map (·.name))[i]? = some p.name := by
      rw [List.getElem?_map, held]
      rfl
    refine ⟨Lua.escapeReserved p.name, ?_, ?_, ?_⟩
    · rw [List.getElem?_map, held]
      rfl
    · intro without
      rw [shown]
      refine Lua.denoted?_own distinct heldName ?_
      intro j b later there
      rw [List.getElem?_map, Option.map_eq_some_iff] at there
      obtain ⟨q, found, rfl⟩ := there
      exact without j q later found
    · intro j q later found clash
      rw [shown]
      refine Lua.denoted?_clash distinct heldName later ?_ clash
      rw [List.getElem?_map, found]
      rfl

/-- A function with integers for parameters. -/
def integral (names : List String) : NativeFunction :=
  ⟨"F", "0x1", 0, "void", names.map fun name => ⟨"int", name⟩, "", none, none⟩

theorem integral_identifiers : ∀ names ∈ [["end", "do", "end_"], ["end", "end_"]],
    ∀ p ∈ (integral names).parameters, IsIdentifier p.name := by
  have identifiers : ∀ s ∈ ["end", "do", "end_"], IsIdentifier s := by
    have first : ∀ s ∈ ["end", "do", "end_"], ∃ c ∈ s.toList.head?, c.isAlpha = true ∨ c = '_' := by
      simp
    have word : ∀ s ∈ ["end", "do", "end_"], ∀ c ∈ s.toList, IsWordChar c := by
      simp [IsWordChar]
    exact fun s member => ⟨first s member, word s member⟩
  have among : ∀ names ∈ [["end", "do", "end_"], ["end", "end_"]], ∀ name ∈ names,
      name ∈ ["end", "do", "end_"] := by decide
  intro names member
  exact List.forall_mem_map.mpr fun name held => identifiers name (among names member name held)

/-- Two reserved words, and one of them with an underscore behind both. -/
theorem renderFunction_arguments_between :
    (∀ p ∈ (integral ["end", "do", "end_"]).parameters, IsIdentifier p.name) ∧
      ((integral ["end", "do", "end_"]).parameters.map (·.name)).Nodup ∧
      listedNames? (headerLine "N" (integral ["end", "do", "end_"])).toList =
        some ["end_", "do_", "end_"] ∧
      Lua.denoted? ["end_", "do_", "end_"] "do_" = some 1 ∧
      Lua.denoted? ["end_", "do_", "end_"] "end_" = some 2 := by
  have names := integral_identifiers ["end", "do", "end_"] (by simp)
  have distinct : ((integral ["end", "do", "end_"]).parameters.map (·.name)).Nodup := by decide
  obtain ⟨shown, -, listed, -, -, -, -, denotes⟩ :=
    renderFunction_arguments "N" .none names distinct
  have same : shown = ["end_", "do_", "end_"] := by
    have whole : listedNames? (headerLine "N" (integral ["end", "do", "end_"])).toList =
        some ["end_", "do_", "end_"] := by decide +kernel
    exact Option.some.inj (listed.symm.trans whole)
  subst same
  obtain ⟨name, held, own, -⟩ := denotes 1 ⟨"int", "do"⟩ rfl
  obtain ⟨lost, heldLost, -, later⟩ := denotes 0 ⟨"int", "end"⟩ rfl
  cases held
  cases heldLost
  refine ⟨names, distinct, listed, own ?_, later 2 ⟨"int", "end_"⟩ (by decide) rfl (by decide)⟩
  intro j q after there
  have inside := (List.getElem?_eq_some_iff.mp there).1
  have last : j = 2 := by
    have three : (integral ["end", "do", "end_"]).parameters.length = 3 := rfl
    omega
  subst last
  cases there
  decide

/-- A reserved word and that word with an underscore behind it: the first line lists one name twice,
so that both argument lines hand on what was passed for the second parameter. -/
theorem renderFunction_arguments_lost :
    (∀ p ∈ (integral ["end", "end_"]).parameters, IsIdentifier p.name) ∧
      ((integral ["end", "end_"]).parameters.map (·.name)).Nodup ∧
      renderFunction "N" (integral ["end", "end_"]) .none =
        "function N.F(end_, end_)\n  native.invoke(\n    Type.Void, 0, false,\n" ++
          "    arg(Type.Int, end_),\n    arg(Type.Int, end_)\n  )\nend\n" ∧
      listedNames? (headerLine "N" (integral ["end", "end_"])).toList = some ["end_", "end_"] ∧
      ¬["end_", "end_"].Nodup ∧ Lua.denoted? ["end_", "end_"] "end_" ≠ some 0 :=
  ⟨integral_identifiers ["end", "end_"] (by simp), by decide, by decide +kernel, by decide +kernel,
    by decide, by decide⟩

end LuaBindings.Binding
