import LuaBindings.Proofs.Binding.Lines
import Mathlib.Data.List.Basic
/-!
# Reading generated text back

A reader of generated text that knows its layout and nothing of how it is rendered: comments and
empty lines are dropped, the first line names the table, and every function ends with a line of its
own. What it reads of a rendered namespace is the namespace, function by function and argument by
argument.
-/

namespace LuaBindings.Binding

open Lua (uncomment)

/-! ## What is read -/

/-- An argument of a call. -/
structure BoundArgument where
  byReference : Bool
  type : String
  name : String
  deriving DecidableEq, Repr

/-- A function and the call that it makes. -/
structure BoundFunction where
  name : String
  /-- The names between the brackets of the first line. -/
  parameters : List String
  /-- Whether the function returns what the call yields. -/
  returned : Bool
  resultType : String
  sequenceId : Nat
  fixup : Bool
  arguments : List BoundArgument
  deriving DecidableEq, Repr

/-- A table and its functions. -/
structure BoundNamespace where
  name : String
  functions : List BoundFunction
  deriving DecidableEq, Repr

/-! ## The reader -/

/-- The parts of a text between commas, each of which has a blank behind it. -/
def commaParts : List Char → List (List Char)
  | [] => [[]]
  | ',' :: ' ' :: rest => [] :: commaParts rest
  | c :: rest => (commaParts rest).modifyHead (c :: ·)

/-- A line without the comma at its end, and whether it has one. -/
def dropComma (line : List Char) : List Char × Bool :=
  match line.dropSuffix? [','] with
  | some line => (line, true)
  | none => (line, false)

/-- A number in decimal digits. -/
def readNumber (digits : List Char) : Option Nat :=
  if digits ≠ [] ∧ digits.all Char.isDigit then some (Nat.ofDigitChars 10 digits 0) else none

/-- The words for a flag. -/
def readFlag (word : List Char) : Option Bool :=
  if word = "true".toList then some true
  else if word = "false".toList then some false
  else none

/-- The name of a function of the table and the names of its parameters. -/
def readHeader (table : String) (line : List Char) : Option (String × List String) := do
  let inside ← line.dropPrefix? ("function ".toList ++ table.toList ++ ['.'])
  let name := inside.takeWhile (· ≠ '(')
  let inside ← (inside.dropWhile (· ≠ '(')).dropPrefix? ['(']
  let inside ← inside.dropSuffix? [')']
  let names := if inside = [] then [] else (commaParts inside).map String.ofList
  return (String.ofList name, names)

/-- Whether the call is returned. -/
def readInvoke (line : List Char) : Option Bool :=
  if line = "  return native.invoke(".toList then some true
  else if line = "  native.invoke(".toList then some false
  else none

/-- The type, the place and the flag of a call, and whether arguments follow. -/
def readCall (line : List Char) : Option (String × Nat × Bool × Bool) := do
  let inside ← line.dropPrefix? "    ".toList
  let (inside, more) := dropComma inside
  match commaParts inside with
  | [type, place, flag] => return (String.ofList type, ← readNumber place, ← readFlag flag, more)
  | _ => none

/-- An argument from its line. -/
def readArgument (line : List Char) : Option BoundArgument := do
  let byReference := "    ref(".toList.isPrefixOf line
  let inside ← line.dropPrefix? (if byReference then "    ref(" else "    arg(").toList
  let inside ← inside.dropSuffix? [')']
  match commaParts inside with
  | [type, name] => return ⟨byReference, String.ofList type, String.ofList name⟩
  | _ => none

/-- The arguments of a call up to its closing line, given whether there is a first one. A comma
behind an argument announces the next. -/
def readArguments : Bool → List (List Char) → Option (List BoundArgument)
  | false, [closing] => if closing = "  )".toList then some [] else none
  | true, line :: rest => do
      let (line, more) := dropComma line
      return (← readArgument line) :: (← readArguments more rest)
  | _, _ => none

/-- A function of the table from its lines but the last. -/
def readFunction (table : String) : List (List Char) → Option BoundFunction
  | header :: invoke :: call :: rest => do
      let (name, parameters) ← readHeader table header
      let returned ← readInvoke invoke
      let (resultType, sequenceId, fixup, more) ← readCall call
      let arguments ← readArguments more rest
      return { name, parameters, returned, resultType, sequenceId, fixup, arguments }
  | _ => none

/-- The functions of the table, given the lines between the lines that end a function. Nothing may
stand behind the last of these. -/
def readFunctions (table : String) : List (List (List Char)) → Option (List BoundFunction)
  | [] => none
  | [rest] => if rest = [] then some [] else none
  | block :: blocks => do return (← readFunction table block) :: (← readFunctions table blocks)

/-- The namespace of a generated text. -/
def readNamespace (text : String) : Option BoundNamespace :=
  match ((uncomment .code text.toList).splitOn '\n').filter (· ≠ []) with
  | [] => none
  | title :: lines => do
      let name := String.ofList (← title.dropSuffix? " = \x7b\x7d".toList)
      return ⟨name, ← readFunctions name (lines.splitOn "end".toList)⟩

/-! ## What there is to read -/

/-- What the generated text says of a function. -/
def boundFunction (f : NativeFunction) : BoundFunction where
  name := f.name
  parameters := f.parameters.map fun p => Lua.escapeReserved p.name
  returned := f.returnType ≠ "void"
  resultType := typeConstant f.returnType
  sequenceId := f.sequenceId.toNat
  fixup := needsFixup f
  arguments := f.parameters.map fun p =>
    ⟨p.isPointer, typeConstant p.type, Lua.escapeReserved p.name⟩

/-- What the generated text says of a namespace. -/
def boundNamespace (ns : Namespace) : BoundNamespace := ⟨ns.name, ns.functions.map boundFunction⟩

/-! ## Parts of lines -/

theorem dropSuffix?_append {s t : List Char} : (s ++ t).dropSuffix? t = some s :=
  List.dropSuffix?_eq_some_iff.mpr ⟨t, rfl, BEq.rfl⟩

theorem dropPrefix?_append {s t : List Char} : (t ++ s).dropPrefix? t = some s :=
  List.dropPrefix?_append_of_beq s BEq.rfl

theorem dropComma_append (line : List Char) : dropComma (line ++ [',']) = (line, true) := by
  rw [dropComma, dropSuffix?_append]

theorem dropComma_of_getLast {line : List Char} (h : line.getLast? ≠ some ',') :
    dropComma line = (line, false) := by
  rw [dropComma]
  split
  · rename_i rest dropped
    obtain ⟨comma, rfl, same⟩ := List.dropSuffix?_eq_some_iff.mp dropped
    rw [eq_of_beq same, List.getLast?_concat] at h
    exact absurd rfl h
  · rfl

theorem commaParts_cons {c : Char} (h : c ≠ ',') (rest : List Char) :
    commaParts (c :: rest) = (commaParts rest).modifyHead (c :: ·) := by
  rw [commaParts]
  rintro _ rfl
  exact absurd rfl h

theorem commaParts_self {s : List Char} (h : ',' ∉ s) : commaParts s = [s] := by
  induction s with
  | nil => rfl
  | cons c rest ih =>
      rw [List.mem_cons, not_or] at h
      rw [commaParts_cons (Ne.symm h.1), ih h.2]
      rfl

theorem commaParts_append {s : List Char} (h : ',' ∉ s) (rest : List Char) :
    commaParts (s ++ ',' :: ' ' :: rest) = s :: commaParts rest := by
  induction s with
  | nil => rw [List.nil_append, commaParts]
  | cons c s ih =>
      rw [List.mem_cons, not_or] at h
      rw [List.cons_append, commaParts_cons (Ne.symm h.1), ih h.2]
      rfl

/-- Parts without commas are told apart again. -/
theorem commaParts_intercalate {parts : List (List Char)} (some : parts ≠ [])
    (h : ∀ part ∈ parts, ',' ∉ part) : commaParts ([',', ' '].intercalate parts) = parts := by
  induction parts with
  | nil => exact absurd rfl some
  | cons part rest ih =>
      rw [List.forall_mem_cons] at h
      cases rest with
      | nil => rw [List.intercalate_singleton, commaParts_self h.1]
      | cons next others =>
          rw [List.intercalate_cons_cons, List.append_assoc]
          exact (commaParts_append h.1 _).trans
            (congrArg (part :: ·) (ih (List.cons_ne_nil _ _) h.2))

theorem noComma_of_quiet {s : List Char} (h : ∀ c ∈ s, IsQuiet c) : ',' ∉ s := by
  intro member
  exact (h ',' member).ne (by decide) rfl

/-- Names between commas are told apart again. As none of them is empty, there is nothing between the
brackets only where there is no name. -/
theorem names_intercalate {names : List String} (identifiers : ∀ name ∈ names, IsIdentifier name) :
    (if [',', ' '].intercalate (names.map String.toList) = [] then []
      else (commaParts ([',', ' '].intercalate (names.map String.toList))).map String.ofList) =
      names := by
  cases names with
  | nil => rfl
  | cons name rest =>
      have first : name.toList ≠ [] := (identifiers name List.mem_cons_self).toList_ne_nil
      have some : [',', ' '].intercalate ((name :: rest).map String.toList) ≠ [] := by
        intro empty
        cases rest with
        | nil =>
            rw [List.map_singleton, List.intercalate_singleton] at empty
            exact first empty
        | cons next others =>
            rw [List.map_cons, List.map_cons, List.intercalate_cons_cons, List.append_eq_nil_iff,
              List.append_eq_nil_iff] at empty
            exact first empty.1.1
      have commas : ∀ part ∈ (name :: rest).map String.toList, ',' ∉ part := by
        rw [List.forall_mem_map]
        intro other member
        exact noComma_of_quiet (identifiers other member).quiet
      rw [if_neg some, commaParts_intercalate (by simp) commas, List.map_map]
      simp [Function.comp_def]

theorem readNumber_toString (n : Nat) : readNumber (toString n).toList = some n := by
  have digits := List.all_eq_true.mpr (repr_isDigit n)
  rw [Nat.toString_eq_ofList_toDigits, String.toList_ofList] at digits ⊢
  rw [readNumber, if_pos ⟨Nat.toDigits_ne_nil, digits⟩, Nat.ofDigitChars_ten_toDigits]

theorem readFlag_word (flag : Bool) :
    readFlag (if flag then "true" else "false").toList = some flag := by
  cases flag with
  | true => rfl
  | false => rfl

/-! ## Lines -/

theorem readHeader_headerLine {ns : String} {f : NativeFunction} (plain : PlainFunction f) :
    readHeader ns (headerLine ns f).toList =
      some (f.name, f.parameters.map fun p => Lua.escapeReserved p.name) := by
  let names := f.parameters.map fun p => (Lua.escapeReserved p.name).toList
  have line : (headerLine ns f).toList = ("function ".toList ++ ns.toList ++ ['.']) ++
      (f.name.toList ++ '(' :: ([',', ' '].intercalate names ++ [')'])) := by
    simp [headerLine, names, String.toList_intercalate, Function.comp_def]
  have notBracket : ∀ c ∈ f.name.toList, decide (c ≠ '(') = true := by
    intro c member
    exact decide_eq_true ((plain.name.quiet c member).ne (by decide))
  have name : (f.name.toList ++ '(' :: ([',', ' '].intercalate names ++ [')'])).takeWhile
      (· ≠ '(') = f.name.toList := by
    rw [List.takeWhile_append_of_pos notBracket]
    simp
  have inside : (f.name.toList ++ '(' :: ([',', ' '].intercalate names ++ [')'])).dropWhile
      (· ≠ '(') = ['('] ++ ([',', ' '].intercalate names ++ [')']) := by
    rw [List.dropWhile_append_of_pos notBracket]
    rfl
  have parts : (if [',', ' '].intercalate names = [] then []
      else (commaParts ([',', ' '].intercalate names)).map String.ofList) =
      f.parameters.map fun p => Lua.escapeReserved p.name := by
    have whole := names_intercalate (List.forall_mem_map.mpr fun p member =>
      (plain.parameterNames p member).escapeReserved)
    rw [List.map_map] at whole
    exact whole
  rw [line, readHeader, dropPrefix?_append]
  simp only [Option.bind_eq_bind, Option.bind_some, name, inside, dropPrefix?_append,
    dropSuffix?_append, parts, String.ofList_toList]
  rfl

theorem readInvoke_invokeLine (f : NativeFunction) :
    readInvoke (invokeLine f).toList = some (decide (f.returnType ≠ "void")) := by
  rw [invokeLine, NativeFunction.returnsVoid, decide_not]
  cases decide (f.returnType = "void") with
  | true => rfl
  | false => rfl

/-- A comma behind a list of words is no part of the list. -/
theorem dropComma_flag (s : List Char) (flag more : Bool) :
    dropComma (s ++ (if flag then "true" else "false").toList ++ if more then [','] else []) =
      (s ++ (if flag then "true" else "false").toList, more) := by
  cases more with
  | true => exact dropComma_append _
  | false =>
      rw [if_neg Bool.false_ne_true, List.append_nil]
      refine dropComma_of_getLast ?_
      cases flag with
      | true => simp
      | false => simp

theorem readCall_callLine {f : NativeFunction} (plain : PlainFunction f) :
    readCall (callLine f).toList =
      some (typeConstant f.returnType, f.sequenceId.toNat, needsFixup f, !f.parameters.isEmpty) := by
  have line : (callLine f).toList = "    ".toList ++
      ((typeConstant f.returnType).toList ++ [',', ' '] ++ (toString f.sequenceId.toNat).toList ++
        [',', ' '] ++ (if needsFixup f then "true" else "false").toList ++
        if !f.parameters.isEmpty then [','] else []) := by
    cases parameters : f.parameters with
    | nil => simp [callLine, parameters]
    | cons p rest => simp [callLine, parameters]
  have listed : (typeConstant f.returnType).toList ++ [',', ' '] ++
      (toString f.sequenceId.toNat).toList ++ [',', ' '] ++
      (if needsFixup f then "true" else "false").toList =
      [',', ' '].intercalate [(typeConstant f.returnType).toList, (toString f.sequenceId.toNat).toList,
        (if needsFixup f then "true" else "false").toList] := by
    simp [List.intercalate_cons_cons]
  have commas : ∀ part ∈ [(typeConstant f.returnType).toList, (toString f.sequenceId.toNat).toList,
      (if needsFixup f then "true" else "false").toList], ',' ∉ part := by
    rw [List.forall_mem_cons, List.forall_mem_cons, List.forall_mem_singleton]
    refine ⟨noComma_of_quiet (typeConstant_quiet plain.returnType),
      noComma_of_quiet fun c member => .inl (repr_word _ c member), ?_⟩
    split
    · simp
    · simp
  rw [line, readCall, dropPrefix?_append]
  simp only [Option.bind_eq_bind, Option.bind_some, dropComma_flag]
  rw [listed, commaParts_intercalate (List.cons_ne_nil _ _) commas]
  simp only [readNumber_toString, readFlag_word, String.ofList_toList]
  rfl

theorem readArgument_argumentLine {p : Parameter} (name : IsIdentifier p.name)
    (type : IsPlainType p.type) :
    readArgument (argumentLine p).toList =
      some ⟨p.isPointer, typeConstant p.type, Lua.escapeReserved p.name⟩ := by
  have line : (argumentLine p).toList =
      (if p.isPointer then "    ref(" else "    arg(").toList ++
        ([',', ' '].intercalate
          [(typeConstant p.type).toList, (Lua.escapeReserved p.name).toList] ++ [')']) := by
    cases pointer : p.isPointer with
    | true => simp [argumentLine, pointer, List.intercalate_cons_cons]
    | false => simp [argumentLine, pointer, List.intercalate_cons_cons]
  have wrapper : ∀ s, "    ref(".toList.isPrefixOf
      ((if p.isPointer then "    ref(" else "    arg(").toList ++ s) = p.isPointer := by
    intro s
    cases p.isPointer with
    | true => rfl
    | false => rfl
  have commas : ∀ part ∈ [(typeConstant p.type).toList, (Lua.escapeReserved p.name).toList],
      ',' ∉ part := by
    rw [List.forall_mem_cons, List.forall_mem_singleton]
    exact ⟨noComma_of_quiet (typeConstant_quiet type),
      noComma_of_quiet name.escapeReserved.quiet⟩
  rw [line, readArgument, wrapper]
  simp only [Option.bind_eq_bind, dropPrefix?_append, Option.bind_some, dropSuffix?_append]
  rw [commaParts_intercalate (List.cons_ne_nil _ _) commas]
  simp only [String.ofList_toList]
  rfl

/-- The comma behind an argument, or its absence, tells whether another one follows. -/
theorem readArguments_commaLines {ps : List Parameter} (names : ∀ p ∈ ps, IsIdentifier p.name)
    (types : ∀ p ∈ ps, IsPlainType p.type) :
    readArguments (!ps.isEmpty) (commaLines (ps.map fun p => (argumentLine p).toList) ++
      ["  )".toList]) =
      some (ps.map fun p => ⟨p.isPointer, typeConstant p.type, Lua.escapeReserved p.name⟩) := by
  induction ps with
  | nil => rfl
  | cons p rest ih =>
      rw [List.forall_mem_cons] at names types
      have read := readArgument_argumentLine names.1 types.1
      have later := ih names.2 types.2
      -- An argument ends with its bracket, so a comma at the end of its line is no part of it.
      have closed : (argumentLine p).toList.getLast? ≠ some ',' := by
        rw [argumentLine, String.toList_append]
        intro comma
        exact absurd (List.getLast?_concat.symm.trans comma) (by decide)
      cases rest with
      | nil =>
          show readArguments true ((argumentLine p).toList :: ["  )".toList]) = _
          rw [readArguments, dropComma_of_getLast closed]
          simp only [Option.bind_eq_bind, read, Option.bind_some]
          rfl
      | cons q others =>
          show readArguments true (((argumentLine p).toList ++ [',']) ::
            (commaLines ((q :: others).map fun p => (argumentLine p).toList) ++ ["  )".toList])) = _
          rw [readArguments, dropComma_append]
          simp only [List.isEmpty_cons, Bool.not_false] at later
          simp only [Option.bind_eq_bind, read, Option.bind_some, later]
          rfl

theorem readFunction_blockLines {ns : String} {f : NativeFunction} (plain : PlainFunction f) :
    readFunction ns (blockLines ns f) = some (boundFunction f) := by
  have arguments := readArguments_commaLines plain.parameterNames plain.parameterTypes
  rw [blockLines, readFunction]
  simp only [readHeader_headerLine plain, readInvoke_invokeLine, readCall_callLine plain, arguments,
    Option.bind_eq_bind, Option.bind_some]
  rfl

/-! ## Texts -/

theorem splitOn_unlines {lines : List (List Char)} (h : ∀ line ∈ lines, Inert line) :
    (unlines lines).splitOn '\n' = lines ++ [[]] := by
  induction lines with
  | nil => rfl
  | cons line rest ih =>
      rw [List.forall_mem_cons] at h
      have noBreak : '\n' ∉ line := by
        intro member
        exact absurd (h.1 '\n' member).2 (by decide)
      rw [unlines_cons, List.splitOn_append_cons_self_of_not_mem noBreak, ih h.2]
      rfl

/-- The lines of a function but its last are neither empty nor like its last. -/
theorem blockLines_head (ns : String) (f : NativeFunction) :
    ∀ line ∈ blockLines ns f, ∃ c ∈ line.head?, c ≠ 'e' := by
  have arguments : ∀ line ∈ commaLines (f.parameters.map fun p => (argumentLine p).toList),
      ∃ c ∈ line.head?, c ≠ 'e' := by
    apply forall_mem_commaLines
    · rw [List.forall_mem_map]
      intro p _
      exact ⟨' ', by simp [argumentLine], by decide⟩
    · rintro line ⟨c, head, other⟩
      exact ⟨c, by simp [List.head?_append, Option.mem_def.mp head], other⟩
  rw [blockLines, List.forall_mem_cons, List.forall_mem_cons, List.forall_mem_cons,
    List.forall_mem_append, List.forall_mem_singleton]
  exact ⟨⟨'f', by simp [headerLine], by decide⟩, ⟨' ', by simp [invokeLine], by decide⟩,
    ⟨' ', by simp [callLine], by decide⟩, arguments, ⟨' ', by decide, by decide⟩⟩

theorem codeLines_ne_nil (ns : String) (f : NativeFunction) :
    ∀ line ∈ codeLines ns f, line ≠ [] := by
  refine List.forall_mem_append.mpr ⟨?_, by decide⟩
  rintro line member rfl
  obtain ⟨c, head, -⟩ := blockLines_head ns f [] member
  cases head

/-- The lines that end a function tell the functions apart. -/
theorem splitOn_codeLines (ns : String) (fs : List NativeFunction) :
    (fs.flatMap (codeLines ns)).splitOn "end".toList = fs.map (blockLines ns) ++ [[]] := by
  induction fs with
  | nil => rfl
  | cons f rest ih =>
      have noEnd : "end".toList ∉ blockLines ns f := by
        intro member
        obtain ⟨c, head, other⟩ := blockLines_head ns f _ member
        cases head
        exact other rfl
      rw [List.flatMap_cons, codeLines, List.append_assoc, List.singleton_append,
        List.splitOn_append_cons_self_of_not_mem noEnd, ih]
      rfl

theorem readFunctions_blockLines {ns : String} {fs : List NativeFunction}
    (plain : ∀ f ∈ fs, PlainFunction f) :
    readFunctions ns (fs.map (blockLines ns) ++ [[]]) = some (fs.map boundFunction) := by
  induction fs with
  | nil => rfl
  | cons f rest ih =>
      rw [List.forall_mem_cons] at plain
      have more : rest.map (blockLines ns) ++ [[]] ≠ [] := by simp
      rw [List.map_cons, List.cons_append, readFunctions]
      · simp only [readFunction_blockLines plain.1, ih plain.2, Option.bind_eq_bind,
          Option.bind_some]
        rfl
      · exact more

theorem inert_leftLines {ns : Namespace} (options : Options) (plain : PlainNamespace ns) :
    ∀ line ∈ ns.functions.flatMap (leftLines ns.name options), Inert line := by
  intro line member
  obtain ⟨f, held, member⟩ := List.mem_flatMap.mp member
  rcases List.mem_append.mp member with member | member
  · rw [List.eq_of_mem_replicate member]
    exact inert_nil
  · rcases List.mem_append.mp member with member | member
    · exact inert_codeLines plain.name (plain.functions f held) line member
    · rw [List.mem_singleton.mp member]
      exact inert_nil

/-- The lines that are left of a function are its code and empty lines. -/
theorem filter_leftLines (ns : String) (options : Options) (f : NativeFunction) :
    (leftLines ns options f).filter (· ≠ []) = codeLines ns f := by
  have code : (codeLines ns f).filter (· ≠ []) = codeLines ns f :=
    List.filter_eq_self.mpr fun line member => decide_eq_true (codeLines_ne_nil ns f line member)
  rw [leftLines, List.filter_append, List.filter_append, code, List.filter_replicate]
  simp

/-- A generated text is read back as the namespace that it was generated from, whatever the options.
The names in a call are those of the first line of its function. -/
theorem readNamespace_renderNamespace {ns : Namespace} (plain : PlainNamespace ns)
    (closed : ∀ f ∈ ns.functions, ¬ [']', ']'] <:+: f.comment.toList) (options : Options) :
    readNamespace (renderNamespace ns options) = some (boundNamespace ns) ∧
      ∀ f ∈ (boundNamespace ns).functions, f.arguments.map (·.name) = f.parameters := by
  let functions := ns.functions.flatMap (leftLines ns.name options)
  -- Comments leave empty lines behind, so dropping those leaves the code alone.
  have inert : ∀ line ∈ (titleLine ns.name).toList :: [] :: functions, Inert line := by
    rw [List.forall_mem_cons, List.forall_mem_cons]
    exact ⟨inert_titleLine plain.name, inert_nil, inert_leftLines options plain⟩
  have lines : (((titleLine ns.name).toList :: [] :: functions) ++ [[]]).filter (· ≠ []) =
      (titleLine ns.name).toList :: ns.functions.flatMap (codeLines ns.name) := by
    have title : (titleLine ns.name).toList ≠ [] := by simp [titleLine]
    have kept : functions.filter (· ≠ []) = ns.functions.flatMap (codeLines ns.name) := by
      rw [List.filter_flatMap]
      exact congrArg ns.functions.flatMap (funext (filter_leftLines ns.name options))
    simp only [List.filter_append, List.filter_cons, kept, ne_eq, title, not_false_eq_true,
      not_true_eq_false, decide_true, decide_false, if_true, Bool.false_eq_true, if_false]
    exact List.append_nil _
  constructor
  · rw [readNamespace, uncomment_renderNamespace options plain closed, splitOn_unlines inert, lines]
    have title : (titleLine ns.name).toList.dropSuffix? " = \x7b\x7d".toList =
        some ns.name.toList := by
      rw [titleLine, String.toList_append, dropSuffix?_append]
    simp only [title, Option.bind_eq_bind, Option.bind_some, String.ofList_toList,
      splitOn_codeLines, readFunctions_blockLines plain.functions]
    rfl
  · intro f member
    obtain ⟨native, -, rfl⟩ := List.mem_map.mp member
    exact List.map_map

/-- A function without parameters, and one with reserved words for names, a type that starts with a
blank and dashes and brackets in its documentation. -/
def sampleNamespace : Namespace where
  name := "ENTITY"
  functions := [
    ⟨"GET_NOTHING", "0x1", 0, "void", [], "", none, none⟩,
    ⟨"GET_ENTITY_MATRIX", "0x2 ]] -- x", 761, "const char*",
      [⟨"Vector3*", "end"⟩, ⟨" unsigned int", "_1"⟩], "a] --[[ b\n-- c ]", none, none⟩]

theorem readNamespace_sampleNamespace :
    readNamespace (renderNamespace sampleNamespace ⟨true, true, false⟩) =
      some ⟨"ENTITY", [
        ⟨"GET_NOTHING", [], false, "Type.Void", 0, false, []⟩,
        ⟨"GET_ENTITY_MATRIX", ["end_", "_1"], true, "Type.String", 761, true,
          [⟨true, "Type.Vector3", "end_"⟩, ⟨false, "Type. unsigned int", "_1"⟩]⟩]⟩ := by
  have identifiers : ∀ s ∈ ["ENTITY", "GET_NOTHING", "GET_ENTITY_MATRIX", "end", "_1"],
      IsIdentifier s := by
    have first : ∀ s ∈ ["ENTITY", "GET_NOTHING", "GET_ENTITY_MATRIX", "end", "_1"],
        ∃ c ∈ s.toList.head?, c.isAlpha = true ∨ c = '_' := by simp
    have word : ∀ s ∈ ["ENTITY", "GET_NOTHING", "GET_ENTITY_MATRIX", "end", "_1"],
        ∀ c ∈ s.toList, IsWordChar c := by simp [IsWordChar]
    exact fun s member => ⟨first s member, word s member⟩
  have plain : PlainNamespace sampleNamespace := by
    simp only [List.forall_mem_cons] at identifiers
    obtain ⟨table, nothing, matrix, reserved, underscored, -⟩ := identifiers
    refine ⟨table, List.forall_mem_cons.mpr ⟨?_, List.forall_mem_singleton.mpr ?_⟩⟩
    · exact ⟨nothing, by simp, by simp, by decide, by simp [Lua.isLineBreak]⟩
    · refine ⟨matrix, ?_, by decide, by decide, by simp [Lua.isLineBreak]⟩
      exact List.forall_mem_cons.mpr ⟨reserved, List.forall_mem_singleton.mpr underscored⟩
  have closed : ∀ f ∈ sampleNamespace.functions, ¬ [']', ']'] <:+: f.comment.toList := by decide
  have read := readNamespace_renderNamespace plain closed ⟨true, true, false⟩
  rw [read.1]
  decide +kernel

end LuaBindings.Binding
