import LuaBindings.Binding.Render
import LuaBindings.Proofs.Lua.Comments
/-!
# Lines of generated text

What the text of a namespace consists of once its comments are gone: the lines of its code, with an
empty line where a comment or the end of a function stood. Names, types and hashes are taken to be
plain, so that none of them breaks a line or opens a comment.
-/

namespace LuaBindings.Binding

open Lua (Region uncomment isLineBreak)

/-! ## Plain namespaces -/

/-- A character inside an identifier. -/
def IsWordChar (c : Char) : Prop := c.isAlphanum = true ∨ c = '_'

instance (c : Char) : Decidable (IsWordChar c) := inferInstanceAs (Decidable (_ ∨ _))

/-- Letters, digits and underscores, of which the first is no digit. -/
structure IsIdentifier (s : String) : Prop where
  first : ∃ c ∈ s.toList.head?, c.isAlpha = true ∨ c = '_'
  word : ∀ c ∈ s.toList, IsWordChar c

/-- A type of words, blanks and pointer stars. -/
def IsPlainType (s : String) : Prop := ∀ c ∈ s.toList, IsWordChar c ∨ c = ' ' ∨ c = '*'

instance (s : String) : Decidable (IsPlainType s) := List.decidableBAll _ s.toList

/-- A function whose parts cannot be taken for anything else in the text. Its comment may be any. -/
structure PlainFunction (f : NativeFunction) : Prop where
  name : IsIdentifier f.name
  parameterNames : ∀ p ∈ f.parameters, IsIdentifier p.name
  parameterTypes : ∀ p ∈ f.parameters, IsPlainType p.type
  returnType : IsPlainType f.returnType
  hash : ∀ c ∈ f.hash.toList, isLineBreak c = false

/-- A namespace of such functions. -/
structure PlainNamespace (ns : Namespace) : Prop where
  name : IsIdentifier ns.name
  functions : ∀ f ∈ ns.functions, PlainFunction f

/-! ## Characters of the code -/

/-- A character of a name or of a type constant: none that divides or ends anything. -/
def IsQuiet (c : Char) : Prop := IsWordChar c ∨ c = ' ' ∨ c = '.'

instance (c : Char) : Decidable (IsQuiet c) := inferInstanceAs (Decidable (_ ∨ _ ∨ _))

theorem IsQuiet.ne {c d : Char} (h : IsQuiet c) (loud : ¬ IsQuiet d) : c ≠ d := by
  rintro rfl
  exact loud h

theorem IsIdentifier.toList_ne_nil {s : String} (h : IsIdentifier s) : s.toList ≠ [] := by
  intro empty
  obtain ⟨c, head, -⟩ := h.first
  rw [empty] at head
  cases head

/-- Escaping a reserved word keeps it an identifier. -/
theorem IsIdentifier.escapeReserved {s : String} (h : IsIdentifier s) :
    IsIdentifier (Lua.escapeReserved s) := by
  rw [Lua.escapeReserved]
  split
  · obtain ⟨c, head, letter⟩ := h.first
    refine ⟨⟨c, ?_, letter⟩, ?_⟩
    · rw [String.toList_append, List.head?_append, Option.mem_def.mp head]
      rfl
    · rw [String.toList_append]
      exact List.forall_mem_append.mpr ⟨h.word, by simp [IsWordChar]⟩
  · exact h

theorem toNat_lt_of_isAlphanum {c : Char} (h : c.isAlphanum = true) : c.toNat < 128 := by
  have below : ∀ bound : UInt32, bound.toNat < 128 → c.val ≤ bound → c.toNat < 128 :=
    fun _ small le => Nat.lt_of_le_of_lt (UInt32.le_iff_toNat_le.mp le) small
  rcases (Bool.or_eq_true _ _).mp h with letter | digit
  · rcases (Bool.or_eq_true _ _).mp letter with upper | lower
    · exact below 'Z'.val (by decide) (of_decide_eq_true upper).2
    · exact below 'z'.val (by decide) (of_decide_eq_true ((Bool.and_eq_true _ _).mp lower).2)
  · exact below '9'.val (by decide) (of_decide_eq_true ((Bool.and_eq_true _ _).mp digit).2)

/-- Among the characters of a type without stars, case mapping yields no others. -/
theorem caseMapping_word {c : Char} (h : IsWordChar c ∨ c = ' ') :
    ∀ d ∈ Text.capital c ++ Text.small c, IsWordChar d ∨ d = ' ' := by
  -- Such a character is one of the first 128, for which the table is gone through.
  have mapped : ∀ n < 128, (IsWordChar (Char.ofNat n) ∨ Char.ofNat n = ' ') →
      (Text.capital (Char.ofNat n) ++ Text.small (Char.ofNat n)).all
        (fun d => IsWordChar d ∨ d = ' ') = true := by
    decide +kernel
  have ascii : c.toNat < 128 := by
    rcases h with (h | rfl) | rfl
    · exact toNat_lt_of_isAlphanum h
    · decide
    · decide
  have whole := mapped c.toNat ascii
  rw [Char.ofNat_toNat] at whole
  intro d member
  exact of_decide_eq_true (List.all_eq_true.mp (whole h) d member)

theorem capitalize_word {s : List Char} (h : ∀ c ∈ s, IsWordChar c ∨ c = ' ') :
    ∀ d ∈ capitalize s, IsWordChar d ∨ d = ' ' := by
  cases s with
  | nil => exact h
  | cons c rest =>
      rw [List.forall_mem_cons] at h
      intro d member
      rcases List.mem_append.mp member with member | member
      · exact caseMapping_word h.1 d (List.mem_append_left _ member)
      · obtain ⟨e, held, member⟩ := List.mem_flatMap.mp member
        exact caseMapping_word (h.2 e held) d (List.mem_append_right _ member)

theorem baseType_word {type : String} (h : IsPlainType type) :
    ∀ c ∈ baseType type, IsWordChar c ∨ c = ' ' := by
  rw [baseType]
  split
  · simp [IsWordChar]
  · intro c member
    obtain ⟨held, notStar⟩ := List.mem_filter.mp member
    rcases h c held with word | blank | star
    · exact .inl word
    · exact .inr blank
    · exact absurd star (of_decide_eq_true notStar)

theorem typeConstant_quiet {type : String} (h : IsPlainType type) :
    ∀ c ∈ (typeConstant type).toList, IsQuiet c := by
  have whole : (typeConstant type).toList = "Type.".toList ++ capitalize (baseType type) := by
    rw [typeConstant, String.toList_append, String.toList_ofList (l := capitalize _)]
  rw [whole]
  intro c member
  rcases List.mem_append.mp member with member | member
  · have opening : ∀ c ∈ "Type.".toList, IsWordChar c ∨ c = '.' := by simp [IsWordChar]
    exact (opening c member).imp_right .inr
  · exact (capitalize_word (baseType_word h) c member).imp_right .inl

/-! ## The lines of a function -/

/-- The first line of the code of a function. -/
def headerLine (ns : String) (f : NativeFunction) : String :=
  "function " ++ ns ++ "." ++ f.name ++ "(" ++
    ", ".intercalate (f.parameters.map fun p => Lua.escapeReserved p.name) ++ ")"

/-- The line that opens the call. -/
def invokeLine (f : NativeFunction) : String :=
  "  " ++ (if f.returnsVoid then "" else "return ") ++ "native.invoke("

/-- The line of what is the same for every call of the function. -/
def callLine (f : NativeFunction) : String :=
  "    " ++ typeConstant f.returnType ++ ", " ++ toString f.sequenceId.toNat ++ ", " ++
    (if needsFixup f then "true" else "false") ++ if f.parameters.isEmpty then "" else ","

/-- Lines with a comma behind each but the last. -/
def commaLines : List (List Char) → List (List Char)
  | [] => []
  | [line] => [line]
  | line :: rest => (line ++ [',']) :: commaLines rest

/-- The lines of the code of a function but the last. -/
def blockLines (ns : String) (f : NativeFunction) : List (List Char) :=
  (headerLine ns f).toList :: (invokeLine f).toList :: (callLine f).toList ::
    (commaLines (f.parameters.map fun p => (argumentLine p).toList) ++ ["  )".toList])

/-- The lines of the code of a function. -/
def codeLines (ns : String) (f : NativeFunction) : List (List Char) :=
  blockLines ns f ++ ["end".toList]

/-- Lines one below the other. -/
def unlines (lines : List (List Char)) : List Char := lines.flatMap (· ++ ['\n'])

theorem unlines_append (a b : List (List Char)) : unlines (a ++ b) = unlines a ++ unlines b :=
  List.flatMap_append

theorem unlines_cons (line : List Char) (rest : List (List Char)) :
    unlines (line :: rest) = line ++ '\n' :: unlines rest := by
  rw [unlines, List.flatMap_cons, List.append_assoc]
  rfl

theorem intercalate_newline {lines : List (List Char)} (h : lines ≠ []) :
    ['\n'].intercalate lines ++ ['\n'] = unlines lines := by
  induction lines with
  | nil => exact absurd rfl h
  | cons line rest ih =>
      cases rest with
      | nil => simp [unlines]
      | cons next others =>
          rw [List.intercalate_cons_cons, List.append_assoc, ih (List.cons_ne_nil _ _),
            unlines_cons line, List.append_assoc]
          rfl

theorem intercalate_comma {lines : List (List Char)} (h : lines ≠ []) :
    [',', '\n'].intercalate lines ++ ['\n'] = unlines (commaLines lines) := by
  induction lines with
  | nil => exact absurd rfl h
  | cons line rest ih =>
      cases rest with
      | nil => simp [unlines, commaLines]
      | cons next others =>
          have added : commaLines (line :: next :: others) =
              (line ++ [',']) :: commaLines (next :: others) := rfl
          rw [List.intercalate_cons_cons, List.append_assoc, ih (List.cons_ne_nil _ _), added,
            unlines_cons (line ++ [',']), List.append_assoc, List.append_assoc]
          rfl

theorem unlines_bodyLines (ns : String) (f : NativeFunction) :
    unlines ((bodyLines ns f).map String.toList) = unlines (codeLines ns f) := by
  have body : bodyLines ns f = [headerLine ns f, invokeLine f, callLine f] ++
      (if (f.parameters.map argumentLine).isEmpty then []
        else [",\n".intercalate (f.parameters.map argumentLine)]) ++ ["  )", "end"] := rfl
  have arguments : unlines ((if (f.parameters.map argumentLine).isEmpty then []
      else [",\n".intercalate (f.parameters.map argumentLine)]).map String.toList) =
      unlines (commaLines (f.parameters.map fun p => (argumentLine p).toList)) := by
    cases parameters : f.parameters with
    | nil => rfl
    | cons p rest =>
        rw [← intercalate_comma (by simp)]
        simp [unlines, String.toList_intercalate, Function.comp_def]
  rw [body, List.map_append, List.map_append, unlines_append, unlines_append, arguments]
  simp only [codeLines, blockLines, unlines_cons, unlines_append, List.map_cons, List.map_nil]
  simp [unlines]

/-- The text of a function: what stands above it, and its code. -/
theorem renderFunction_toList (ns : String) (f : NativeFunction) (options : Options) :
    (renderFunction ns f options).toList =
      unlines ((headLines options f).map String.toList) ++ unlines (codeLines ns f) := by
  have some : (headLines options f ++ bodyLines ns f).map String.toList ≠ [] := by
    simp [bodyLines]
  rw [renderFunction, String.toList_append, String.toList_intercalate]
  refine (intercalate_newline some).trans ?_
  rw [List.map_append, unlines_append, unlines_bodyLines]

/-! ## Lines without comments -/

/-- A part of a line that opens no comment. -/
def Inert (s : List Char) : Prop := ∀ c ∈ s, c ≠ '-' ∧ isLineBreak c = false

@[simp]
theorem inert_nil : Inert [] := List.forall_mem_nil _

@[simp]
theorem inert_cons {c : Char} {s : List Char} :
    Inert (c :: s) ↔ (c ≠ '-' ∧ isLineBreak c = false) ∧ Inert s :=
  List.forall_mem_cons

@[simp]
theorem inert_append {s t : List Char} : Inert (s ++ t) ↔ Inert s ∧ Inert t :=
  List.forall_mem_append

/-- What holds of every character of the parts and of the separator holds of every character of
the whole. -/
theorem forall_mem_intercalate {P : Char → Prop} {separator : List Char}
    {parts : List (List Char)} (hs : ∀ c ∈ separator, P c) (hp : ∀ part ∈ parts, ∀ c ∈ part, P c) :
    ∀ c ∈ separator.intercalate parts, P c := by
  induction parts with
  | nil => exact List.forall_mem_nil _
  | cons part rest ih =>
      rw [List.forall_mem_cons] at hp
      cases rest with
      | nil =>
          rw [List.intercalate_singleton]
          exact hp.1
      | cons next others =>
          rw [List.intercalate_cons_cons]
          exact List.forall_mem_append.mpr ⟨List.forall_mem_append.mpr ⟨hp.1, hs⟩, ih hp.2⟩

theorem inert_of_quiet {s : List Char} (h : ∀ c ∈ s, IsQuiet c) : Inert s := by
  intro c member
  have quiet := h c member
  have newline : c ≠ '\n' := quiet.ne (by decide)
  have feed : c ≠ '\r' := quiet.ne (by decide)
  exact ⟨quiet.ne (by decide), by simp [isLineBreak, newline, feed]⟩

theorem IsIdentifier.quiet {s : String} (h : IsIdentifier s) : ∀ c ∈ s.toList, IsQuiet c :=
  fun c member => .inl (h.word c member)

theorem repr_isDigit (n : Nat) : ∀ c ∈ (toString n).toList, c.isDigit = true := by
  intro c member
  rw [Nat.toString_eq_ofList_toDigits, String.toList_ofList] at member
  exact Nat.isDigit_of_mem_toDigits (by decide) (by decide) member

theorem repr_word (n : Nat) : ∀ c ∈ (toString n).toList, IsWordChar c := by
  intro c member
  exact .inl (by simp [Char.isAlphanum, repr_isDigit n c member])

theorem inert_argumentLine {p : Parameter} (name : IsIdentifier p.name)
    (type : IsPlainType p.type) : Inert (argumentLine p).toList := by
  have constant := inert_of_quiet (typeConstant_quiet type)
  have escaped := inert_of_quiet name.escapeReserved.quiet
  by_cases pointer : p.isPointer
  · simp [argumentLine, isLineBreak, pointer, constant, escaped]
  · simp [argumentLine, isLineBreak, pointer, constant, escaped]

/-- What holds of every line, and still does with a comma behind it, holds of the divided lines. -/
theorem forall_mem_commaLines {P : List Char → Prop} {lines : List (List Char)}
    (h : ∀ line ∈ lines, P line) (comma : ∀ line, P line → P (line ++ [','])) :
    ∀ line ∈ commaLines lines, P line := by
  induction lines with
  | nil => exact h
  | cons line rest ih =>
      cases rest with
      | nil => exact h
      | cons next others =>
          rw [List.forall_mem_cons] at h
          exact List.forall_mem_cons.mpr ⟨comma line h.1, ih h.2⟩

/-- What stands behind the name of the table in the first line of a function. -/
theorem inert_headerTail {f : NativeFunction} (plain : PlainFunction f) :
    Inert ("." ++ f.name ++ "(" ++
      ", ".intercalate (f.parameters.map fun p => Lua.escapeReserved p.name) ++ ")").toList := by
  have name := inert_of_quiet plain.name.quiet
  have names : Inert (", ".toList.intercalate
      ((f.parameters.map fun p => Lua.escapeReserved p.name).map String.toList)) := by
    refine forall_mem_intercalate (by simp [isLineBreak]) ?_
    rw [List.map_map, List.forall_mem_map]
    intro p member
    exact inert_of_quiet (plain.parameterNames p member).escapeReserved.quiet
  simp only [String.toList_append, String.toList_intercalate, inert_append, names]
  simp [isLineBreak, name]

theorem headerLine_toList (ns : String) (f : NativeFunction) :
    (headerLine ns f).toList = "function ".toList ++ (ns.toList ++ ("." ++ f.name ++ "(" ++
      ", ".intercalate (f.parameters.map fun p => Lua.escapeReserved p.name) ++ ")").toList) := by
  simp [headerLine]

/-- The lines behind the first one, which do not name the table. -/
theorem inert_callLines (ns : String) {f : NativeFunction} (plain : PlainFunction f) :
    ∀ line ∈ (codeLines ns f).tail, Inert line := by
  have invoke : Inert (invokeLine f).toList := by
    by_cases void : f.returnsVoid
    · simp [invokeLine, isLineBreak, void]
    · simp [invokeLine, isLineBreak, void]
  have call : Inert (callLine f).toList := by
    have constant := inert_of_quiet (typeConstant_quiet plain.returnType)
    have place : Inert (toString f.sequenceId.toNat).toList :=
      inert_of_quiet fun c member => .inl (repr_word _ c member)
    have flag : Inert (if needsFixup f then "true" else "false").toList := by
      split
      · simp [isLineBreak]
      · simp [isLineBreak]
    have comma : Inert (if f.parameters.isEmpty then "" else ",").toList := by
      split
      · simp
      · simp [isLineBreak]
    unfold callLine
    simp only [String.toList_append, inert_append]
    simp only [constant, place, flag, comma]
    simp [isLineBreak]
  have arguments : ∀ line ∈ commaLines (f.parameters.map fun p => (argumentLine p).toList),
      Inert line := by
    apply forall_mem_commaLines
    · rw [List.forall_mem_map]
      intro p member
      exact inert_argumentLine (plain.parameterNames p member) (plain.parameterTypes p member)
    · intro line inert
      simp [isLineBreak, inert]
  have closing : ∀ line ∈ ["  )".toList], Inert line := by simp [isLineBreak]
  have ending : ∀ line ∈ ["end".toList], Inert line := by simp [isLineBreak]
  rw [codeLines, blockLines, List.cons_append, List.tail_cons, List.cons_append, List.cons_append,
    List.forall_mem_cons, List.forall_mem_cons, List.forall_mem_append, List.forall_mem_append]
  exact ⟨invoke, call, ⟨arguments, closing⟩, ending⟩

theorem inert_codeLines {ns : String} {f : NativeFunction} (named : IsIdentifier ns)
    (plain : PlainFunction f) : ∀ line ∈ codeLines ns f, Inert line := by
  have header : Inert (headerLine ns f).toList := by
    rw [headerLine_toList, inert_append, inert_append]
    exact ⟨by simp [isLineBreak], inert_of_quiet named.quiet, inert_headerTail plain⟩
  intro line member
  rcases List.mem_cons.mp member with rfl | member
  · exact header
  · exact inert_callLines ns plain line member

/-- Lines of code are left as they are. -/
theorem uncomment_unlines {lines : List (List Char)} (h : ∀ line ∈ lines, Inert line)
    (rest : List Char) :
    uncomment .code (unlines lines ++ rest) = unlines lines ++ uncomment .code rest := by
  refine Lua.uncomment_append ?_ rest
  intro dash
  obtain ⟨line, held, member⟩ := List.mem_flatMap.mp dash
  rcases List.mem_append.mp member with member | member
  · exact (h line held _ member).1 rfl
  · exact absurd member (by decide)

theorem IsPlainType.lineBreak {t : String} (h : IsPlainType t) :
    ∀ c ∈ t.toList, isLineBreak c = false := by
  intro c member
  rcases h c member with word | rfl | rfl
  · have single : Inert [c] := inert_of_quiet (List.forall_mem_singleton.mpr (.inl word))
    exact (single c (List.mem_singleton_self c)).2
  · rfl
  · rfl

theorem IsIdentifier.lineBreak {s : String} (h : IsIdentifier s) :
    ∀ c ∈ s.toList, isLineBreak c = false :=
  fun c member => (inert_of_quiet h.quiet c member).2

theorem signature_lineBreak {f : NativeFunction} (plain : PlainFunction f) :
    ∀ c ∈ (signature f).toList, isLineBreak c = false := by
  have parameters : ∀ c ∈ (", ".intercalate
      (f.parameters.map fun p => p.type ++ " " ++ p.name)).toList, isLineBreak c = false := by
    rw [String.toList_intercalate, List.map_map]
    refine forall_mem_intercalate (by simp [isLineBreak]) (List.forall_mem_map.mpr ?_)
    intro p member
    have blank : ∀ c ∈ " ".toList, isLineBreak c = false := by simp [isLineBreak]
    simp only [Function.comp_apply, String.toList_append, List.forall_mem_append]
    exact ⟨⟨(plain.parameterTypes p member).lineBreak, blank⟩,
      (plain.parameterNames p member).lineBreak⟩
  have separators : ∀ s ∈ [" ", "(", ") // "], ∀ c ∈ s.toList, isLineBreak c = false := by
    simp [isLineBreak]
  simp only [List.forall_mem_cons] at separators
  obtain ⟨blank, opening, closing, -⟩ := separators
  unfold signature
  simp only [String.toList_append, List.forall_mem_append]
  exact ⟨⟨⟨⟨⟨⟨plain.returnType.lineBreak, blank⟩, plain.name.lineBreak⟩, opening⟩, parameters⟩,
    closing⟩, plain.hash⟩

/-- A comment that ends with its line or before it leaves the end of the line. -/
def Vanishes (line : List Char) : Prop :=
  ∀ rest, uncomment .code (line ++ '\n' :: rest) = '\n' :: uncomment .code rest

theorem uncomment_vanishing {lines : List (List Char)} (h : ∀ line ∈ lines, Vanishes line)
    (rest : List Char) :
    uncomment .code (unlines lines ++ rest) =
      unlines (List.replicate lines.length []) ++ uncomment .code rest := by
  induction lines with
  | nil => rfl
  | cons line others ih =>
      rw [List.forall_mem_cons] at h
      rw [unlines_cons, List.append_assoc, List.cons_append, h.1, ih h.2]
      rfl

theorem vanishes_signature {f : NativeFunction} (plain : PlainFunction f) :
    Vanishes ("-- " ++ signature f).toList := by
  intro rest
  have breaks : ∀ c ∈ ' ' :: (signature f).toList, isLineBreak c = false :=
    List.forall_mem_cons.mpr ⟨rfl, signature_lineBreak plain⟩
  rw [String.toList_append]
  exact Lua.uncomment_shortComment (by decide) breaks rest

/-- All that stands above a function vanishes. -/
theorem vanishes_headLines {f : NativeFunction} (options : Options) (plain : PlainFunction f)
    (closed : ¬ [']', ']'] <:+: f.comment.toList) :
    ∀ line ∈ (headLines options f).map String.toList, Vanishes line := by
  have commented : Vanishes ("--[[\n" ++ f.comment ++ "\n--]]").toList := by
    intro rest
    rw [String.toList_append, String.toList_append, Lua.uncomment_longComment closed,
      Lua.uncomment_code_cons (by decide)]
  intro line member
  obtain ⟨text, held, rfl⟩ := List.mem_map.mp member
  rcases List.mem_append.mp held with held | held
  · split at held
    · rw [List.mem_singleton.mp held]
      exact vanishes_signature plain
    · cases held
  · split at held
    · rw [List.mem_singleton.mp held]
      exact commented
    · cases held

/-! ## The text of a namespace -/

/-- The first line of a namespace. -/
def titleLine (ns : String) : String := ns ++ " = \x7b\x7d"

theorem inert_titleLine {ns : String} (named : IsIdentifier ns) : Inert (titleLine ns).toList := by
  rw [titleLine, String.toList_append]
  have name := inert_of_quiet named.quiet
  simp [isLineBreak, name]

/-- The text of a namespace: its title, an empty line, and its functions. -/
theorem renderNamespace_toList (ns : Namespace) (options : Options) :
    (renderNamespace ns options).toList =
      unlines [(titleLine ns.name).toList, []] ++
        ns.functions.flatMap fun f => (renderFunction ns.name f options ++ "\n").toList := by
  simp [renderNamespace, titleLine, unlines, String.toList_join, List.flatMap_map]

/-- What is left of a function without comments. -/
def leftLines (ns : String) (options : Options) (f : NativeFunction) : List (List Char) :=
  List.replicate (headLines options f).length [] ++ (codeLines ns f ++ [[]])

/-- What is left of the text of a namespace without comments is the code, and empty lines where the
comments stood. -/
theorem uncomment_renderNamespace {ns : Namespace} (options : Options) (plain : PlainNamespace ns)
    (closed : ∀ f ∈ ns.functions, ¬ [']', ']'] <:+: f.comment.toList) :
    uncomment .code (renderNamespace ns options).toList =
      unlines ((titleLine ns.name).toList :: [] ::
        ns.functions.flatMap (leftLines ns.name options)) := by
  -- Function by function: what stands above it vanishes, and its code stays.
  have body : ∀ fs : List NativeFunction, (∀ f ∈ fs, PlainFunction f) →
      (∀ f ∈ fs, ¬ [']', ']'] <:+: f.comment.toList) →
      uncomment .code (fs.flatMap fun f => (renderFunction ns.name f options ++ "\n").toList) =
        unlines (fs.flatMap (leftLines ns.name options)) := by
    intro fs
    induction fs with
    | nil =>
        intro _ _
        rfl
    | cons f rest ih =>
        intro plains closeds
        rw [List.forall_mem_cons] at plains closeds
        have inert := inert_codeLines plain.name plains.1
        rw [List.flatMap_cons, List.flatMap_cons, String.toList_append, renderFunction_toList,
          List.append_assoc, List.append_assoc,
          uncomment_vanishing (vanishes_headLines options plains.1 closeds.1), List.length_map,
          uncomment_unlines inert, leftLines, unlines_append, unlines_append, unlines_append,
          ← ih plains.2 closeds.2]
        simp [unlines, Lua.uncomment_code_cons]
  rw [renderNamespace_toList, uncomment_unlines, body ns.functions plain.functions closed]
  · rw [← unlines_append]
    rfl
  · exact List.forall_mem_cons.mpr ⟨inert_titleLine plain.name, by simp⟩

end LuaBindings.Binding
