import LuaBindings.Proofs.Binding.Lines
import LuaBindings.Proofs.Lua.Tokens
/-!
# Documentation and code

Signatures and comments stand above the functions of a generated text. A signature adds no token to
the code. A comment adds the tokens that stand behind its first two closing brackets, where the long
comment around it ends, and no others; whatever it holds, it takes no token of the code away.
-/

namespace LuaBindings.Binding

open Lua (Settled uncomment tokens scan)

/-! ## Comments that end early -/

/-- The tokens of a comment text that stand behind the end of the comment. -/
def strayTokens (comment : String) : List (List Char) :=
  scan [] (uncomment .longComment comment.toList)

/-- A comment text without two closing brackets has no such tokens. -/
theorem strayTokens_eq_nil {comment : String} (closed : ¬ [']', ']'] <:+: comment.toList) :
    strayTokens comment = [] := by
  have inside := Lua.uncomment_long_append closed (c := ' ') (by decide) []
  rw [(Lua.uncomment_split (by decide) .longComment comment.toList []).1] at inside
  have nothing : uncomment .longComment comment.toList = [] := (List.append_eq_nil_iff.mp inside).1
  rw [strayTokens, nothing]
  rfl

/-- The comment of a function as it stands in the text. -/
def commentBlock (comment : String) : List Char :=
  "--[[\n".toList ++ (comment.toList ++ "\n--]]".toList)

/-- The last line of a comment ends it, whether it has ended before or not. -/
theorem commentBlock_settled (comment : String) : Settled (commentBlock comment) := by
  have opened : Lua.regionAfter .code (commentBlock comment) =
      Lua.regionAfter .longComment ('\n' :: comment.toList ++ '\n' :: "--]]".toList) := by
    rfl
  unfold Settled
  rw [opened, (Lua.uncomment_split (by decide) .longComment ('\n' :: comment.toList) _).2]
  cases Lua.regionAfter .longComment ('\n' :: comment.toList) with
  | code => decide
  | shortComment => decide
  | longComment => decide

theorem tokens_commentBlock (comment : String) :
    tokens (commentBlock comment) = strayTokens comment := by
  have opened : uncomment .code (commentBlock comment) =
      uncomment .longComment (comment.toList ++ '\n' :: "--]]".toList) := by
    rfl
  rw [tokens, strayTokens, opened, (Lua.uncomment_split (by decide) .longComment _ _).1]
  -- What is left of the last line is at most the line break in front of it.
  cases Lua.regionAfter .longComment comment.toList with
  | code => exact (Lua.scan_line [] _ []).trans (List.append_nil _)
  | shortComment => exact (Lua.scan_line [] _ []).trans (List.append_nil _)
  | longComment => exact congrArg (scan []) (List.append_nil _)

/-! ## Line by line -/

theorem tokens_unlines {lines : List (List Char)} (h : ∀ line ∈ lines, Settled line)
    (rest : List Char) : tokens (unlines lines ++ rest) = lines.flatMap tokens ++ tokens rest := by
  induction lines with
  | nil => rfl
  | cons line others ih =>
      rw [List.forall_mem_cons] at h
      rw [unlines_cons, List.append_assoc, List.cons_append, Lua.tokens_line h.1, ih h.2,
        List.flatMap_cons, List.append_assoc]

theorem Inert.settled {line : List Char} (h : Inert line) : Settled line := by
  have noDash : '-' ∉ line := fun member => (h '-' member).1 rfl
  unfold Settled
  rw [← List.append_nil line, Lua.regionAfter_code_append noDash]
  decide

/-- The name of a table that leaves no comment open may stand in the first line of a function. -/
theorem settled_headerLine {ns : String} {f : NativeFunction} (named : Settled ns.toList)
    (plain : PlainFunction f) : Settled (headerLine ns f).toList := by
  have opening : '-' ∉ "function ".toList := by decide
  have tail := inert_headerTail plain
  rw [headerLine_toList]
  unfold Settled
  rw [Lua.regionAfter_code_append opening]
  simp only [String.toList_append] at tail ⊢
  exact named.append (by decide) tail

theorem settled_codeLines {ns : String} {f : NativeFunction} (named : Settled ns.toList)
    (plain : PlainFunction f) : ∀ line ∈ codeLines ns f, Settled line := by
  intro line member
  rcases List.mem_cons.mp member with rfl | member
  · exact settled_headerLine named plain
  · exact (inert_callLines ns plain line member).settled

theorem settled_titleLine {ns : String} (named : Settled ns.toList) :
    Settled (titleLine ns).toList := by
  have quiet : ∀ d ∈ [' ', '=', ' ', '\x7b', '\x7d'], d ≠ '-' ∧ Lua.isLineBreak d = false := by
    simp [Lua.isLineBreak]
  rw [titleLine, String.toList_append]
  exact named.append (by decide) quiet

/-- A signature adds no token. -/
theorem tokens_signature {f : NativeFunction} (plain : PlainFunction f) (rest : List Char) :
    tokens (("-- " ++ signature f).toList ++ '\n' :: rest) = tokens rest := by
  unfold tokens
  rw [vanishes_signature plain]
  rfl

/-- What stands above a function adds the stray tokens of its comment, if comments are shown. -/
theorem tokens_headLines {f : NativeFunction} (options : Options) (plain : PlainFunction f)
    (rest : List Char) :
    tokens (unlines ((headLines options f).map String.toList) ++ rest) =
      (if options.comments then strayTokens f.comment else []) ++ tokens rest := by
  have declared : ∀ behind, tokens (unlines ((if options.signatures then ["-- " ++ signature f]
      else []).map String.toList) ++ behind) = tokens behind := by
    intro behind
    by_cases shown : options.signatures
    · rw [if_pos shown, List.map_cons, List.map_nil, unlines_cons, List.append_assoc,
        List.cons_append]
      exact tokens_signature plain behind
    · rw [if_neg shown]
      rfl
  have block : ("--[[\n" ++ f.comment ++ "\n--]]").toList = commentBlock f.comment := by
    simp [commentBlock]
  rw [headLines, List.map_append, unlines_append, List.append_assoc, declared]
  by_cases shown : options.comments
  · by_cases empty : f.comment = ""
    · rw [if_neg (by simp [empty]), if_pos shown, empty]
      rfl
    · rw [if_pos (by simp [shown, empty]), if_pos shown, List.map_cons, List.map_nil, unlines_cons,
        List.append_assoc, List.cons_append, block, Lua.tokens_line (commentBlock_settled _),
        tokens_commentBlock]
      rfl
  · rw [if_neg (by simp [shown]), if_neg shown]
    rfl

/-! ## The text of a namespace -/

/-- The tokens of a generated text are those of its code, with the stray tokens of each comment in
front of the function that it stands above. -/
theorem tokens_renderNamespace {ns : Namespace} (named : Settled ns.name.toList)
    (plain : ∀ f ∈ ns.functions, PlainFunction f) (options : Options) :
    tokens (renderNamespace ns options).toList =
      tokens (titleLine ns.name).toList ++ ns.functions.flatMap fun f =>
        (if options.comments then strayTokens f.comment else []) ++
          (codeLines ns.name f).flatMap tokens := by
  have body : ∀ fs : List NativeFunction, (∀ f ∈ fs, PlainFunction f) →
      tokens (fs.flatMap fun f => (renderFunction ns.name f options ++ "\n").toList) =
        fs.flatMap fun f => (if options.comments then strayTokens f.comment else []) ++
          (codeLines ns.name f).flatMap tokens := by
    intro fs
    induction fs with
    | nil =>
        intro _
        rfl
    | cons f rest ih =>
        intro plains
        rw [List.forall_mem_cons] at plains
        have text : (renderFunction ns.name f options ++ "\n").toList =
            unlines ((headLines options f).map String.toList) ++
              unlines (codeLines ns.name f ++ [[]]) := by
          rw [String.toList_append, renderFunction_toList, unlines_append, List.append_assoc]
          rfl
        have settled : ∀ line ∈ codeLines ns.name f ++ [[]], Settled line :=
          List.forall_mem_append.mpr ⟨settled_codeLines named plains.1, by decide⟩
        have code : (codeLines ns.name f ++ [[]]).flatMap tokens =
            (codeLines ns.name f).flatMap tokens := by
          rw [List.flatMap_append]
          exact List.append_nil _
        rw [List.flatMap_cons, List.flatMap_cons, text, List.append_assoc,
          tokens_headLines options plains.1, tokens_unlines settled, code, ih plains.2,
          List.append_assoc]
  have title : ∀ line ∈ [(titleLine ns.name).toList, []], Settled line :=
    List.forall_mem_cons.mpr ⟨settled_titleLine named, by decide⟩
  rw [renderNamespace_toList, tokens_unlines title, body ns.functions plain]
  exact congrArg (· ++ _) (List.append_nil _)

/-- Nothing is put in front of any part exactly when the parts make up the same whole without it. -/
theorem flatMap_append_eq_iff {α β : Type} (added own : α → List β) (xs : List α) :
    (xs.flatMap fun x => added x ++ own x) = xs.flatMap own ↔ ∀ x ∈ xs, added x = [] := by
  have longer : ∀ xs : List α,
      (xs.flatMap own).length ≤ (xs.flatMap fun x => added x ++ own x).length := by
    intro xs
    induction xs with
    | nil => exact Nat.le_refl _
    | cons x rest ih =>
        simp only [List.flatMap_cons, List.length_append]
        omega
  induction xs with
  | nil => simp
  | cons x rest ih =>
      rw [List.flatMap_cons, List.flatMap_cons, List.forall_mem_cons]
      constructor
      · intro same
        have sizes := congrArg List.length same
        simp only [List.length_append] at sizes
        have none : added x = [] := by
          apply List.eq_nil_of_length_eq_zero
          have := longer rest
          omega
        rw [none, List.nil_append] at same
        exact ⟨none, ih.mp (List.append_cancel_left same)⟩
      · rintro ⟨none, same⟩
        rw [none, ih.mpr same, List.nil_append]

/-- The same options with nothing shown but the code. -/
def Options.undocumented (options : Options) : Options :=
  { options with comments := false, signatures := false }

/-- Documentation leaves the tokens of a generated text as they are exactly when no comment that is
shown has a token behind its first two closing brackets; so it does if no comment has two closing
brackets. -/
theorem tokens_documented_iff {ns : Namespace} (named : Settled ns.name.toList)
    (plain : ∀ f ∈ ns.functions, PlainFunction f) (options : Options) :
    (tokens (renderNamespace ns options).toList =
        tokens (renderNamespace ns options.undocumented).toList ↔
      (options.comments = true → ∀ f ∈ ns.functions, strayTokens f.comment = [])) ∧
    ((∀ f ∈ ns.functions, ¬ [']', ']'] <:+: f.comment.toList) →
      tokens (renderNamespace ns options).toList =
        tokens (renderNamespace ns options.undocumented).toList) := by
  have same : tokens (renderNamespace ns options).toList =
        tokens (renderNamespace ns options.undocumented).toList ↔
      (options.comments = true → ∀ f ∈ ns.functions, strayTokens f.comment = []) := by
    rw [tokens_renderNamespace named plain, tokens_renderNamespace named plain,
      List.append_cancel_left_eq]
    simp only [Options.undocumented, Bool.false_eq_true, if_false, List.nil_append]
    rw [flatMap_append_eq_iff]
    by_cases shown : options.comments
    · simp only [shown, if_true, true_implies]
    · simp [shown]
  refine ⟨same, ?_⟩
  intro closed
  exact same.mpr fun _ f member => strayTokens_eq_nil (closed f member)

/-- A namespace of one function with a comment. -/
def commented (comment : String) : Namespace :=
  ⟨"N", [⟨"F", "0x1 ]]", 0, "void", [⟨"int*", "end"⟩], comment, none, none⟩]⟩

theorem commented_plain (comment : String) : ∀ f ∈ (commented comment).functions, PlainFunction f := by
  have identifiers : ∀ s ∈ ["F", "end"], IsIdentifier s := by
    have first : ∀ s ∈ ["F", "end"], ∃ c ∈ s.toList.head?, c.isAlpha = true ∨ c = '_' := by simp
    have word : ∀ s ∈ ["F", "end"], ∀ c ∈ s.toList, IsWordChar c := by simp [IsWordChar]
    exact fun s member => ⟨first s member, word s member⟩
  have types : ∀ t ∈ ["int*", "void"], IsPlainType t := by decide
  refine List.forall_mem_singleton.mpr ⟨identifiers "F" (by simp), ?_, ?_, types "void" (by simp), ?_⟩
  · exact List.forall_mem_singleton.mpr (identifiers "end" (by simp))
  · exact List.forall_mem_singleton.mpr (types "int*" (by simp))
  · simp [Lua.isLineBreak]

/-- A comment that ends early, with nothing behind its end but a comment again. -/
theorem tokens_documented_remark :
    tokens (renderNamespace (commented "t[u[1]] -- indexed") ⟨true, true, false⟩).toList =
      tokens (renderNamespace (commented "t[u[1]] -- indexed") .none).toList :=
  (tokens_documented_iff (by decide) (commented_plain _) ⟨true, true, false⟩).1.mpr
    fun _ => by decide +kernel

/-- A comment that ends early, with words behind its end: they become code. -/
theorem tokens_documented_escape :
    (∀ f ∈ (commented "t[u[1]] is set").functions, PlainFunction f) ∧
      strayTokens "t[u[1]] is set" = ["is".toList, "set".toList] ∧
      tokens (renderNamespace (commented "t[u[1]] is set") ⟨true, false, false⟩).toList ≠
        tokens (renderNamespace (commented "t[u[1]] is set") .none).toList :=
  ⟨commented_plain _, by decide +kernel, by decide +kernel⟩

end LuaBindings.Binding
