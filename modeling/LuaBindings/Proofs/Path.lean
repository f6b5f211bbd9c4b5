import LuaBindings.Path
import Mathlib.Data.List.Infix
/-!
# Parts of paths

How the parts of a path change when a plain name is joined to it, and which parts the paths above it
keep.
-/

namespace LuaBindings.Path

/-! ## Dividing -/

theorem divide_ne_nil (s : List Char) : divide s ≠ [] := by
  cases s with
  | nil => exact List.cons_ne_nil _ _
  | cons c rest =>
      rw [divide]
      split
      · exact List.cons_ne_nil _ _
      · split
        · exact List.cons_ne_nil _ _
        · exact List.cons_ne_nil _ _

theorem divide_cons {c : Char} (h : c ≠ separator) {rest part : List Char}
    {parts : List (List Char)} (divided : divide rest = part :: parts) :
    divide (c :: rest) = (c :: part) :: parts := by
  rw [divide, if_neg h, divided]

/-- A separator divides. -/
theorem divide_append (a b : List Char) : divide (a ++ separator :: b) = divide a ++ divide b := by
  induction a with
  | nil =>
      rw [List.nil_append, divide]
      exact if_pos rfl
  | cons c rest ih =>
      by_cases h : c = separator
      · rw [List.cons_append, divide, if_pos h, divide, if_pos h, ih]
        rfl
      · obtain ⟨part, parts, divided⟩ := List.exists_cons_of_ne_nil (divide_ne_nil rest)
        rw [divided, List.cons_append] at ih
        rw [List.cons_append, divide_cons h ih, divide_cons h divided]
        rfl

/-- Nothing else does. -/
theorem divide_of_notMem {s : List Char} (h : separator ∉ s) : divide s = [s] := by
  induction s with
  | nil => rfl
  | cons c rest ih =>
      rw [List.mem_cons, not_or] at h
      exact divide_cons (Ne.symm h.1) (ih h.2)

theorem notMem_of_mem_divide {s part : List Char} (h : part ∈ divide s) : separator ∉ part := by
  induction s generalizing part with
  | nil =>
      rw [List.mem_singleton.mp h]
      exact List.not_mem_nil
  | cons c rest ih =>
      by_cases same : c = separator
      · rw [divide, if_pos same, List.mem_cons] at h
        rcases h with rfl | h
        · exact List.not_mem_nil
        · exact ih h
      · obtain ⟨first, parts, divided⟩ := List.exists_cons_of_ne_nil (divide_ne_nil rest)
        rw [divide_cons same divided, List.mem_cons] at h
        rcases h with rfl | h
        · rw [List.mem_cons, not_or]
          exact ⟨Ne.symm same, ih (by simp [divided])⟩
        · exact ih (by simp [divided, h])

/-- Parts put together again are told apart again. -/
theorem divide_intercalate {parts : List (List Char)} (some : parts ≠ [])
    (h : ∀ part ∈ parts, separator ∉ part) : divide ([separator].intercalate parts) = parts := by
  induction parts with
  | nil => exact absurd rfl some
  | cons part rest ih =>
      rw [List.forall_mem_cons] at h
      cases rest with
      | nil => rw [List.intercalate_singleton, divide_of_notMem h.1]
      | cons next others =>
          rw [List.intercalate_cons_cons, List.append_assoc, List.singleton_append, divide_append,
            divide_of_notMem h.1, ih (List.cons_ne_nil _ _) h.2]
          rfl

/-! ## Joining a name -/

/-- A name that leads to an entry of the directory it is looked up in, and nowhere else. -/
structure PlainName (name : String) : Prop where
  nonempty : name ≠ ""
  notSame : name ≠ "."
  notAbove : name ≠ ".."
  undivided : separator ∉ name.toList

theorem PlainName.relative {name : String} (plain : PlainName name) :
    isAbsolute ⟨name⟩ = false := by
  rw [isAbsolute, decide_eq_false_iff_not]
  intro head
  exact plain.undivided (List.mem_of_mem_head? head)

/-- Joining a relative path adds its parts, in place of an empty one if there is one. -/
theorem parts_join (path : Path) {part : Path} (relative : part.isAbsolute = false) :
    ∃ before, (path.join part).parts = before ++ part.parts ∧
      (path.parts = before ∨ path.parts = before ++ [[]]) := by
  rw [join, relative, if_neg Bool.false_ne_true]
  -- The path is empty, ends with a separator, or gets one before the part.
  cases ending : path.text.toList.getLast? with
  | none =>
      rw [List.getLast?_eq_none_iff] at ending
      refine ⟨[], rfl, .inr ?_⟩
      rw [parts, ending]
      rfl
  | some last =>
      by_cases closed : last = separator
      · subst closed
        obtain ⟨start, whole⟩ := List.getLast?_eq_some_iff.mp ending
        refine ⟨divide start, ?_, .inr ?_⟩
        · simp only [parts, if_true, String.toList_append, whole, List.append_assoc,
            List.singleton_append, divide_append]
        · rw [parts, whole, divide_append]
          rfl
      · refine ⟨path.parts, ?_, .inl rfl⟩
        have spelled : (path.text ++ "/" ++ part.text).toList =
            path.text.toList ++ separator :: part.text.toList := by
          rw [String.toList_append, String.toList_append, List.append_assoc]
          rfl
        simp only [parts, if_neg closed, spelled, divide_append]

/-- A plain name is one part. -/
theorem PlainName.parts {name : String} (plain : PlainName name) :
    Path.parts ⟨name⟩ = [name.toList] :=
  divide_of_notMem plain.undivided

/-- Joining a plain name adds it as a part of its own, in place of an empty one if there is one. -/
theorem PlainName.parts_join {name : String} (plain : PlainName name) (path : Path) :
    ∃ before, (path.join ⟨name⟩).parts = before ++ [name.toList] ∧
      (path.parts = before ∨ path.parts = before ++ [[]]) := by
  rw [← plain.parts]
  exact path.parts_join plain.relative

/-- Different plain names lead to different paths. -/
theorem PlainName.join_inj {a b : String} (ha : PlainName a) (hb : PlainName b) {path : Path}
    (same : path.join ⟨a⟩ = path.join ⟨b⟩) : a = b := by
  obtain ⟨beforeA, partsA, -⟩ := ha.parts_join path
  obtain ⟨beforeB, partsB, -⟩ := hb.parts_join path
  rw [same, partsB] at partsA
  have lasts : [b.toList] = [a.toList] := List.append_inj_right' partsA rfl
  exact (String.toList_inj.mp (List.singleton_inj.mp lasts)).symm

/-! ## The paths above -/

/-- The parts that name something of their own. -/
def named (parts : List (List Char)) : List (List Char) := parts.filter (!isVoid ·)

theorem named_cons_of_void {part : List Char} (void : isVoid part = true)
    (rest : List (List Char)) : named (part :: rest) = named rest :=
  List.filter_cons_of_neg (by simp [void])

theorem named_cons_of_not_void {part : List Char} (notVoid : ¬isVoid part = true)
    (rest : List (List Char)) : named (part :: rest) = part :: named rest :=
  List.filter_cons_of_pos (by simp [notVoid])

theorem named_append (parts more : List (List Char)) :
    named (parts ++ more) = named parts ++ named more :=
  List.filter_append parts more

theorem named_reverse (parts : List (List Char)) : named parts.reverse = (named parts).reverse :=
  List.filter_reverse

theorem named_dropWhile (parts : List (List Char)) :
    named (parts.dropWhile isVoid) = named parts := by
  induction parts with
  | nil => rfl
  | cons part rest ih =>
      by_cases void : isVoid part = true
      · rw [List.dropWhile_cons_of_pos void, ih, named_cons_of_void void]
      · rw [List.dropWhile_cons_of_neg void]

theorem dropParts_dropWhile (backward : List (List Char)) :
    dropParts (backward.dropWhile isVoid) = dropParts backward := by
  induction backward with
  | nil => rfl
  | cons part rest ih =>
      by_cases void : isVoid part = true
      · rw [List.dropWhile_cons_of_pos void, ih, dropParts, if_pos void]
      · rw [List.dropWhile_cons_of_neg void]

/-- Either no part names anything, or the last one that does is dropped first, and the others are
dropped from what is left. -/
theorem dropParts_cases (backward : List (List Char)) :
    dropParts backward = [] ∧ named backward = [] ∨
      ∃ dropped part kept, backward = dropped ++ kept ∧ part ∈ dropped ∧ part ≠ [] ∧
        dropParts backward = kept :: dropParts kept ∧ named backward = part :: named kept := by
  induction backward with
  | nil => exact .inl ⟨rfl, rfl⟩
  | cons first rest ih =>
      rw [dropParts]
      by_cases void : isVoid first = true
      · rw [if_pos void, named_cons_of_void void]
        rcases ih with ⟨none, unnamed⟩ | ⟨dropped, part, kept, rfl, member, nonempty, drops, names⟩
        · exact .inl ⟨none, unnamed⟩
        · exact .inr ⟨first :: dropped, part, kept, rfl, List.mem_cons_of_mem _ member, nonempty,
            drops, names⟩
      · have nonempty : first ≠ [] := by
          rintro rfl
          exact void rfl
        rw [if_neg void, named_cons_of_not_void void]
        refine .inr ⟨first :: rest.takeWhile isVoid, first, rest.dropWhile isVoid, ?_,
          List.mem_cons_self, nonempty, ?_, ?_⟩
        · rw [List.cons_append, List.takeWhile_append_dropWhile]
        · rw [dropParts_dropWhile]
        · rw [named_dropWhile]

theorem divide_assemble {kept backward : List (List Char)} (some : kept ≠ [])
    (suffix : kept <:+ backward) (undivided : ∀ part ∈ backward, separator ∉ part) :
    divide (assemble kept) = kept.reverse := by
  refine divide_intercalate (by simpa using some) ?_
  intro part member
  exact undivided part (suffix.mem (List.mem_reverse.mp member))

/-- The parts of a text make up the text. -/
theorem intercalate_divide (s : List Char) : [separator].intercalate (divide s) = s := by
  induction s with
  | nil => rfl
  | cons c rest ih =>
      obtain ⟨part, parts, divided⟩ := List.exists_cons_of_ne_nil (divide_ne_nil rest)
      by_cases same : c = separator
      · rw [divide, if_pos same, divided, List.intercalate_cons_cons, ← divided, ih, same]
        rfl
      · rw [divide_cons same divided]
        rw [divided] at ih
        cases parts with
        | nil =>
            rw [List.intercalate_singleton] at ih ⊢
            rw [ih]
        | cons next others =>
            rw [List.intercalate_cons_cons] at ih ⊢
            rw [List.cons_append, List.cons_append, ih]

theorem intercalate_append {parts more : List (List Char)} (some : parts ≠ []) (others : more ≠ []) :
    [separator].intercalate (parts ++ more) =
      [separator].intercalate parts ++ separator :: [separator].intercalate more := by
  induction parts with
  | nil => exact absurd rfl some
  | cons part rest ih =>
      cases rest with
      | nil =>
          obtain ⟨next, after, rfl⟩ := List.exists_cons_of_ne_nil others
          rw [List.singleton_append, List.intercalate_cons_cons, List.intercalate_singleton,
            List.append_assoc]
          rfl
      | cons next after =>
          rw [List.cons_append, List.cons_append, List.intercalate_cons_cons, ← List.cons_append,
            ih (List.cons_ne_nil _ _), List.intercalate_cons_cons, List.append_assoc _ _ (_ :: _)]

theorem length_le_intercalate {part : List Char} {parts : List (List Char)} (member : part ∈ parts) :
    part.length ≤ ([separator].intercalate parts).length := by
  obtain ⟨before, after, rfl⟩ := List.append_of_mem member
  have own : part.length ≤ ([separator].intercalate (part :: after)).length := by
    cases after with
    | nil => rw [List.intercalate_singleton]
    | cons next others =>
        rw [List.intercalate_cons_cons, List.append_assoc, List.length_append]
        omega
  by_cases first : before = []
  · rw [first]
    exact own
  · rw [intercalate_append first (List.cons_ne_nil _ _), List.length_append, List.length_cons]
    omega

/-- What is left when some parts are dropped is a beginning of the text, and a shorter one if one of
them is not empty. -/
theorem assemble_prefix (kept : List (List Char)) {dropped : List (List Char)} {part : List Char}
    (member : part ∈ dropped) (nonempty : part ≠ []) :
    assemble kept <+: assemble (dropped ++ kept) ∧
      (assemble kept).length < (assemble (dropped ++ kept)).length := by
  have inside : part ∈ dropped.reverse := List.mem_reverse.mpr member
  have positive : 0 < part.length := List.length_pos_iff.mpr nonempty
  have longer := length_le_intercalate inside
  unfold assemble
  rw [List.reverse_append]
  by_cases none : kept = []
  · subst none
    refine ⟨List.nil_prefix, ?_⟩
    show 0 < ([separator].intercalate dropped.reverse).length
    omega
  · rw [intercalate_append (by simpa using none) (List.ne_nil_of_mem inside)]
    refine ⟨List.prefix_append _ _, ?_⟩
    rw [List.length_append, List.length_cons]
    omega

/-! ## The path above -/

/-- A path and the one that is left when its last part is dropped. -/
structure StepsUp (path up : Path) : Prop where
  /-- The paths above are this one and those above it. -/
  parents : path.parents = up :: up.parents
  /-- Its text is a beginning of the other. -/
  beginning : up.text.toList <+: path.text.toList
  shorter : up.text.length < path.text.length
  named : named up.parts = (named path.parts).dropLast

theorem parts_absolute {path : Path} {rest : List Char}
    (text : path.text.toList = separator :: rest) : path.parts = [] :: divide rest := by
  rw [parts, text, divide]
  exact if_pos rfl

theorem parents_absolute {path : Path} {rest : List Char}
    (text : path.text.toList = separator :: rest) :
    path.parents = (dropParts (divide rest).reverse).map fun kept =>
      ⟨String.ofList (separator :: assemble kept)⟩ := by
  rw [parents, text]
  exact if_pos rfl

theorem parents_relative {path : Path} {c : Char} {rest : List Char}
    (text : path.text.toList = c :: rest) (relative : c ≠ separator) {first : List Char}
    {others : List (List Char)} (divided : path.parts = first :: others) :
    path.parents = (dropParts others.reverse).map (fun kept =>
      ⟨String.ofList (assemble (kept ++ [first]))⟩) ++ [⟨""⟩] := by
  rw [parts, text] at divided
  rw [parents, text]
  simp only [if_neg relative, divided]

/-- An absolute path either names nothing, or drops to an absolute path. -/
theorem stepsUp_absolute {path : Path} {rest : List Char}
    (text : path.text.toList = separator :: rest) :
    path.parents = [] ∧ named path.parts = [] ∨ ∃ up, StepsUp path up := by
  have names : named path.parts = (named (divide rest).reverse).reverse := by
    rw [parts_absolute text, named_cons_of_void rfl, named_reverse, List.reverse_reverse]
  rcases dropParts_cases (divide rest).reverse with
    ⟨none, unnamed⟩ | ⟨dropped, part, kept, split, member, nonempty, drops, named'⟩
  · refine .inl ⟨?_, ?_⟩
    · rw [parents_absolute text, none]
      rfl
    · rw [names, unnamed]
      rfl
  · let up : Path := ⟨String.ofList (separator :: assemble kept)⟩
    have upText : up.text.toList = separator :: assemble kept := String.toList_ofList
    have whole : rest = assemble (dropped ++ kept) := by
      rw [← split, assemble, List.reverse_reverse, intercalate_divide]
    have undivided : ∀ part ∈ dropped ++ kept, separator ∉ part := by
      intro part held
      rw [← split] at held
      exact notMem_of_mem_divide (List.mem_reverse.mp held)
    obtain ⟨beginning, shorter⟩ := assemble_prefix kept member nonempty
    -- Put together and divided again, nothing becomes one empty part, which names nothing either.
    have again : dropParts (divide (assemble kept)).reverse = dropParts kept ∧
        named (divide (assemble kept)).reverse = named kept := by
      by_cases empty : kept = []
      · subst empty
        exact ⟨rfl, rfl⟩
      · rw [divide_assemble empty (List.suffix_append _ _) undivided, List.reverse_reverse]
        exact ⟨rfl, rfl⟩
    refine .inr ⟨up, ?_, ?_, ?_, ?_⟩
    · rw [parents_absolute text, parents_absolute upText, drops, again.1]
      rfl
    · rw [upText, text, whole]
      exact (List.prefix_cons_inj _).mpr beginning
    · rw [← String.length_toList, ← String.length_toList, upText, text, whole]
      exact Nat.succ_lt_succ shorter
    · rw [names, named', List.reverse_cons, List.dropLast_concat, parts_absolute upText,
        named_cons_of_void rfl, ← again.2, named_reverse, List.reverse_reverse]

/-- A relative path drops its last part but the first, or else it drops to the empty path. -/
theorem stepsUp_relative {path : Path} {c : Char} {rest : List Char}
    (text : path.text.toList = c :: rest) (relative : c ≠ separator) : ∃ up, StepsUp path up := by
  obtain ⟨first, others, divided⟩ := List.exists_cons_of_ne_nil (divide_ne_nil path.text.toList)
  rcases dropParts_cases others.reverse with
    ⟨none, unnamed⟩ | ⟨dropped, part, kept, split, member, nonempty, drops, named'⟩
  · refine ⟨⟨""⟩, ?_, List.nil_prefix, ?_, ?_⟩
    · rw [parents_relative text relative divided, none]
      rfl
    · rw [← String.length_toList, ← String.length_toList, text]
      exact Nat.succ_pos _
    · rw [named_reverse, List.reverse_eq_nil_iff] at unnamed
      show [] = (named path.parts).dropLast
      rw [parts, divided]
      by_cases void : isVoid first = true
      · rw [named_cons_of_void void, unnamed]
        rfl
      · rw [named_cons_of_not_void void, unnamed]
        rfl
  · let up : Path := ⟨String.ofList (assemble (kept ++ [first]))⟩
    have upText : up.text.toList = assemble (kept ++ [first]) := String.toList_ofList
    have undivided : ∀ part ∈ dropped ++ (kept ++ [first]), separator ∉ part := by
      intro part held
      rw [← List.append_assoc, ← split, List.mem_append, List.mem_reverse, List.mem_singleton,
        or_comm, ← List.mem_cons, ← divided] at held
      exact notMem_of_mem_divide held
    have whole : path.text.toList = assemble (dropped ++ (kept ++ [first])) := by
      rw [← List.append_assoc, ← split, assemble, List.reverse_append, List.reverse_reverse]
      show _ = [separator].intercalate (first :: others)
      rw [← divided, intercalate_divide]
    have upParts : up.parts = first :: kept.reverse := by
      rw [parts, upText, divide_assemble (by simp) (List.suffix_append _ _) undivided]
      simp
    obtain ⟨beginning, shorter⟩ := assemble_prefix (kept ++ [first]) member nonempty
    -- The first part of the path above is the same, so that path is relative and not empty.
    have upStarts : ∃ rest', up.text.toList = c :: rest' := by
      obtain ⟨starting, parts, divided'⟩ := List.exists_cons_of_ne_nil (divide_ne_nil rest)
      have sameFirst : first = c :: starting := by
        rw [text, divide_cons relative divided', List.cons.injEq] at divided
        exact divided.1.symm
      rw [upText, assemble, List.reverse_append, sameFirst]
      cases backward : kept.reverse with
      | nil => exact ⟨starting, List.intercalate_singleton⟩
      | cons next others => exact ⟨_, List.intercalate_cons_cons⟩
    obtain ⟨rest', upText'⟩ := upStarts
    refine ⟨up, ?_, ?_, ?_, ?_⟩
    · rw [parents_relative text relative divided, parents_relative upText' relative upParts, drops,
        List.reverse_reverse]
      rfl
    · rw [upText, whole]
      exact beginning
    · rw [← String.length_toList, ← String.length_toList, upText, whole]
      exact shorter
    · have names : named others = named kept.reverse ++ [part] := by
        rw [← List.reverse_reverse others, named_reverse, named', List.reverse_cons, named_reverse]
      have split : ∀ more, named (first :: more) = named [first] ++ named more :=
        fun more => named_append [first] more
      rw [upParts, parts, divided, split others, split, names, ← List.append_assoc,
        List.dropLast_concat]

/-- The path one part up keeps a beginning of the text and all that is named but the last. -/
theorem stepsUp_parent {path up : Path} (h : path.parent? = some up) : StepsUp path up := by
  have cases : path.parents = [] ∨ ∃ up, StepsUp path up := by
    cases text : path.text.toList with
    | nil =>
        left
        rw [parents, text]
    | cons c rest =>
        by_cases same : c = separator
        · subst same
          exact (stepsUp_absolute text).imp_left And.left
        · exact .inr (stepsUp_relative text same)
  unfold parent? at h
  rcases cases with none | ⟨other, steps⟩
  · rw [none] at h
    cases h
  · rw [steps.parents] at h
    cases h
    exact steps

theorem parents_eq_nil {path : Path} (h : path.parent? = none) : path.parents = [] :=
  List.head?_eq_none_iff.mp h

/-- A path above keeps the first of the parts that name something. -/
theorem named_parents {path above : Path} (h : above ∈ path.parents) :
    named above.parts <+: named path.parts := by
  -- Over the paths above: the first is one part up, and the others lie above it.
  generalize all : path.parents = paths at h
  induction paths generalizing path with
  | nil => cases h
  | cons up others ih =>
      have steps := stepsUp_parent (show path.parent? = some up by rw [parent?, all]; rfl)
      have later : up.parents = others := by
        rw [steps.parents, List.cons.injEq] at all
        exact all.2
      have higher : named up.parts <+: named path.parts := by
        rw [steps.named]
        exact List.dropLast_prefix _
      rcases List.mem_cons.mp h with rfl | above
      · exact higher
      · exact (ih later above).trans higher

/-- The path one part up keeps all of them but the last. -/
theorem named_parent {path up : Path} (h : path.parent? = some up) :
    named up.parts = (named path.parts).dropLast :=
  (stepsUp_parent h).named

/-! ## Climbing -/

/-- The path so many parts up, if there are so many to drop. -/
def climb (path : Path) : Nat → Option Path
  | 0 => some path
  | steps + 1 => (path.climb steps).bind parent?

/-- The first step may be taken apart from the others as well as the last. -/
theorem climb_succ (path : Path) (steps : Nat) :
    path.climb (steps + 1) = path.parent?.bind (·.climb steps) := by
  induction steps with
  | zero => exact (Option.bind_fun_some path.parent?).symm
  | succ steps ih =>
      show (path.climb (steps + 1)).bind parent? = _
      rw [ih, Option.bind_assoc]
      rfl

/-- The paths above are those that are climbed to. -/
theorem getElem?_ancestors (path : Path) (steps : Nat) :
    path.ancestors[steps]? = path.climb steps := by
  induction steps generalizing path with
  | zero => rfl
  | succ steps ih =>
      rw [ancestors, List.getElem?_cons_succ, climb_succ]
      cases higher : path.parent? with
      | none =>
          rw [parents_eq_nil higher]
          rfl
      | some up =>
          rw [(stepsUp_parent higher).parents]
          exact ih up

/-- Every step takes at least one character. -/
theorem length_climb {path up : Path} {steps : Nat} (h : path.climb steps = some up) :
    up.text.length + steps ≤ path.text.length := by
  induction steps generalizing up with
  | zero =>
      cases h
      exact Nat.le_refl _
  | succ steps ih =>
      obtain ⟨below, reached, parent⟩ := Option.bind_eq_some_iff.mp h
      have bound := ih reached
      have shorter := (stepsUp_parent parent).shorter
      omega

/-- So the climb comes to an end. -/
theorem climb_ends (path : Path) : path.climb (path.text.length + 1) = none := by
  cases reached : path.climb (path.text.length + 1) with
  | none => rfl
  | some up =>
      have bound := length_climb reached
      omega

/-! ## What a path names -/

/-- The names that a path spells out one below the other. -/
def place (path : Path) : List String := (named path.parts).map String.ofList

theorem place_parents {path above : Path} (h : above ∈ path.parents) : above.place <+: path.place :=
  (named_parents h).map String.ofList

theorem place_ancestors {path above : Path} (h : above ∈ path.ancestors) :
    above.place <+: path.place := by
  rcases List.mem_cons.mp h with rfl | parent
  · exact List.prefix_refl _
  · exact place_parents parent

theorem place_parent {path up : Path} (h : path.parent? = some up) :
    up.place = path.place.dropLast := by
  rw [place, named_parent h, List.map_dropLast]
  rfl

/-- Paths above a path that has no part leading up have none either. -/
theorem descending_parents {path above : Path} (h : above ∈ path.parents)
    (descending : ['.', '.'] ∉ path.parts) : ['.', '.'] ∉ above.parts := by
  intro member
  have held : ['.', '.'] ∈ named above.parts := List.mem_filter.mpr ⟨member, by decide⟩
  exact descending (List.mem_filter.mp ((named_parents h).mem held)).1

theorem descending_ancestors {path above : Path} (h : above ∈ path.ancestors)
    (descending : ['.', '.'] ∉ path.parts) : ['.', '.'] ∉ above.parts := by
  rcases List.mem_cons.mp h with rfl | parent
  · exact descending
  · exact descending_parents parent descending

/-- A path that spells out a location below the root, without parts that stay or lead up. -/
structure Direct (path : Path) : Prop where
  noSame : ['.'] ∉ path.parts
  noAbove : ['.', '.'] ∉ path.parts
  below : path.place ≠ []

theorem Direct.nonempty {path : Path} (direct : path.Direct) : path.text ≠ "" := by
  intro empty
  apply direct.below
  rw [place, parts, empty]
  rfl

end LuaBindings.Path
