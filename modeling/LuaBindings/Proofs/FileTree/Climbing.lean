import LuaBindings.Proofs.FileTree.Descending
/-!
# Climbing out of a directory

A path leads to the same location in all trees in which it leads anywhere. Dropping its last part
leads to the directory around the location, or deeper where that part leads up, so a climb from
anywhere below a directory comes past a path that leads to it. From a path that names have been
joined to, it comes back to that path, less the separators and dots that ended it.
-/

namespace LuaBindings

/-! ## Texts of paths above -/

namespace Path

variable {path up : Path} {name : String}

theorem assemble_suffix {kept backward : List (List Char)} (suffix : kept <:+ backward) :
    assemble kept <+: assemble backward := by
  obtain ⟨dropped, rfl⟩ := suffix
  rw [assemble, assemble, List.reverse_append]
  by_cases none : kept = []
  · rw [none]
    exact List.nil_prefix
  · by_cases all : dropped = []
    · rw [all, List.reverse_nil, List.append_nil]
    · rw [intercalate_append (by simpa using none) (by simpa using all)]
      exact List.prefix_append _ _

theorem climb_succ_eq (path : Path) (steps : Nat) :
    path.climb (steps + 1) = path.parents[steps]? := by
  rw [← getElem?_ancestors, ancestors, List.getElem?_cons_succ]

theorem beginning_climb {steps : Nat} (climbed : path.climb steps = some up) :
    up.text.toList <+: path.text.toList := by
  induction steps generalizing up with
  | zero =>
      cases climbed
      exact List.prefix_refl _
  | succ steps ih =>
      obtain ⟨below, reached, parent⟩ := Option.bind_eq_some_iff.mp climbed
      exact (stepsUp_parent parent).beginning.trans (ih reached)

theorem place_of_no_parent (top : path.parent? = none) : path.place = [] := by
  have noStep : ∀ up, ¬StepsUp path up := by
    intro up steps
    rw [parent?, steps.parents] at top
    cases top
  have unnamed : named path.parts = [] := by
    cases text : path.text.toList with
    | nil =>
        rw [parts, text]
        rfl
    | cons c rest =>
        by_cases same : c = separator
        · subst same
          rcases stepsUp_absolute text with ⟨-, unnamed⟩ | ⟨up, steps⟩
          · exact unnamed
          · exact absurd steps (noStep up)
        · obtain ⟨up, steps⟩ := stepsUp_relative text same
          exact absurd steps (noStep up)
  rw [place, unnamed]
  rfl

/-! ## Joined names -/

theorem PlainName.not_void (plain : PlainName name) : ¬isVoid name.toList = true := by
  rw [isVoid, Bool.or_eq_true, List.isEmpty_iff, decide_eq_true_eq, not_or]
  constructor
  · intro empty
    exact plain.nonempty (String.toList_inj.mp empty)
  · intro dot
    exact plain.notSame (String.toList_inj.mp dot)

/-- A joined name stands behind the text of the path, with a separator before it or not. -/
theorem PlainName.text_join (plain : PlainName name) (path : Path) :
    ∃ between, (between = "" ∨ between = "/") ∧
      (path.join ⟨name⟩).text = path.text ++ between ++ name := by
  rw [join, plain.relative, if_neg Bool.false_ne_true]
  cases ending : path.text.toList.getLast? with
  | none =>
      have empty : path.text = "" := String.toList_inj.mp (List.getLast?_eq_none_iff.mp ending)
      refine ⟨"", .inl rfl, ?_⟩
      rw [empty]
      exact String.empty_append.symm
  | some last =>
      dsimp only
      split
      · refine ⟨"", .inl rfl, ?_⟩
        rw [String.append_empty]
      · exact ⟨"/", .inr rfl, rfl⟩

/-- The parts of a path that is not empty, and those of a path that a name has been joined to. -/
theorem PlainName.join_parts (plain : PlainName name) (nonempty : path.text ≠ "") :
    ∃ first others before, path.parts = first :: others ∧
      (path.join ⟨name⟩).parts = first :: (before ++ [name.toList]) ∧
      (others = before ∨ others = before ++ [[]]) := by
  obtain ⟨whole, joined, own⟩ := plain.parts_join path
  cases whole with
  | nil =>
      -- Only the empty text has no part but an empty one.
      have parts : path.parts = [[]] := own.resolve_left (divide_ne_nil _)
      have text := intercalate_divide path.text.toList
      rw [show divide path.text.toList = [[]] from parts] at text
      exact absurd (String.toList_inj.mp text.symm) nonempty
  | cons first before =>
      rcases own with own | own
      · exact ⟨first, before, before, own, joined, .inl rfl⟩
      · rw [List.cons_append] at own
        exact ⟨first, before ++ [[]], before, own, joined, .inr rfl⟩

/-- What is left when a joined name is dropped from the parts. -/
theorem PlainName.dropParts_join (plain : PlainName name) {before others : List (List Char)}
    (own : others = before ∨ others = before ++ [[]]) :
    ∃ kept, dropParts (before ++ [name.toList]).reverse = kept :: dropParts others.reverse ∧
      kept <:+ others.reverse := by
  refine ⟨before.reverse.dropWhile isVoid, ?_, ?_⟩
  · have same : dropParts others.reverse = dropParts before.reverse := by
      rcases own with rfl | rfl
      · rfl
      · rw [List.reverse_append, List.reverse_singleton, List.singleton_append, dropParts]
        exact if_pos rfl
    rw [List.reverse_append, List.reverse_singleton, List.singleton_append, dropParts,
      if_neg plain.not_void, same]
  · apply (List.dropWhile_suffix _).trans
    rcases own with rfl | rfl
    · exact List.suffix_refl _
    · rw [List.reverse_append]
      exact List.suffix_append _ _

/-- The paths above a path that a name has been joined to. -/
theorem PlainName.parents_join (plain : PlainName name) (path : Path) :
    ∃ up, (path.join ⟨name⟩).parents = up :: path.parents ∧
      up.text.toList <+: path.text.toList := by
  by_cases empty : path.text = ""
  · have whole : path.join ⟨name⟩ = ⟨name⟩ := by
      rw [join, plain.relative, if_neg Bool.false_ne_true, empty]
      rfl
    have none : path.parents = [] := by
      rw [parents, empty]
      rfl
    have some : name.toList ≠ [] := fun none => plain.nonempty (String.toList_inj.mp none)
    obtain ⟨c, rest, text⟩ := List.exists_cons_of_ne_nil some
    have relative : c ≠ separator := by
      rintro rfl
      exact plain.undivided (text ▸ List.mem_cons_self)
    refine ⟨⟨""⟩, ?_, List.nil_prefix⟩
    have single : (Path.mk name).parents = [⟨""⟩] := parents_relative text relative plain.parts
    rw [whole, none, single]
  · have some : path.text.toList ≠ [] := fun none => empty (String.toList_inj.mp none)
    obtain ⟨c, rest, text⟩ := List.exists_cons_of_ne_nil some
    obtain ⟨between, -, joinedText⟩ := plain.text_join path
    have joinedText : (path.join ⟨name⟩).text.toList =
        c :: (rest ++ between.toList ++ name.toList) := by
      rw [joinedText, String.toList_append, String.toList_append, text]
      rfl
    obtain ⟨first, others, before, own, joined, ending⟩ := plain.join_parts empty
    obtain ⟨kept, drops, suffix⟩ := plain.dropParts_join ending
    by_cases same : c = separator
    · subst same
      have ownParts := parts_absolute text
      have joinedParts := parts_absolute joinedText
      rw [own, List.cons.injEq] at ownParts
      rw [joined, List.cons.injEq] at joinedParts
      refine ⟨⟨String.ofList (separator :: assemble kept)⟩, ?_, ?_⟩
      · rw [parents_absolute joinedText, parents_absolute text, ← joinedParts.2,
          ← ownParts.2, drops]
        rfl
      · have rests : assemble others.reverse = rest := by
          rw [ownParts.2, assemble, List.reverse_reverse, intercalate_divide]
        rw [String.toList_ofList, text, ← rests]
        exact (List.prefix_cons_inj _).mpr (assemble_suffix suffix)
    · refine ⟨⟨String.ofList (assemble (kept ++ [first]))⟩, ?_, ?_⟩
      · rw [parents_relative joinedText same joined, parents_relative text same own, drops]
        rfl
      · have whole : assemble (others.reverse ++ [first]) = path.text.toList := by
          rw [assemble, List.reverse_append, List.reverse_reverse, List.reverse_singleton,
            List.singleton_append, ← own]
          exact intercalate_divide _
        rw [String.toList_ofList, ← whole]
        exact assemble_suffix (List.suffix_append_self_iff.mpr suffix)

/-- A path and one that names the same places, whose text is a beginning of its own. -/
structure Trimmed (path up : Path) : Prop where
  beginning : up.text.toList <+: path.text.toList
  place : up.place = path.place
  parents : up.parents = path.parents

/-- The path above a joined name is the one that it was joined to, trimmed. -/
theorem PlainName.parent?_join (plain : PlainName name) (path : Path) :
    ∃ up, (path.join ⟨name⟩).parent? = some up ∧ Trimmed path up := by
  obtain ⟨up, parents, beginning⟩ := plain.parents_join path
  have parent : (path.join ⟨name⟩).parent? = some up := by
    rw [parent?, parents]
    rfl
  have steps := stepsUp_parent parent
  refine ⟨up, parent, beginning, ?_, ?_⟩
  · obtain ⟨before, joined, own⟩ := plain.parts_join path
    have names : named path.parts = named before := by
      rcases own with own | own
      · rw [own]
      · rw [own, named_append, named_cons_of_void rfl]
        exact List.append_nil _
    rw [place, place, steps.named, joined, named_append, names,
      named_cons_of_not_void plain.not_void]
    show ((named before ++ [name.toList]).dropLast).map String.ofList = _
    rw [List.dropLast_concat]
  · have both := steps.parents.symm.trans parents
    rw [List.cons.injEq] at both
    exact both.2

/-- The path that some names lead to from a path, one joined behind the other. -/
def descend (path : Path) (names : List String) : Path :=
  names.foldl (fun above name => above.join ⟨name⟩) path

/-- As many steps up as names have been joined lies the path itself, trimmed. -/
theorem climb_descend {names : List String} (plain : ∀ name ∈ names, PlainName name) (path : Path) :
    ∃ up, (path.descend names).climb names.length = some up ∧
      up.text.toList <+: path.text.toList ∧ up.place = path.place := by
  induction names using List.reverseRecOn with
  | nil => exact ⟨path, rfl, List.prefix_refl _, rfl⟩
  | append_singleton others name ih =>
      rw [List.forall_mem_append] at plain
      have last : PlainName name := List.forall_mem_singleton.mp plain.2
      obtain ⟨up, parent, trimmed⟩ := last.parent?_join (path.descend others)
      have joined : path.descend (others ++ [name]) = (path.descend others).join ⟨name⟩ := by
        rw [descend, List.foldl_append]
        rfl
      rw [joined, List.length_append, List.length_singleton, climb_succ, parent, Option.bind_some]
      cases others with
      | nil => exact ⟨up, rfl, trimmed.beginning, trimmed.place⟩
      | cons first rest =>
          -- From one step up on, the climb is the one from the path before the name.
          rw [List.length_cons, climb_succ_eq, trimmed.parents, ← climb_succ_eq]
          exact ih plain.1

end Path

namespace FileTree

variable {tree other : FileTree} {here there l location : Location} {part : String}
  {path up start : Path}

/-! ## Texts that the system takes -/

/-- Where a name can be joined to a path, it can be joined to a path above. -/
theorem Accepted.of_beginning {name : String} (plain : Path.PlainName name)
    (beginning : up.text.toList <+: path.text.toList) (accepted : Accepted (path.join ⟨name⟩)) :
    Accepted (up.join ⟨name⟩) := by
  obtain ⟨rest, split⟩ := beginning
  by_cases same : rest = []
  · have equal : up = path := by
      rw [same, List.append_nil, String.toList_inj] at split
      cases up
      cases path
      exact congrArg Path.mk split
    rw [equal]
    exact accepted
  · have whole : path.text = up.text ++ String.ofList rest := by
      rw [← String.toList_inj, String.toList_append, String.toList_ofList, split]
    obtain ⟨between, upBetween, upText⟩ := plain.text_join up
    obtain ⟨pathBetween, -, pathText⟩ := plain.text_join path
    obtain ⟨noNul, -, short⟩ := accepted
    refine ⟨?_, ?_, ?_⟩
    · rw [pathText, whole] at noNul
      simp only [String.toList_append, List.mem_append, not_or] at noNul
      rw [upText]
      simp only [String.toList_append, List.mem_append, not_or]
      refine ⟨⟨noNul.1.1.1, ?_⟩, noNul.2⟩
      rcases upBetween with rfl | rfl
      · decide
      · decide
    · rw [upText]
      intro empty
      exact plain.nonempty (String.append_eq_empty_iff.mp empty).2
    · -- What the path has more than the one above makes up for a separator.
      have more : String.ofList rest ≠ "" := by
        intro empty
        rw [← String.toList_inj, String.toList_ofList] at empty
        exact same empty
      have size : (String.ofList rest).utf8ByteSize ≠ 0 :=
        mt String.utf8ByteSize_eq_zero_iff.mp more
      have betweenSize : between.utf8ByteSize ≤ 1 := by
        rcases upBetween with rfl | rfl
        · decide
        · decide
      rw [pathText, whole] at short
      simp only [String.utf8ByteSize_append] at short
      rw [upText]
      simp only [String.utf8ByteSize_append]
      omega

/-- A path that a name can be joined to is one itself, unless it is empty. -/
theorem Accepted.of_join {name : String} (plain : Path.PlainName name) (nonempty : path.text ≠ "")
    (accepted : Accepted (path.join ⟨name⟩)) : Accepted path := by
  obtain ⟨between, -, text⟩ := plain.text_join path
  obtain ⟨noNul, -, short⟩ := accepted
  refine ⟨?_, nonempty, ?_⟩
  · rw [text] at noNul
    simp only [String.toList_append, List.mem_append, not_or] at noNul
    exact noNul.1.1
  · rw [text] at short
    simp only [String.utf8ByteSize_append] at short
    omega

/-! ## Trees that a path leads through -/

/-- Where a part leads from a directory does not depend on the tree. -/
theorem Step.unique {a b : Location} (first : Step tree here part a)
    (second : Step other here part b) : a = b := by
  cases first with
  | same void =>
      cases second with
      | same => rfl
      | above => exact absurd void (by decide)
      | entry nonempty notSame => exact absurd void (not_or.mpr ⟨nonempty, notSame⟩)
  | above =>
      cases second with
      | same void => exact absurd void (by decide)
      | above => rfl
      | entry _ _ notAbove => exact absurd rfl notAbove
  | entry nonempty notSame notAbove =>
      cases second with
      | same void => exact absurd void (not_or.mpr ⟨nonempty, notSame⟩)
      | above => exact absurd rfl notAbove
      | entry => rfl

theorem follow_unique {parts : List String} {a b : Location}
    (first : tree.follow here parts = .ok a) (second : other.follow here parts = .ok b) : a = b := by
  induction parts generalizing here with
  | nil => exact Except.ok.inj (first.symm.trans second)
  | cons part rest ih =>
      obtain ⟨next, -, step, later⟩ := follow_cons_eq_ok_iff.mp first
      obtain ⟨next', -, step', later'⟩ := follow_cons_eq_ok_iff.mp second
      rw [← step.unique step'] at later'
      exact ih later later'

/-- A path leads to the same location in all trees in which it leads anywhere. -/
theorem walk_unique {a b : Location} (first : tree.walk path = .ok a)
    (second : other.walk path = .ok b) : a = b :=
  follow_unique first second

/-! ## Parts that name something -/

theorem isDirectory_of_follow {parts : List String} (leads : tree.follow here parts = .ok there)
    (isDirectory : tree.IsDirectory there) : tree.IsDirectory here := by
  cases parts with
  | nil =>
      cases leads
      exact isDirectory
  | cons part rest =>
      obtain ⟨-, house, -, -⟩ := follow_cons_eq_ok_iff.mp leads
      exact house

/-- Parts lead where those of them lead that name something. -/
theorem follow_named_of_follow {parts : List (List Char)}
    (leads : tree.follow here (parts.map String.ofList) = .ok there) :
    tree.follow here ((Path.named parts).map String.ofList) = .ok there := by
  induction parts generalizing here with
  | nil => exact leads
  | cons part rest ih =>
      obtain ⟨next, house, step, later⟩ := follow_cons_eq_ok_iff.mp leads
      by_cases void : Path.isVoid part = true
      · rw [Path.named_cons_of_void void]
        have stays : Step tree here (String.ofList part) here := .same (isVoid_iff.mp void)
        rw [step.unique stays] at later
        exact ih later
      · rw [map_named_cons_of_not_void void]
        exact follow_cons_eq_ok_iff.mpr ⟨next, house, step, ih later⟩

/-- The others are at home in a directory. -/
theorem follow_of_follow_named {parts : List (List Char)}
    (leads : tree.follow here ((Path.named parts).map String.ofList) = .ok there)
    (isDirectory : tree.IsDirectory there) :
    tree.follow here (parts.map String.ofList) = .ok there := by
  induction parts generalizing here with
  | nil => exact leads
  | cons part rest ih =>
      rw [List.map_cons, follow_cons_eq_ok_iff]
      by_cases void : Path.isVoid part = true
      · rw [Path.named_cons_of_void void] at leads
        exact ⟨here, isDirectory_of_follow leads isDirectory, .same (isVoid_iff.mp void), ih leads⟩
      · rw [map_named_cons_of_not_void void] at leads
        obtain ⟨next, house, step, later⟩ := follow_cons_eq_ok_iff.mp leads
        exact ⟨next, house, step, ih later⟩

/-- Paths that name the same places lead to the same directory. -/
theorem walk_of_place_eq (same : up.place = path.place) (leads : tree.walk path = .ok there)
    (isDirectory : tree.IsDirectory there) : tree.walk up = .ok there := by
  apply follow_of_follow_named _ isDirectory
  show tree.follow [] up.place = _
  rw [same]
  exact follow_named_of_follow leads

/-! ## Up -/

/-- The path above leads to the directory around, or deeper where the last part leads up. -/
theorem walk_parent (parent : path.parent? = some up) (leads : tree.walk path = .ok l) :
    ∃ around, tree.walk up = .ok around ∧ (l <+: around ∨ ∃ name, l = around ++ [name]) := by
  have names : up.place = path.place.dropLast := Path.place_parent parent
  have named : tree.follow [] path.place = .ok l := follow_named_of_follow leads
  have walked : ∀ {around}, tree.IsDirectory around → tree.follow [] up.place = .ok around →
      tree.walk up = .ok around := fun house reached => follow_of_follow_named reached house
  rcases List.eq_nil_or_concat path.place with none | ⟨others, last, split⟩
  · rw [none] at names named
    cases named
    refine ⟨[], walked (.inl rfl) ?_, .inl (List.prefix_refl _)⟩
    rw [names]
    rfl
  · rw [split, List.concat_eq_append, List.dropLast_concat] at names
    rw [split, List.concat_eq_append, follow_append_eq_ok_iff] at named
    obtain ⟨around, before, later⟩ := named
    obtain ⟨next, house, step, done⟩ := follow_cons_eq_ok_iff.mp later
    cases done
    refine ⟨around, walked house (names ▸ before), ?_⟩
    cases step with
    | same => exact .inl (List.prefix_refl _)
    | above => exact .inl (List.dropLast_prefix _)
    | entry => exact .inr ⟨last, rfl⟩

/-- So many steps up lies the first path that leads to a location. -/
structure Meets (tree : FileTree) (start : Path) (location : Location) (steps : Nat) (up : Path) :
    Prop where
  climbed : start.climb steps = some up
  leads : tree.walk up = .ok location
  first : ∀ fewer < steps, ∀ nearer, start.climb fewer = some nearer →
    tree.walk nearer ≠ .ok location

theorem Meets.zero (leads : tree.walk start = .ok l) : Meets tree start l 0 start where
  climbed := rfl
  leads := leads
  first fewer less := absurd less (Nat.not_lt_zero fewer)

theorem Meets.below {steps : Nat} {found : Path} (meets : Meets tree up location steps found)
    (parent : start.parent? = some up) (other : tree.walk start ≠ .ok location) :
    Meets tree start location (steps + 1) found where
  climbed := by
    rw [Path.climb_succ, parent]
    exact meets.climbed
  leads := meets.leads
  first := by
    intro fewer less nearer climbed
    cases fewer with
    | zero =>
        cases climbed
        exact other
    | succ fewer =>
        rw [Path.climb_succ, parent] at climbed
        exact meets.first fewer (Nat.lt_of_succ_lt_succ less) nearer climbed

/-- A climb from a location comes past every location above it. -/
theorem exists_meets (leads : tree.walk start = .ok l) (below : location <+: l) :
    ∃ steps up, Meets tree start location steps up := by
  -- Over the paths above: the first is one step up, and the others lie above it.
  generalize all : start.parents = paths
  induction paths generalizing start l with
  | nil =>
      have top : start.parent? = none := by
        rw [Path.parent?, all]
        rfl
      have named : tree.follow [] start.place = .ok l := follow_named_of_follow leads
      rw [Path.place_of_no_parent top] at named
      cases named
      rw [List.prefix_nil.mp below]
      exact ⟨0, start, .zero leads⟩
  | cons up others ih =>
      by_cases here : location = l
      · rw [here]
        exact ⟨0, start, .zero leads⟩
      · have parent : start.parent? = some up := by
          rw [Path.parent?, all]
          rfl
        have later : up.parents = others := by
          rw [(Path.stepsUp_parent parent).parents, List.cons.injEq] at all
          exact all.2
        obtain ⟨around, higher, step⟩ := walk_parent parent leads
        have above : location <+: around := by
          rcases step with within | ⟨name, rfl⟩
          · exact below.trans within
          · exact (List.prefix_concat_iff.mp below).resolve_left here
        have other : tree.walk start ≠ .ok location := by
          intro same
          exact here (Except.ok.inj (same.symm.trans leads))
        obtain ⟨steps, found, meets⟩ := ih higher above later
        exact ⟨steps + 1, found, meets.below parent other⟩

end FileTree

end LuaBindings
