import LuaBindings.Proofs.Catalog.Verbatim
/-!
# The checks of a walk

Loading walks over a document. Of each namespace it first looks at the name, which must be able to
name a file, and then function by function at the parts of the declaration, none of which may be
empty. All that it looks at is listed here in that order. The document is loaded exactly when every
check passes; otherwise the first one that fails decides what is told, whatever stands behind it.
-/

namespace LuaBindings.Catalog

/-! ## Checks -/

/-- The parts of a declaration that may not be empty. -/
inductive Part where
  | name
  | returnType
  /-- The type of the parameter at an index, counted from zero. -/
  | parameterType (index : Nat)

/-- What is told of a part that is empty. -/
def Part.complaint : Part → String
  | .name => ": name is empty"
  | .returnType => ": return_type is empty"
  | .parameterType index => ": type of parameter " ++ (toString index ++ " is empty")

/-- One of the things that the walk looks at. -/
inductive Check where
  /-- The name of a namespace. -/
  | undivided (ns : String)
  /-- What stands in a part of the declaration of the function under a hash. -/
  | filled (ns hash : String) (part : Part) (value : String)

namespace Check

/-- What the walk asks for. -/
def Passes : Check → Prop
  | .undivided ns => '/' ∉ ns.toList ∧ '\\' ∉ ns.toList
  | .filled _ _ _ value => value ≠ ""

instance : (check : Check) → Decidable check.Passes
  | .undivided _ => inferInstanceAs (Decidable (_ ∧ _))
  | .filled _ _ _ _ => inferInstanceAs (Decidable (_ ≠ _))

theorem passes_filled (ns hash : String) (part : Part) (value : String) :
    (filled ns hash part value).Passes = (value ≠ "") := rfl

/-- What is told of a check that fails. -/
def detail : Check → String
  | .undivided ns => "namespace '" ++ ns ++ "' contains a path separator"
  | .filled ns hash part _ => ns ++ "/" ++ hash ++ part.complaint

/-- The error that a check ends the walk with. -/
def error : Check → LoadError
  | .undivided ns => .pathSeparator ns
  | .filled ns hash .name _ => .emptyName ns hash
  | .filled ns hash .returnType _ => .emptyReturnType ns hash
  | .filled ns hash (.parameterType index) _ => .emptyParameterType ns hash index

/-- What the error tells is what is told of the check. -/
theorem error_message (check : Check) :
    check.error.message = "malformed catalog: " ++ check.detail := by
  have detail : check.error.detail = check.detail := by
    cases check with
    | undivided ns => rfl
    | filled ns hash part value =>
        cases part with
        | name => rfl
        | returnType => rfl
        | parameterType index =>
            show (LoadError.emptyParameterType ns hash index).detail =
              ns ++ "/" ++ hash ++ (": type of parameter " ++ (toString index ++ " is empty"))
            rw [LoadError.detail, String.append_assoc, String.append_assoc]
  exact congrArg ("malformed catalog: " ++ ·) detail

end Check

/-- What is looked at of a function: the name, the type to return, and the types of the parameters
in their order. -/
def functionChecks (ns : String) (entry : String × FunctionRecord) : List Check :=
  .filled ns entry.1 .name entry.2.name :: .filled ns entry.1 .returnType entry.2.returnType ::
    entry.2.parameters.mapIdx fun index p => .filled ns entry.1 (.parameterType index) p.type

/-- What is looked at of a namespace: its name, and then its functions in their order. -/
def namespaceChecks (ns : String × List (String × FunctionRecord)) : List Check :=
  .undivided ns.1 :: ns.2.flatMap (functionChecks ns.1)

/-- Everything that is looked at, in the order of the walk. -/
def Outline.checks (o : Outline) : List Check := o.flatMap namespaceChecks

/-! ## Going through checks -/

/-- Checks one after another, up to the first that fails. -/
def goThrough : List Check → Except LoadError Unit
  | [] => .ok ()
  | check :: rest => if check.Passes then goThrough rest else .error check.error

theorem goThrough_append (checks more : List Check) :
    goThrough (checks ++ more) = goThrough checks >>= fun _ => goThrough more := by
  induction checks with
  | nil => rfl
  | cons check rest ih =>
      rw [List.cons_append, goThrough, goThrough]
      by_cases passes : check.Passes
      · rw [if_pos passes, if_pos passes, ih]
      · rw [if_neg passes, if_neg passes]
        rfl

theorem goThrough_eq_ok_iff {checks : List Check} :
    goThrough checks = .ok () ↔ ∀ check ∈ checks, check.Passes := by
  induction checks with
  | nil => exact ⟨fun _ => List.forall_mem_nil _, fun _ => rfl⟩
  | cons check rest ih =>
      rw [goThrough, List.forall_mem_cons]
      by_cases passes : check.Passes
      · rw [if_pos passes, ih]
        exact ⟨fun h => ⟨passes, h⟩, And.right⟩
      · rw [if_neg passes]
        constructor
        · intro h
          cases h
        · rintro ⟨h, -⟩
          exact absurd h passes

/-- What fails later does not count. -/
theorem goThrough_of_split {before after : List Check} {check : Check}
    (earlier : ∀ c ∈ before, c.Passes) (fails : ¬check.Passes) :
    goThrough (before ++ check :: after) = .error check.error := by
  rw [goThrough_append, goThrough_eq_ok_iff.mpr earlier]
  show goThrough (check :: after) = _
  rw [goThrough, if_neg fails]

/-! ## The walk -/

/-- The types of parameters are checked up to the first that is empty. -/
theorem goThrough_parameters (ns hash : String) (first : Nat) (ps : List Parameter) :
    goThrough (ps.mapIdx fun index p => .filled ns hash (.parameterType (first + index)) p.type) =
      match ps.findIdx? (·.type = "") with
      | some index => .error (.emptyParameterType ns hash (first + index))
      | none => .ok () := by
  induction ps generalizing first with
  | nil => rfl
  | cons p rest ih =>
      have shift : ∀ index, first + (index + 1) = first + 1 + index := by
        intro index
        omega
      have others : (fun index (q : Parameter) =>
          Check.filled ns hash (.parameterType (first + (index + 1))) q.type) = fun index q =>
          Check.filled ns hash (.parameterType (first + 1 + index)) q.type := by
        funext index q
        rw [shift]
      simp only [List.mapIdx_cons, List.findIdx?_cons, goThrough, Check.passes_filled, others, ih]
      by_cases empty : p.type = ""
      · rw [if_neg (not_not.mpr empty), if_pos (decide_eq_true empty)]
        rfl
      · rw [if_pos empty, if_neg (by simpa using empty)]
        cases rest.findIdx? (·.type = "") with
        | none => rfl
        | some index =>
            show Except.error (LoadError.emptyParameterType ns hash (first + 1 + index)) =
              Except.error (LoadError.emptyParameterType ns hash (first + (index + 1)))
            rw [shift index]

/-- A function is numbered once all that is looked at of it is in order. -/
theorem number_eq (ns hash : String) (id : Nat) (record : FunctionRecord) :
    (number ns hash (.ofNat id) record).map (fun f => [f]) =
      goThrough (functionChecks ns (hash, record)) >>= fun _ =>
        .ok (placed id [(hash, record)]) := by
  have parameters := goThrough_parameters ns hash 0 record.parameters
  simp only [Nat.zero_add] at parameters
  unfold number functionChecks
  simp only [goThrough, Check.passes_filled, parameters]
  by_cases name : record.name = ""
  · rw [if_pos name, if_neg (not_not.mpr name)]
    rfl
  · rw [if_neg name, if_pos name]
    by_cases returnType : record.returnType = ""
    · rw [if_pos returnType, if_neg (not_not.mpr returnType)]
      rfl
    · rw [if_neg returnType, if_pos returnType]
      cases record.parameters.findIdx? (·.type = "") with
      | some index => rfl
      | none => rfl

theorem numberAll_eq (ns : String) (first : Nat) (entries : List (String × FunctionRecord)) :
    numberAll ns (.ofNat first) entries =
      goThrough (entries.flatMap (functionChecks ns)) >>= fun _ => .ok (placed first entries) := by
  induction entries generalizing first with
  | nil => rfl
  | cons entry rest ih =>
      obtain ⟨hash, record⟩ := entry
      have own := number_eq ns hash first record
      rw [numberAll, ofNat_succ, ih, List.flatMap_cons, goThrough_append]
      cases walked : goThrough (functionChecks ns (hash, record)) with
      | error error =>
          rw [walked] at own
          cases numbered : number ns hash (.ofNat first) record with
          | error error' =>
              rw [numbered] at own
              cases own
              rfl
          | ok f =>
              rw [numbered] at own
              cases own
      | ok done =>
          rw [walked] at own
          cases numbered : number ns hash (.ofNat first) record with
          | error error =>
              rw [numbered] at own
              cases own
          | ok f =>
              rw [numbered] at own
              cases own
              cases goThrough (rest.flatMap (functionChecks ns)) with
              | error error => rfl
              | ok done => rfl

/-- Namespaces are numbered once all that is looked at of them is in order: of each first its name,
then its functions. -/
theorem ofEntries_eq (first : Nat) (entries : List (String × OrderedMap FunctionRecord)) :
    ofEntries (.ofNat first) entries =
      goThrough (Outline.checks (entries.map fun entry => (entry.1, entry.2.entries))) >>= fun _ =>
        .ok (Outline.namespacesFrom first
          (entries.map fun entry => (entry.1, entry.2.entries))) := by
  induction entries generalizing first with
  | nil => rfl
  | cons entry rest ih =>
      obtain ⟨name, records⟩ := entry
      have walk : goThrough (Outline.checks ((name, records.entries) ::
            rest.map fun entry => (entry.1, entry.2.entries))) =
          goThrough (.undivided name :: records.entries.flatMap (functionChecks name)) >>= fun _ =>
            goThrough (Outline.checks (rest.map fun entry => (entry.1, entry.2.entries))) :=
        goThrough_append _ _
      rw [ofEntries, numberAll_eq, ← UInt32.ofNat_add, ih, List.map_cons, walk, goThrough]
      cases separated : hasPathSeparator name with
      | true =>
          have fails : ¬(Check.undivided name).Passes := by
            intro passes
            rw [hasPathSeparator_eq_false_iff.mpr passes] at separated
            cases separated
          rw [if_neg fails]
          rfl
      | false =>
          have passes : (Check.undivided name).Passes := hasPathSeparator_eq_false_iff.mp separated
          rw [if_pos passes]
          cases goThrough (records.entries.flatMap (functionChecks name)) with
          | error error => rfl
          | ok done =>
              show _ = goThrough (Outline.checks _) >>= _
              cases goThrough (Outline.checks
                (rest.map fun entry => (entry.1, entry.2.entries))) with
              | error error => rfl
              | ok done => rfl

/-- Loading a document is going through its checks. -/
theorem ofDocument_eq (document : Document) :
    ofDocument document =
      goThrough document.outline.checks >>= fun _ => .ok document.outline.catalog := by
  unfold ofDocument Outline.catalog
  rw [show (0 : UInt32) = .ofNat 0 from rfl, ofEntries_eq]
  show (goThrough document.outline.checks >>= _) >>= _ = _
  cases goThrough document.outline.checks with
  | error error => rfl
  | ok done => rfl

/-! ## What is checked -/

/-- Every check of a function passes exactly when no part of its declaration is empty. -/
theorem functionChecks_pass_iff {ns : String} {entry : String × FunctionRecord} :
    (∀ check ∈ functionChecks ns entry, check.Passes) ↔ entry.2.Filled := by
  unfold functionChecks
  rw [List.forall_mem_cons, List.forall_mem_cons]
  constructor
  · rintro ⟨name, returnType, parameters⟩
    refine ⟨name, returnType, ?_⟩
    intro p member
    obtain ⟨index, inside, rfl⟩ := List.mem_iff_getElem.mp member
    exact parameters _ (List.mem_mapIdx.mpr ⟨index, inside, rfl⟩)
  · intro filled
    refine ⟨filled.name, filled.returnType, ?_⟩
    intro check member
    obtain ⟨index, inside, rfl⟩ := List.mem_mapIdx.mp member
    exact filled.parameters _ (List.getElem_mem inside)

/-- Every check of an outline passes exactly when each of its namespaces can name a file and has
only filled functions. -/
theorem checks_pass_iff {o : Outline} :
    (∀ check ∈ o.checks, check.Passes) ↔
      ∀ ns ∈ o, ('/' ∉ ns.1.toList ∧ '\\' ∉ ns.1.toList) ∧ ∀ entry ∈ ns.2, entry.2.Filled := by
  unfold Outline.checks
  rw [List.forall_mem_flatMap]
  refine forall₂_congr fun ns _ => ?_
  unfold namespaceChecks
  rw [List.forall_mem_cons, List.forall_mem_flatMap]
  exact and_congr Iff.rfl (forall₂_congr fun _ _ => functionChecks_pass_iff)

/-- Loading a text that holds a document is going through the checks of the document. -/
theorem load_eq {text : String} {document : Document}
    (decoded : Document.read text.toList = .ok document) :
    load text = goThrough document.outline.checks >>= fun _ => .ok document.outline.catalog := by
  rw [← ofDocument_eq, load, decoded]

theorem load_eq_error_iff {text : String} {document : Document}
    (decoded : Document.read text.toList = .ok document) {error : LoadError} :
    load text = .error error ↔ goThrough document.outline.checks = .error error := by
  rw [load_eq decoded]
  cases goThrough document.outline.checks with
  | error error' =>
      show Except.error error' = Except.error error ↔ _
      rw [Except.error.injEq, Except.error.injEq]
  | ok done =>
      show Except.ok _ = Except.error error ↔ _
      constructor
      · intro h
        cases h
      · intro h
        cases h

/-- A document is refused exactly when some namespace cannot name a file or has a function with an
empty part. -/
theorem goThrough_eq_error_iff {o : Outline} :
    (∃ error, goThrough o.checks = .error error) ↔
      ∃ ns ∈ o, ('/' ∈ ns.1.toList ∨ '\\' ∈ ns.1.toList) ∨ ∃ entry ∈ ns.2, ¬entry.2.Filled := by
  have passes : goThrough o.checks = .ok () ↔
      ∀ ns ∈ o, ('/' ∉ ns.1.toList ∧ '\\' ∉ ns.1.toList) ∧ ∀ entry ∈ ns.2, entry.2.Filled :=
    goThrough_eq_ok_iff.trans checks_pass_iff
  constructor
  · rintro ⟨error, failed⟩
    by_contra clean
    have passed : goThrough o.checks = .ok () := by
      refine passes.mpr fun ns member => ⟨?_, ?_⟩
      · exact not_or.mp fun divided => clean ⟨ns, member, .inl divided⟩
      · intro entry held
        by_contra unfilled
        exact clean ⟨ns, member, .inr ⟨entry, held, unfilled⟩⟩
    rw [passed] at failed
    cases failed
  · rintro ⟨ns, member, violated⟩
    cases gone : goThrough o.checks with
    | error error => exact ⟨error, rfl⟩
    | ok done =>
        obtain ⟨undivided, filled⟩ := passes.mp gone ns member
        rcases violated with divided | ⟨entry, held, unfilled⟩
        · exact absurd divided (not_or.mpr undivided)
        · exact absurd (filled entry held) unfilled

/-- A document is loaded exactly when every check passes. The first one that fails is what is told,
whatever else fails behind it; so a namespace that cannot name a file is told whatever its functions
are, once the namespaces before it are in order. -/
theorem load_first {text : String} {document : Document}
    (decoded : Document.read text.toList = .ok document) :
    ((∃ error, load text = .error error) ↔
      ∃ ns ∈ document.outline, ('/' ∈ ns.1.toList ∨ '\\' ∈ ns.1.toList) ∨
        ∃ entry ∈ ns.2, ¬entry.2.Filled) ∧
    ((∀ check ∈ document.outline.checks, check.Passes) → load text = .ok document.outline.catalog) ∧
    (∀ before check after, document.outline.checks = before ++ check :: after →
      (∀ earlier ∈ before, earlier.Passes) → ¬check.Passes →
      load text = .error check.error ∧
        check.error.message = "malformed catalog: " ++ check.detail) ∧
    ∀ front ns back, document.outline = front ++ ns :: back →
      (∀ check ∈ Outline.checks front, check.Passes) →
      ('/' ∈ ns.1.toList ∨ '\\' ∈ ns.1.toList) → load text = .error (.pathSeparator ns.1) := by
  have stopped : ∀ before check after, document.outline.checks = before ++ check :: after →
      (∀ earlier ∈ before, earlier.Passes) → ¬check.Passes → load text = .error check.error := by
    intro before check after split earlier fails
    rw [load_eq decoded, split, goThrough_of_split earlier fails]
    rfl
  refine ⟨?_, ?_, ?_, ?_⟩
  · simp only [load_eq_error_iff decoded]
    exact goThrough_eq_error_iff
  · intro passes
    rw [load_eq decoded, goThrough_eq_ok_iff.mpr passes]
    rfl
  · intro before check after split earlier fails
    exact ⟨stopped before check after split earlier fails, check.error_message⟩
  · intro front ns back split clean divided
    -- The name stands before the functions of its own namespace and of those behind it.
    have checks : document.outline.checks = Outline.checks front ++ .undivided ns.1 ::
        (ns.2.flatMap (functionChecks ns.1) ++ Outline.checks back) := by
      rw [split, Outline.checks, List.flatMap_append, List.flatMap_cons]
      rfl
    exact stopped _ _ _ checks clean fun passes => not_or.mpr passes divided

/-- A namespace in order, one that cannot name a file and has a function without a name, and one
with two empty types. -/
def dividedText : String :=
  "\x7b\"A\":\x7b\"1\":\x7b\"name\":\"F\",\"params\":[],\"return_type\":\"void\"\x7d\x7d," ++
    "\"B\\\\C\":\x7b\"2\":\x7b\"name\":\"\",\"params\":[],\"return_type\":\"\"\x7d\x7d," ++
    "\"D\":\x7b\"3\":\x7b\"name\":\"G\",\"params\":[\x7b\"type\":\"\",\"name\":\"a\"\x7d]," ++
    "\"return_type\":\"\"\x7d\x7d\x7d"

/-- The outline of it. -/
def dividedOutline : Outline :=
  [("A", [("1", ⟨"F", "", [], "void", none, none⟩)]),
    ("B\\C", [("2", ⟨"", "", [], "", none, none⟩)]),
    ("D", [("3", ⟨"G", "", [⟨"", "a"⟩], "", none, none⟩)])]

theorem read_dividedText : Document.read dividedText.toList = .ok dividedOutline.merged := by
  have stands : Outline.read dividedText.toList = .ok dividedOutline := by decide +kernel
  exact read_of_stands stands

theorem load_dividedText : Document.read dividedText.toList = .ok dividedOutline.merged ∧
    load dividedText = .error (.pathSeparator "B\\C") ∧
    (LoadError.pathSeparator "B\\C").message =
      "malformed catalog: namespace 'B\\C' contains a path separator" := by
  have same : dividedOutline.merged.outline = dividedOutline :=
    Outline.merged_outline (by decide) (by decide)
  have split : dividedOutline.merged.outline.checks =
      Outline.checks (dividedOutline.take 1) ++ .undivided "B\\C" ::
        (functionChecks "B\\C" ("2", ⟨"", "", [], "", none, none⟩) ++
          Outline.checks (dividedOutline.drop 2)) := by
    rw [same]
    rfl
  obtain ⟨failed, message⟩ :=
    (load_first read_dividedText).2.2.1 _ _ _ split (by decide) (by decide)
  exact ⟨read_dividedText, failed, message⟩

end LuaBindings.Catalog
