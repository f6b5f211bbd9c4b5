import LuaBindings.Proofs.Json.Strings
/-!
# What readers refuse

A reader may be given any well-formed value. Where it succeeds, it has taken this value whole, and
the value is of the kind that the reader is for: so a value of another kind is refused, wherever it
stands. Values are told apart by their first character; the rules of containers follow the parts one
after another, each of which is taken whole in turn.
-/

namespace LuaBindings.Json

variable {α β σ : Type}

/-- Where the reader succeeds on a value, it takes it whole, and something holds of it. -/
structure Screens (p : Reader Failure α) (v : List Char) (good : Prop) : Prop where
  taken : ∀ {before rest r : List Char} {a : α}, Blank before → Delimited rest →
    p.read (before ++ v ++ rest) = .ok (a, r) → r = rest ∧ good

theorem read_map_eq_ok {p : Reader Failure α} {f : α → β} {s r : List Char} {b : β} :
    (p.map f).read s = .ok (b, r) ↔ ∃ a, p.read s = .ok (a, r) ∧ f a = b := by
  rw [Reader.read_map]
  cases p.read s with
  | error failure => simp [Except.map]
  | ok step =>
      obtain ⟨a, r'⟩ := step
      simp [Except.map, and_comm]

theorem Screens.map {p : Reader Failure α} {v : List Char} {good : Prop} (h : Screens p v good)
    (f : α → β) : Screens (p.map f) v good where
  taken blank delimited read := by
    obtain ⟨a, taken, -⟩ := read_map_eq_ok.mp read
    exact h.taken blank delimited taken

/-! ## Kinds of values -/

theorem NumberText.head {v : List Char} (h : NumberText v) :
    ∃ c tail, v = c :: tail ∧ c ≠ '"' ∧ c ≠ 'n' ∧ c ≠ '[' ∧ c ≠ '{' := by
  obtain @⟨sign, whole, fraction, exponent, signed, isWhole, -, -⟩ := h
  rcases signed with rfl | rfl
  · obtain ⟨c, tail, rfl, digit⟩ := isWhole.head
    obtain ⟨-, -, -, -, notBracket, notBrace, notN, -⟩ := digit_ne digit
    refine ⟨c, _, rfl, ?_, notN, notBracket, notBrace⟩
    rintro rfl
    exact absurd digit (by decide)
  · exact ⟨'-', _, rfl, by decide⟩

/-- The first character of a value tells what kind of value it is. -/
theorem WellFormed.kind {v : List Char} (h : WellFormed v) :
    ∃ c tail, v = c :: tail ∧ (c = '"' → StringToken v) ∧ (c = 'n' → v = ['n', 'u', 'l', 'l']) ∧
      (c = '[' → ∃ items, ArrayOf items v) ∧ (c = '{' → ∃ members, ObjectOf members v) := by
  cases h with
  | null => exact ⟨_, _, rfl, nofun, fun _ => rfl, nofun, nofun⟩
  | true => exact ⟨_, _, rfl, nofun, nofun, nofun, nofun⟩
  | false => exact ⟨_, _, rfl, nofun, nofun, nofun, nofun⟩
  | number h =>
      obtain ⟨c, tail, rfl, notQuote, notN, notBracket, notBrace⟩ := h.head
      exact ⟨c, tail, rfl, fun h => absurd h notQuote, fun h => absurd h notN,
        fun h => absurd h notBracket, fun h => absurd h notBrace⟩
  | string h =>
      obtain @⟨pieces, arePieces⟩ := h
      exact ⟨_, _, rfl, fun _ => .intro arePieces, nofun, nofun, nofun⟩
  | @array items _ values text =>
      have array : ArrayOf items v := ⟨values, text⟩
      cases text with
      | empty => exact ⟨_, _, rfl, nofun, nofun, fun _ => ⟨_, array⟩, nofun⟩
      | parts => exact ⟨_, _, rfl, nofun, nofun, fun _ => ⟨_, array⟩, nofun⟩
  | @object members parts _ keys values spelled text =>
      have object : ObjectOf members v := ⟨keys, values, parts, spelled, text⟩
      cases text with
      | empty => exact ⟨_, _, rfl, nofun, nofun, nofun, fun _ => ⟨_, object⟩⟩
      | parts => exact ⟨_, _, rfl, nofun, nofun, nofun, fun _ => ⟨_, object⟩⟩

/-! ## Scalars -/

theorem screens_string {v : List Char} (value : WellFormed v) :
    Screens string v (StringToken v) where
  taken {before rest r t} blank delimited read := by
    obtain ⟨c, tail, rfl, isString, -⟩ := value.kind
    rw [string] at read
    simp only [value.startsToken.skipBlanks_append blank rest, List.cons_append] at read
    split at read
    · rename_i behind start
      cases start
      have token := isString rfl
      obtain ⟨tail', same, sound⟩ := token.of_readString
      cases same
      exact ⟨(sound read).1, token⟩
    · cases read

theorem screens_optionalString {v : List Char} (value : WellFormed v) :
    Screens optionalString v (v = ['n', 'u', 'l', 'l'] ∨ StringToken v) where
  taken {before rest r t} blank delimited read := by
    obtain ⟨c, tail, rfl, isString, isNull, -⟩ := value.kind
    rw [optionalString] at read
    simp only [value.startsToken.skipBlanks_append blank rest, List.cons_append] at read
    split at read
    · rename_i behind start
      cases start
      have null := isNull rfl
      cases null
      cases read
      exact ⟨rfl, .inl rfl⟩
    · have again : string.read ([] ++ (c :: tail) ++ rest) = string.read (c :: (tail ++ rest)) := rfl
      rw [← again] at read
      cases taken : string.read ([] ++ (c :: tail) ++ rest) with
      | error failure =>
          rw [taken] at read
          cases read
      | ok step =>
          rw [taken] at read
          cases read
          exact ((screens_string value).taken .nil delimited taken).imp_right .inr

/-! ## Arrays -/

/-- One element after another is taken whole. -/
theorem screens_elements {item : Reader Failure α} {good : List Char → Prop}
    {parts : List (List Char)} (values : ∀ part ∈ parts, WellFormed part)
    (screens : ∀ part ∈ parts, Screens item part (good part)) {first : Bool} {seen all : List α}
    {rest u r : List Char} (pending : Pending ']' rest first parts u)
    (read : readElements item first seen u = .ok (all, r)) :
    r = rest ∧ ∀ part ∈ parts, good part := by
  induction parts generalizing first seen u with
  | nil =>
      rw [readElements_end (nextElement_none pending)] at read
      cases read
      exact ⟨rfl, List.forall_mem_nil _⟩
  | cons part parts ih =>
      rw [List.forall_mem_cons] at values screens
      obtain ⟨later, next, others⟩ := nextElement_some pending values.1.startsToken
      cases taken : item.read (part ++ later) with
      | error failure =>
          rw [readElements_eq, next] at read
          simp only [Except.bind, if_true, taken] at read
          cases read
      | ok step =>
          obtain ⟨a, behind⟩ := step
          rw [readElements_more next taken] at read
          have whole := screens.1.taken .nil (others.delimited (.inl rfl)) taken
          rw [whole.1] at read
          have final := ih values.2 screens.2 others read
          exact ⟨final.1, List.forall_mem_cons.mpr ⟨whole.2, final.2⟩⟩

/-- A sequence is an array, and each element of it has been taken. -/
theorem screens_sequence {item : Reader Failure α} {good : List Char → Prop} {v : List Char}
    (value : WellFormed v) (screens : ∀ x, WellFormed x → Screens item x (good x)) :
    Screens (sequence item) v
      ((∃ items, ArrayOf items v) ∧ ∀ items, ArrayOf items v → ∀ x ∈ items, good x) where
  taken {before rest r all} blank delimited read := by
    obtain ⟨c, tail, rfl, -, -, isArray, -⟩ := value.kind
    rw [sequence] at read
    simp only [value.startsToken.skipBlanks_append blank rest, List.cons_append] at read
    split at read
    · rename_i behind start
      cases start
      have elements : ∀ items, ArrayOf items ('[' :: tail) → r = rest ∧ ∀ x ∈ items, good x := by
        intro items array
        obtain ⟨tail', same, pending⟩ := Bracketed.pending array.text
        cases same
        exact screens_elements array.values (fun x member => screens x (array.values x member))
          (pending rest) read
      obtain ⟨items, array⟩ := isArray rfl
      exact ⟨(elements items array).1, ⟨items, array⟩, fun items array => (elements items array).2⟩
    · cases read

/-! ## Objects -/

/-- A key that is read goes by what it spells, and its value is left behind the colon. -/
theorem readKey_token {key v part later r : List Char} {name? : Option String}
    (isKey : StringToken key) (member : MemberText key v part)
    (read : readKey (part ++ later) = .ok (name?, r)) :
    ∃ name before after, name? = some name ∧ StringText name key ∧ Blank before ∧ Blank after ∧
      r = before ++ ':' :: (after ++ v ++ later) := by
  obtain @⟨before, after, hb, ha⟩ := member
  obtain ⟨tail, rfl, sound⟩ := isKey.of_readString
  simp only [List.cons_append, List.append_assoc, readKey] at read
  cases taken : readString [] (tail ++ (before ++ ':' :: (after ++ (v ++ later)))) with
  | error failure =>
      rw [taken] at read
      cases read
  | ok step =>
      obtain ⟨name, behind⟩ := step
      obtain ⟨rfl, spells⟩ := sound taken
      rw [taken] at read
      cases read
      exact ⟨name, before, after, rfl, spells, hb, ha, by simp⟩

/-- What holds of the members before and of the draft still holds when one more member has been
taken, and this is taken whole. -/
structure Keeps (member : String → σ → Reader Failure σ)
    (inv : List (List Char × List Char) → σ → Prop) : Prop where
  step : ∀ {done : List (List Char × List Char)} {m : List Char × List Char} {draft draft' : σ}
    {name : String} {before after rest r : List Char}, inv done draft → WellFormed m.2 →
    StringText name m.1 → Blank before → Blank after → Delimited rest →
    (member name draft).read (before ++ ':' :: (after ++ m.2 ++ rest)) = .ok (draft', r) →
    r = rest ∧ inv (done ++ [m]) draft'

/-- From the place where a key is due to the text behind the closing bracket. -/
theorem screens_members {member : String → σ → Reader Failure σ}
    {inv : List (List Char × List Char) → σ → Prop}
    (keeps : Keeps member inv)
    {members : List (List Char × List Char)} {parts : List (List Char)}
    (spelled : List.Forall₂ (fun m part => MemberText m.1 m.2 part) members parts)
    (keys : ∀ m ∈ members, StringToken m.1) (values : ∀ m ∈ members, WellFormed m.2)
    {done : List (List Char × List Char)} {draft final : σ} (holds : inv done draft) {first : Bool}
    {u rest r : List Char} (pending : Pending '}' rest first parts u)
    (read : readMembers member first draft u = .ok (final, r)) :
    r = rest ∧ inv (done ++ members) final := by
  induction spelled generalizing done draft first u with
  | nil =>
      rw [readMembers_end (readNextKey_none pending)] at read
      cases read
      rw [List.append_nil]
      exact ⟨rfl, holds⟩
  | @cons m part members parts isMember _ ih =>
      rw [List.forall_mem_cons] at keys values
      have starts : StartsToken part := by
        obtain ⟨hb, ha⟩ := isMember
        exact keys.1.startsToken.append _
      obtain ⟨later, next, others⟩ := readNextKey_some pending starts
      rw [readMembers_eq, next] at read
      cases keyRead : readKey (part ++ later) with
      | error failure =>
          rw [keyRead] at read
          cases read
      | ok found =>
          obtain ⟨name?, r'⟩ := found
          obtain ⟨name, before, after, rfl, spells, hb, ha, rfl⟩ :=
            readKey_token keys.1 isMember keyRead
          rw [keyRead] at read
          simp only [Except.bind] at read
          cases taken : (member name draft).read (before ++ ':' :: (after ++ m.2 ++ later)) with
          | error failure =>
              rw [taken] at read
              cases read
          | ok found =>
              obtain ⟨draft', r''⟩ := found
              obtain ⟨rfl, still⟩ :=
                keeps.step holds values.1 spells hb ha (others.delimited (.inr rfl)) taken
              rw [taken] at read
              have final := ih keys.2 values.2 still others read
              rwa [List.append_assoc, List.singleton_append] at final

/-- The members of an object from behind its opening bracket. -/
theorem ObjectOf.screens {members : List (List Char × List Char)} {v : List Char}
    (object : ObjectOf members v) {member : String → σ → Reader Failure σ}
    {inv : List (List Char × List Char) → σ → Prop}
    (keeps : Keeps member inv)
    (draft : σ) (holds : inv [] draft) :
    ∃ tail, v = '{' :: tail ∧ ∀ {rest r : List Char} {final : σ},
      readMembers member true draft (tail ++ rest) = .ok (final, r) → r = rest ∧ inv members final := by
  obtain ⟨keys, values, parts, spelled, bracketed⟩ := object
  obtain ⟨tail, rfl, pending⟩ := bracketed.pending
  refine ⟨tail, rfl, ?_⟩
  intro rest r final read
  exact screens_members keeps spelled keys values holds (pending rest) read

theorem read_behindColon {before : List Char} (hb : Blank before) (p : Reader Failure α)
    (s : List Char) : (colon.bind fun _ => p).read (before ++ ':' :: s) = p.read s := by
  rw [Reader.read_bind]
  simp only [colon, skipColon_append hb, Except.bind]

theorem keeps_entry {p : Reader Failure α} {good : List Char → Prop}
    (screens : ∀ x, WellFormed x → Screens p x (good x)) :
    Keeps (fun key (seen : List (String × α)) => (colon.bind fun _ => p).map fun v => (key, v) :: seen)
      fun done _ => ∀ m ∈ done, good m.2 where
  step holds value _ hb ha delimited read := by
    obtain ⟨a, taken, -⟩ := read_map_eq_ok.mp read
    rw [read_behindColon hb] at taken
    have whole := (screens _ value).taken ha delimited taken
    exact ⟨whole.1, List.forall_mem_append.mpr ⟨holds, List.forall_mem_singleton.mpr whole.2⟩⟩

/-- The value of each member of a map has been taken. -/
theorem screens_entries {p : Reader Failure α} {good : List Char → Prop} {v : List Char}
    (value : WellFormed v) (screens : ∀ x, WellFormed x → Screens p x (good x)) :
    Screens (entries p) v (∀ members, ObjectOf members v → ∀ m ∈ members, good m.2) where
  taken {before rest r all} blank delimited read := by
    obtain ⟨c, tail, rfl, -, -, -, isObject⟩ := value.kind
    rw [entries] at read
    simp only [value.startsToken.skipBlanks_append blank rest, List.cons_append] at read
    split at read
    · rename_i behind start
      cases start
      have values : ∀ members, ObjectOf members ('{' :: tail) →
          r = rest ∧ ∀ m ∈ members, good m.2 := by
        intro members object
        obtain ⟨tail', same, sound⟩ := object.screens (keeps_entry screens) [] (List.forall_mem_nil _)
        cases same
        split at read
        · cases read
        · rename_i seen r' ran
          cases read
          exact sound ran
      obtain ⟨members, object⟩ := isObject rfl
      exact ⟨(values members object).1, fun members object => (values members object).2⟩
    · cases read

/-! ## Records -/

/-- No member goes by the name. -/
def Lacks (name : String) (members : List (List Char × List Char)) : Prop :=
  ∀ m ∈ members, ¬StringText name m.1

/-- A member gives a value under the name. -/
def Gives (name : String) (v : List Char) (members : List (List Char × List Char)) : Prop :=
  ∃ m ∈ members, StringText name m.1 ∧ m.2 = v

/-- No two members go by the name. -/
def AtMostOne (name : String) (members : List (List Char × List Char)) : Prop :=
  members.Pairwise fun m m' => StringText name m.1 → ¬StringText name m'.1

/-- The members of an object that has every field that it needs, and each known field at most once
and with a value that fits. -/
structure Conforms (required known : List String) (fits : String → List Char → Prop)
    (members : List (List Char × List Char)) : Prop where
  complete : ∀ name ∈ required, ¬Lacks name members
  fitting : ∀ name ∈ known, ∀ v, Gives name v members → fits name v
  single : ∀ name ∈ known, AtMostOne name members

/-- A record whose fields are filled one by one, each by values that fit, and that is not finished
before the fields that it needs are filled. -/
structure Lawful (format : RecordFormat σ α) (required : List String)
    (fits : String → List Char → Prop) : Prop where
  blank : ∀ field ∈ format.fields, field.isFilled format.blank = false
  screens : ∀ field ∈ format.fields, ∀ draft v, WellFormed v →
    Screens (field.fill draft) v (fits field.name v)
  fills : ∀ field ∈ format.fields, ∀ draft s draft' r,
    (field.fill draft).read s = .ok (draft', r) → ∀ other ∈ format.fields,
      other.isFilled draft' = (decide (other.name = field.name) || other.isFilled draft)
  finish : ∀ draft a, format.finish draft = .ok a → ∀ name ∈ required,
    ∃ field ∈ format.fields, field.name = name ∧ field.isFilled draft = true

/-- What holds of the members of a record that have been taken. -/
structure Taken (format : RecordFormat σ α) (fits : String → List Char → Prop)
    (done : List (List Char × List Char)) (draft : σ) : Prop where
  filled : ∀ field ∈ format.fields, field.isFilled draft = true ↔ ¬Lacks field.name done
  fitting : ∀ field ∈ format.fields, ∀ v, Gives field.name v done → fits field.name v
  single : ∀ field ∈ format.fields, AtMostOne field.name done

theorem lacks_concat {name : String} {done : List (List Char × List Char)}
    {m : List Char × List Char} :
    Lacks name (done ++ [m]) ↔ Lacks name done ∧ ¬StringText name m.1 := by
  rw [Lacks, List.forall_mem_append, List.forall_mem_singleton]
  rfl

theorem gives_concat {name : String} {v : List Char} {done : List (List Char × List Char)}
    {m : List Char × List Char} :
    Gives name v (done ++ [m]) ↔ Gives name v done ∨ StringText name m.1 ∧ m.2 = v := by
  simp only [Gives, List.mem_append, List.mem_singleton]
  constructor
  · rintro ⟨m', held | rfl, given⟩
    · exact .inl ⟨m', held, given⟩
    · exact .inr given
  · rintro (⟨m', held, given⟩ | given)
    · exact ⟨m', .inl held, given⟩
    · exact ⟨m, .inr rfl, given⟩

theorem atMostOne_concat {name : String} {done : List (List Char × List Char)}
    {m : List Char × List Char} :
    AtMostOne name (done ++ [m]) ↔
      AtMostOne name done ∧ (StringText name m.1 → Lacks name done) := by
  rw [AtMostOne, List.pairwise_append]
  simp only [List.pairwise_singleton, List.mem_singleton, forall_eq, true_and]
  refine and_congr_right fun _ => ?_
  exact ⟨fun apart spells m' held spells' => apart m' held spells' spells,
    fun lacks m' held spells' spells => lacks spells m' held spells'⟩

theorem MemberTokens.gives {members : List (String × List Char)}
    {tokens : List (List Char × List Char)} (h : MemberTokens members tokens)
    {m : String × List Char} (held : m ∈ members) : Gives m.1 m.2 tokens := by
  induction h with
  | nil => cases held
  | @cons m' token _ _ same _ ih =>
      rcases List.mem_cons.mp held with rfl | later
      · exact ⟨token, List.mem_cons_self, same⟩
      · obtain ⟨token', held', given⟩ := ih later
        exact ⟨token', List.mem_cons_of_mem _ held', given⟩

theorem MemberTokens.lacks {members : List (String × List Char)}
    {tokens : List (List Char × List Char)} (h : MemberTokens members tokens) {name : String}
    (absent : name ∉ members.map Prod.fst) : Lacks name tokens := by
  induction h with
  | nil => exact List.forall_mem_nil _
  | cons same _ ih =>
      rw [List.map_cons, List.mem_cons, not_or] at absent
      exact List.forall_mem_cons.mpr ⟨fun spells => absent.1 (spells.unique same.1), ih absent.2⟩

/-- A field of another name takes nothing. -/
theorem Taken.unknown {format : RecordFormat σ α} {fits : String → List Char → Prop}
    {done : List (List Char × List Char)} {m : List Char × List Char} {draft : σ}
    (taken : Taken format fits done draft)
    (unknown : ∀ field ∈ format.fields, ¬StringText field.name m.1) :
    Taken format fits (done ++ [m]) draft where
  filled field member := by
    rw [taken.filled field member, lacks_concat, and_iff_left (unknown field member)]
  fitting field member v given := by
    rcases gives_concat.mp given with given | ⟨same, -⟩
    · exact taken.fitting field member v given
    · exact absurd same (unknown field member)
  single field member := atMostOne_concat.mpr
    ⟨taken.single field member, fun same => absurd same (unknown field member)⟩

/-- A field that was not filled takes a value that fits. -/
theorem Taken.fill {format : RecordFormat σ α} {fits : String → List Char → Prop}
    {done : List (List Char × List Char)} {m : List Char × List Char} {draft draft' : σ}
    {field : Field σ} (taken : Taken format fits done draft) (member : field ∈ format.fields)
    (notFilled : ¬field.isFilled draft = true) (spells : StringText field.name m.1)
    (fitting : fits field.name m.2)
    (filled : ∀ other ∈ format.fields,
      other.isFilled draft' = (decide (other.name = field.name) || other.isFilled draft)) :
    Taken format fits (done ++ [m]) draft' where
  filled other isField := by
    rw [filled other isField, lacks_concat, Bool.or_eq_true, decide_eq_true_eq,
      taken.filled other isField]
    by_cases same : other.name = field.name
    · simp [same, spells]
    · have apart : ¬StringText other.name m.1 := fun spells' => same (spells'.unique spells)
      simp [same, apart]
  fitting other isField v given := by
    rcases gives_concat.mp given with given | ⟨spells', rfl⟩
    · exact taken.fitting other isField v given
    · rw [spells'.unique spells]
      exact fitting
  single other isField := by
    refine atMostOne_concat.mpr ⟨taken.single other isField, fun spells' => ?_⟩
    rw [spells'.unique spells]
    by_contra given
    exact notFilled ((taken.filled field member).mpr given)

theorem keeps_taken {format : RecordFormat σ α} {required : List String}
    {fits : String → List Char → Prop} (lawful : Lawful format required fits) :
    Keeps format.member (Taken format fits) where
  step {done m draft draft' name before after rest r} taken value spells hb ha delimited read := by
    rw [RecordFormat.member] at read
    cases known : format.fields.find? (·.name = name) with
    | none =>
        rw [known] at read
        obtain ⟨done, skipped, rfl⟩ := read_map_eq_ok.mp read
        rw [ignored] at skipped
        simp only [skipColon_append hb, skipValue_wellFormed value ha delimited] at skipped
        cases skipped
        refine ⟨rfl, taken.unknown fun field member spells' => ?_⟩
        have differs := List.find?_eq_none.mp known field member
        exact differs (decide_eq_true (spells'.unique spells))
    | some field =>
        have isField : field ∈ format.fields := List.mem_of_find?_eq_some known
        have named : field.name = name := by simpa using List.find?_some known
        subst named
        rw [known] at read
        simp only [] at read
        split at read
        · cases read
        · rename_i notFilled
          rw [read_behindColon hb] at read
          have whole := (lawful.screens field isField draft m.2 value).taken ha delimited read
          exact ⟨whole.1, taken.fill isField notFilled spells whole.2
            (lawful.fills field isField draft _ draft' r read)⟩

/-- An array that has held a value for every field ends there. -/
theorem endPositional_pending {first : Bool} {parts : List (List Char)} {rest u r : List Char}
    (starts : ∀ part ∈ parts, StartsToken part) (pending : Pending ']' rest first parts u)
    (ended : RecordFormat.endPositional u = .ok r) : r = rest := by
  rw [RecordFormat.endPositional] at ended
  cases pending with
  | none h =>
      rw [skipBlanks_append h, skipBlanks_cons rfl] at ended
      cases ended
      rfl
  | first hb later =>
      obtain @⟨c, tail, notBlank, notComma, notBracket, -⟩ := starts _ List.mem_cons_self
      rw [List.append_assoc, skipBlanks_append hb, List.cons_append, skipBlanks_cons notBlank] at ended
      simp [notComma, notBracket] at ended
  | next ha hb later =>
      obtain @⟨c, tail, notBlank, notComma, notBracket, -⟩ := starts _ List.mem_cons_self
      rw [skipBlanks_append ha, skipBlanks_cons rfl] at ended
      simp [skipBlanks_append hb, skipBlanks_cons notBlank, notBracket] at ended

/-- The values of the fields in their order are taken whole. -/
theorem screens_positional {fits : String → List Char → Prop} {fields : List (Field σ)}
    (screens : ∀ field ∈ fields, ∀ draft v, WellFormed v →
      Screens (field.fill draft) v (fits field.name v))
    {parts : List (List Char)} (values : ∀ part ∈ parts, WellFormed part) {first : Bool}
    {draft final : σ} {rest u r : List Char} (pending : Pending ']' rest first parts u)
    (read : RecordFormat.readPositional first draft u fields = .ok (final, r)) : r = rest := by
  induction fields generalizing first draft u parts with
  | nil =>
      rw [RecordFormat.readPositional] at read
      split at read
      · cases read
      · rename_i behind ended
        cases read
        exact endPositional_pending (fun part member => (values part member).startsToken) pending ended
  | cons field fields ih =>
      rw [List.forall_mem_cons] at screens
      rw [RecordFormat.readPositional] at read
      cases parts with
      | nil =>
          rw [nextElement_none pending] at read
          cases read
          rfl
      | cons part parts =>
          rw [List.forall_mem_cons] at values
          obtain ⟨later, next, others⟩ := nextElement_some pending values.1.startsToken
          rw [next] at read
          simp only [] at read
          split at read
          · cases read
          · rename_i draft' behind taken
            have whole := (screens.1 draft part values.1).taken .nil (others.delimited (.inl rfl)) taken
            rw [whole.1] at read
            exact ih screens.2 values.2 others read

/-- Before any member nothing has been taken. -/
theorem Taken.blank {format : RecordFormat σ α} {required : List String}
    {fits : String → List Char → Prop} (lawful : Lawful format required fits) :
    Taken format fits [] format.blank where
  filled field member := by simp [lawful.blank field member, Lacks]
  fitting _ _ _ given := by
    obtain ⟨m, held, -⟩ := given
    cases held
  single _ _ := List.Pairwise.nil

theorem Taken.conforms {format : RecordFormat σ α} {required : List String}
    {fits : String → List Char → Prop} (lawful : Lawful format required fits)
    {members : List (List Char × List Char)} {draft : σ} {a : α}
    (taken : Taken format fits members draft) (finished : format.finish draft = .ok a) :
    Conforms required (format.fields.map (·.name)) fits members where
  complete name isRequired := by
    obtain ⟨field, member, rfl, filled⟩ := lawful.finish draft a finished name isRequired
    exact (taken.filled field member).mp filled
  fitting := List.forall_mem_map.mpr taken.fitting
  single := List.forall_mem_map.mpr taken.single

/-- A record that is written as an object has members that conform. -/
theorem screens_record {format : RecordFormat σ α} {required : List String}
    {fits : String → List Char → Prop} (lawful : Lawful format required fits) {v : List Char}
    (value : WellFormed v) :
    Screens format.reader v (∀ members, ObjectOf members v →
      Conforms required (format.fields.map (·.name)) fits members) where
  taken {before rest r a} blank delimited read := by
    obtain ⟨c, tail, rfl, -, -, isArray, isObject⟩ := value.kind
    rw [RecordFormat.reader] at read
    simp only [value.startsToken.skipBlanks_append blank rest, List.cons_append] at read
    split at read
    · rename_i behind start
      cases start
      have conforms : ∀ members, ObjectOf members ('{' :: tail) →
          r = rest ∧ Conforms required (format.fields.map (·.name)) fits members := by
        intro members object
        obtain ⟨tail', same, sound⟩ := object.screens (keeps_taken lawful) _ (.blank lawful)
        cases same
        split at read
        · cases read
        · rename_i draft r' ran
          split at read
          · cases read
          · rename_i finished
            cases read
            obtain ⟨whole, taken⟩ := sound ran
            exact ⟨whole, taken.conforms lawful finished⟩
      obtain ⟨members, object⟩ := isObject rfl
      exact ⟨(conforms members object).1, fun members object => (conforms members object).2⟩
    · rename_i behind start
      cases start
      obtain ⟨items, array⟩ := isArray rfl
      obtain ⟨tail', same, pending⟩ := Bracketed.pending array.text
      cases same
      have noObject : ∀ members, ¬ObjectOf members ('[' :: tail) := by
        rintro members ⟨-, -, parts, -, bracketed⟩
        obtain ⟨_, differs, -⟩ := bracketed.pending
        cases differs
      split at read
      · cases read
      · rename_i draft r' ran
        have whole := screens_positional lawful.screens array.values (pending rest) ran
        split at read
        · cases read
        · cases read
          exact ⟨whole, fun members object => absurd object (noObject members)⟩
    · cases read

/-! ## Documents -/

/-- A text whose value is read as a document holds a value that the reader takes. -/
theorem Screens.document {p : Reader Failure α} {before v after : List Char} {good : Prop}
    (h : Screens p v good) (hb : Blank before) (ha : Blank after) {a : α}
    (read : readDocument p (before ++ v ++ after) = .ok a) : good := by
  have delimited : Delimited after := by simpa using Delimited.blank_append ha .nil
  rw [readDocument] at read
  split at read
  · cases read
  · rename_i r taken
    exact (h.taken hb delimited taken).2

end LuaBindings.Json
