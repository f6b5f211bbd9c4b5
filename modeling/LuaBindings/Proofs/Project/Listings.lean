import LuaBindings.Project.Inspection
import LuaBindings.Proofs.Catalog.Large
/-!
# Listings of the namespaces

The natives of a catalog are listed one namespace at a time. On every catalog that is loaded, the
listings of its namespaces in order list each native once, under its place and by the declaration
that also stands above its binding. What the headings count is what the overview counts, and under
any other name nothing is listed. This holds as long as there are places for all natives and the
overview has room for all names.
-/

namespace LuaBindings

/-! ## Declarations -/

namespace Binding

/-- What stands above the binding of a native behind `-- `, where declarations are asked for: what
the text then has before the text that there is without. -/
def declaration? (options : Options) (ns : String) (f : NativeFunction) : Option (List Char) := do
  let without := (renderFunction ns f { options with signatures := false }).toList
  let whole := (renderFunction ns f { options with signatures := true }).toList
  let text ← whole.dropPrefix? ['-', '-', ' ']
  text.dropSuffix? ('\n' :: without)

theorem declaration?_eq (options : Options) (ns : String) (f : NativeFunction) :
    declaration? options ns f = some (signature f).toList := by
  have heads : headLines { options with signatures := true } f =
      ("-- " ++ signature f) :: headLines { options with signatures := false } f := rfl
  have text : (renderFunction ns f { options with signatures := true }).toList =
      ['-', '-', ' '] ++ ((signature f).toList ++
        '\n' :: (renderFunction ns f { options with signatures := false }).toList) := by
    rw [renderFunction_toList, renderFunction_toList, heads, List.map_cons, unlines_cons,
      String.toList_append]
    simp
  rw [declaration?, text]
  simp only [dropPrefix?_append, dropSuffix?_append, Option.bind_eq_bind, Option.bind_some]

end Binding

namespace Catalog

variable {catalog : Catalog} {text : String}

/-! ## Counts -/

/-- The number that a line ends with. -/
def endNumber (line : List Char) : Option Nat :=
  Binding.readNumber (line.reverse.takeWhile Char.isDigit).reverse

/-- The number of functions that a heading tells. -/
def headingCount (heading : String) : Option Nat :=
  (heading.toList.dropSuffix? " functions) ---".toList).bind endNumber

/-- The rows of an overview between the title of the namespaces and the empty line behind them. -/
def sizeRows (overview : List String) : List String :=
  (overview.dropWhile (· ≠ "--- Namespaces ---")).tail.takeWhile (· ≠ "")

theorem isDigit_reverse (n : Nat) : ∀ d ∈ (toString n).toList.reverse, d.isDigit = true := by
  intro d member
  exact Binding.repr_isDigit n d (List.mem_reverse.mp member)

/-- A number is read off a line if no digit stands before it. -/
theorem endNumber_append {s : List Char} {c : Char} (stop : c.isDigit = false) (n : Nat) :
    endNumber (s ++ c :: (toString n).toList) = some n := by
  rw [endNumber, List.reverse_append, List.reverse_cons, List.append_assoc,
    List.takeWhile_append_of_pos (isDigit_reverse n), List.singleton_append,
    List.takeWhile_cons_of_neg (by simp [stop]), List.append_nil, List.reverse_reverse]
  exact Binding.readNumber_toString n

theorem headingCount_eq (name : String) (n : Nat) :
    headingCount ("--- " ++ name ++ " (" ++ toString n ++ " functions) ---") = some n := by
  have heading : ("--- " ++ name ++ " (" ++ toString n ++ " functions) ---").toList =
      (("--- " ++ name ++ " ").toList ++ '(' :: (toString n).toList) ++
        " functions) ---".toList := by
    simp
  rw [headingCount, heading, Binding.dropSuffix?_append, Option.bind_some]
  exact endNumber_append (by decide) n

/-- A blank stands before the number of a row. -/
theorem sizeText_toList (width : Nat) (ns : Namespace) : (sizeText width ns).toList =
    ("  " ++ (ns.name ++ blanks (width - ns.name.length)) ++ " ").toList ++ ' ' ::
      (toString ns.functions.length).toList := by
  simp [sizeText]

theorem endNumber_sizeText (width : Nat) (ns : Namespace) :
    endNumber (sizeText width ns).toList = some ns.functions.length := by
  rw [sizeText_toList]
  exact endNumber_append (by decide) _

theorem sizeText_ne_empty (width : Nat) (ns : Namespace) : sizeText width ns ≠ "" := by
  intro empty
  have count := endNumber_sizeText width ns
  rw [empty] at count
  cases count

/-- The rows of the namespaces stand between two titles, with an empty line behind them. -/
theorem overview_sizes (catalog : Catalog) : ∃ below, catalog.overviewLines =
    ["  Namespaces: " ++ toString catalog.namespaces.length,
      "  Functions:  " ++ toString catalog.functionCount, ""] ++
    "--- Namespaces ---" :: (catalog.namespaces.map (sizeText catalog.nameWidth) ++
      "" :: "--- Vector fix-up ---" :: below) := by
  apply Exists.intro
  rw [overviewLines, totalLines, List.append_assoc, List.append_assoc]
  rfl

theorem sizeRows_eq (catalog : Catalog) :
    sizeRows catalog.overviewLines = catalog.namespaces.map (sizeText catalog.nameWidth) := by
  let totals : List String := ["  Namespaces: " ++ toString catalog.namespaces.length,
    "  Functions:  " ++ toString catalog.functionCount, ""]
  let sizes := catalog.namespaces.map (sizeText catalog.nameWidth)
  have above : ∀ line ∈ totals, decide (line ≠ "--- Namespaces ---") = true := by
    have number : ∀ s (n : Nat), decide (s ++ toString n ≠ "--- Namespaces ---") = true := by
      intro s n
      exact decide_eq_true (append_toString_ne rfl s n)
    simp only [totals, List.forall_mem_cons]
    exact ⟨number _ _, number _ _, rfl, List.forall_mem_nil _⟩
  have filled : ∀ row ∈ sizes, decide (row ≠ "") = true := by
    rw [List.forall_mem_map]
    intro ns _
    exact decide_eq_true (sizeText_ne_empty _ ns)
  obtain ⟨below, whole⟩ := overview_sizes catalog
  rw [sizeRows, whole, List.dropWhile_append_of_pos above, List.dropWhile_cons_of_neg (by decide),
    List.tail_cons, List.takeWhile_append_of_pos filled, List.takeWhile_cons_of_neg (by decide),
    List.append_nil]

/-! ## Lines -/

/-- A text behind blanks that make up a width with it, unless it is wider. -/
def RightAligned (width : Nat) (text aligned : String) : Prop :=
  aligned.length = max width text.length ∧ ∃ count, aligned = blanks count ++ text

/-- A line that shows a native with its place: the place, and the declaration that stands above the
binding of the native. -/
def Shows (entry : (Namespace × NativeFunction) × Nat) (line : String) : Prop :=
  entry.1.2.sequenceId.toNat = entry.2 ∧ ∃ number declaration, RightAligned 5 (toString entry.2) number ∧
    line = "  " ++ number ++ "  " ++ declaration ∧ ∀ options,
      Binding.declaration? options entry.1.1.name entry.1.2 = some declaration.toList

theorem length_blanks (count : Nat) : (blanks count).length = count := by
  rw [blanks, String.length_ofList, List.length_replicate]

theorem rightAligned_padLeft (width : UInt16) (s : String) :
    RightAligned width.toNat s (padLeft width s) := by
  refine ⟨?_, _, rfl⟩
  rw [padLeft, String.length_append, length_blanks]
  omega

theorem shows_listingRow {entry : (Namespace × NativeFunction) × Nat}
    (place : entry.1.2.sequenceId.toNat = entry.2) : Shows entry (listingRow entry.1.2) := by
  refine ⟨place, _, _, rightAligned_padLeft 5 _, ?_, fun options =>
    Binding.declaration?_eq options entry.1.1.name entry.1.2⟩
  rw [listingRow, place]

/-- A native behind many others would be shown with a place that may be no word. -/
theorem place_of_shows_late {count : Nat} {lines : List String}
    (shown : List.Forall₂ Shows (lateOutline count).catalog.functions.zipIdx lines) :
    (lateFunction count).sequenceId.toNat = count + 761 := by
  have places := ((List.forall₂_and_left _ _).mp shown).1
  exact places ((lateNamespace count, lateFunction count), count + 761)
    (List.mem_zipIdx_iff_getElem?.mpr (getElem?_late count))

end Catalog

namespace Project

variable {text : String} {catalog : Catalog}

/-- How the listings of the namespaces of a catalog, each a heading and lines, make up the catalog
and go together with its overview. -/
structure ListsAll (catalog : Catalog) (overview : List String)
    (listings : List (String × List String)) : Prop where
  /-- They are what is told when one asks for the namespaces by name, in the order of the
  catalog. -/
  told : catalog.namespaces.map (fun ns => report catalog (some ns.name)) =
    listings.map fun listing => .ok (listing.1 :: listing.2)
  /-- One behind the other, their lines show each native once, with the places in order. -/
  shown : List.Forall₂ Catalog.Shows catalog.functions.zipIdx (listings.flatMap Prod.snd)
  /-- A heading tells the number of its lines, and so does the row of the namespace in the
  overview. -/
  counted : ∀ (i : Nat) (ns : Namespace) (heading : String) (lines : List String),
    catalog.namespaces[i]? = some ns →
    listings[i]? = some (heading, lines) → Catalog.headingCount heading = some lines.length ∧
      ∃ row : String, (Catalog.sizeRows overview)[i]? = some row ∧ ("  " ++ ns.name).toList <+: row.toList ∧
        Catalog.endNumber row.toList = some lines.length
  /-- These numbers add up to the one that the overview tells of the whole catalog. -/
  total : ∃ line, overview[1]? = some line ∧
    Catalog.endNumber line.toList =
      some (listings.foldr (fun listing count => listing.2.length + count) 0)
  /-- Under another name nothing is listed. -/
  unknown : ∀ name, (∀ ns ∈ catalog.namespaces, ns.name ≠ name) →
    ∃ failure, report catalog (some name) = .error (.failed failure) ∧
      ∀ wording, failure.message wording = "namespace '" ++ name ++ "' not found in catalog"

/-- The heading and the lines of a namespace. -/
def listing (ns : Namespace) : String × List String :=
  ("--- " ++ ns.name ++ " (" ++ toString ns.functions.length ++ " functions) ---",
    ns.functions.map Catalog.listingRow)

theorem report_listing (names : (catalog.namespaces.map (·.name)).Nodup) {ns : Namespace}
    (member : ns ∈ catalog.namespaces) :
    report catalog (some ns.name) = .ok ((listing ns).1 :: (listing ns).2) := by
  rw [report, Catalog.listing?, Catalog.namespace?_eq_some names member]
  rfl

theorem report_unknown {name : String} (unknown : ∀ ns ∈ catalog.namespaces, ns.name ≠ name) :
    report catalog (some name) = .error (.failed (.unknownNamespace name)) := by
  have none : catalog.namespace? name = none := by
    apply List.find?_eq_none.mpr
    intro ns member same
    exact unknown ns member (of_decide_eq_true same)
  rw [report, Catalog.listing?, none]
  rfl

theorem report_overview (narrow : catalog.Narrow) :
    report catalog none = .ok catalog.overviewLines := by
  rw [report, Catalog.overview_of_narrow narrow]
  rfl

/-- The lines of all listings are those of all functions. -/
theorem listing_lines (catalog : Catalog) : (catalog.namespaces.map listing).flatMap Prod.snd =
    catalog.functions.map fun entry => Catalog.listingRow entry.2 := by
  rw [Catalog.functions, List.flatMap_map, List.map_flatMap]
  simp only [List.map_map]
  rfl

theorem listing_total (catalog : Catalog) :
    (catalog.namespaces.map listing).foldr (fun listing count => listing.2.length + count) 0 =
      catalog.functionCount := by
  rw [List.foldr_map, Catalog.functionCount]
  simp only [listing, List.length_map]

/-- Every native of a loaded catalog is listed once, if there are not more natives than places and
the overview has room for the names. -/
theorem report_listsAll (loaded : Catalog.load text = .ok catalog)
    (few : catalog.functionCount < UInt32.size) (narrow : catalog.Narrow) :
    ∃ overview listings, report catalog none = .ok overview ∧
      ListsAll catalog overview listings := by
  have names : (catalog.namespaces.map (·.name)).Nodup := by
    simpa [Catalog.outline, Function.comp_def] using (Catalog.outline_valid loaded).names
  have counted := Catalog.places_eq_range loaded few
  refine ⟨catalog.overviewLines, catalog.namespaces.map listing, report_overview narrow,
    ?_, ?_, ?_, ?_, ?_⟩
  · rw [List.map_map]
    apply List.map_congr_left
    intro ns member
    exact report_listing names member
  · have lines : catalog.functions.map (fun entry => Catalog.listingRow entry.2) =
        catalog.functions.zipIdx.map fun entry => Catalog.listingRow entry.1.2 := by
      conv_lhs => rw [← List.zipIdx_map_fst 0 catalog.functions, List.map_map]
      rfl
    rw [listing_lines, lines, List.forall₂_map_right_iff, List.forall₂_same]
    intro entry member
    apply Catalog.shows_listingRow
    exact Catalog.place_eq counted (List.mem_zipIdx_iff_getElem?.mp member)
  · intro i ns heading lines held listed
    rw [List.getElem?_map, held, Option.map_some, Option.some.injEq] at listed
    obtain ⟨rfl, rfl⟩ := listed
    refine ⟨?_, Catalog.sizeText catalog.nameWidth ns, ?_, ?_, ?_⟩
    · rw [List.length_map]
      exact Catalog.headingCount_eq ns.name ns.functions.length
    · rw [Catalog.sizeRows_eq, List.getElem?_map, held]
      rfl
    · simp [Catalog.sizeText]
    · rw [List.length_map]
      exact Catalog.endNumber_sizeText _ ns
  · refine ⟨"  Functions:  " ++ toString catalog.functionCount, rfl, ?_⟩
    have line : ("  Functions:  " ++ toString catalog.functionCount).toList =
        "  Functions: ".toList ++ ' ' :: (toString catalog.functionCount).toList := by
      simp
    rw [listing_total, line]
    exact Catalog.endNumber_append (by decide) catalog.functionCount
  · intro name unknown
    exact ⟨_, report_unknown unknown, fun _ => rfl⟩

/-- Two namespaces with a native each, under the same hash. -/
def neighbourText : String :=
  "\x7b\"A\":\x7b\"1\":[\"F\",\"\",[],\"int\",null,null]\x7d," ++
    "\"B\":\x7b\"1\":[\"G\",\"\",[],\"void\",null,null]\x7d\x7d"

/-- The catalog of it. -/
def neighbourCatalog : Catalog :=
  ⟨[⟨"A", [⟨"F", "1", 0, "int", [], "", none, none⟩]⟩,
    ⟨"B", [⟨"G", "1", 1, "void", [], "", none, none⟩]⟩]⟩

theorem report_listsAll_neighbour :
    Catalog.load neighbourText = .ok neighbourCatalog ∧
      neighbourCatalog.functionCount < UInt32.size ∧ neighbourCatalog.Narrow ∧
      (∃ overview listings, report neighbourCatalog none = .ok overview ∧
        ListsAll neighbourCatalog overview listings) ∧
      report neighbourCatalog (some "B") =
        .ok ["--- B (1 functions) ---", "      1  void G() // 1"] := by
  have loaded : Catalog.load neighbourText = .ok neighbourCatalog := by decide +kernel
  have narrow : neighbourCatalog.Narrow := by
    rw [Catalog.narrow_iff]
    decide +kernel
  exact ⟨loaded, by decide, narrow, report_listsAll loaded (by decide) narrow, by decide +kernel⟩

/-- There are catalogs that are loaded and of which there is no overview, and some with natives that
are not listed under their position. -/
theorem report_lists_differ :
    (Catalog.load (Catalog.wideOutline 65536).print = .ok (Catalog.wideOutline 65536).catalog ∧
      ¬∃ overview, report (Catalog.wideOutline 65536).catalog none = .ok overview) ∧
    (let catalog := (Catalog.lateOutline UInt32.size).catalog
    Catalog.load (Catalog.lateOutline UInt32.size).print = .ok catalog ∧
      ¬∃ overview listings, report catalog none = .ok overview ∧
        ListsAll catalog overview listings) := by
  refine ⟨⟨Catalog.load_print (Catalog.wideOutline_valid 65536), ?_⟩,
    Catalog.load_print (Catalog.lateOutline_valid UInt32.size), ?_⟩
  · rintro ⟨overview, told⟩
    have wide : ¬(Catalog.wideOutline 65536).catalog.Narrow := Catalog.not_narrow_wide (by omega)
    rw [report, Catalog.overview_of_wide wide] at told
    cases told
  · rintro ⟨overview, listings, -, lists⟩
    have position := Catalog.place_of_shows_late lists.shown
    have word := (Catalog.lateFunction UInt32.size).sequenceId.toNat_lt_size
    omega

end Project

end LuaBindings
