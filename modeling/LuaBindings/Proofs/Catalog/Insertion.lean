import LuaBindings.Proofs.Binding.Planning
import LuaBindings.Proofs.Catalog.Large
/-!
# Inserting records

When records are inserted at one place of a document, the functions before that place stay as they
are and those behind it move on by the number of records, and nothing else of them changes. Since
the fix-up of a native depends on its place, every native behind the place loses it. All this is so
as long as there are places for all functions.
-/

namespace LuaBindings

/-- The function, so many places further on. -/
def NativeFunction.shifted (shift : Nat) (f : NativeFunction) : NativeFunction :=
  { f with sequenceId := f.sequenceId + .ofNat shift }

namespace Catalog

/-! ## Rows -/

/-- The functions of a catalog in its order, each with the name of its namespace. -/
def rows (catalog : Catalog) : List (String × NativeFunction) :=
  catalog.functions.map fun entry => (entry.1.name, entry.2)

theorem rows_cons (ns : Namespace) (others : List Namespace) :
    rows ⟨ns :: others⟩ = ns.functions.map (ns.name, ·) ++ rows ⟨others⟩ := by
  simp [rows, functions, Function.comp_def]

theorem rows_append (front back : List Namespace) :
    rows ⟨front ++ back⟩ = rows ⟨front⟩ ++ rows ⟨back⟩ := by
  simp [rows, functions]

theorem length_rows (catalog : Catalog) : catalog.rows.length = catalog.functionCount := by
  rw [rows, List.length_map, length_functions]

/-! ## Numbering in parts -/

theorem placed_append (first : Nat) (before after : List (String × FunctionRecord)) :
    placed first (before ++ after) =
      placed first before ++ placed (first + before.length) after := by
  induction before generalizing first with
  | nil => rfl
  | cons entry rest ih =>
      have next : first + 1 + rest.length = first + (rest.length + 1) := by omega
      rw [List.cons_append, placed, ih, next]
      rfl

/-- Functions that are numbered from a later place on are those numbered from the earlier one, moved
on. -/
theorem placed_shift (first shift : Nat) (entries : List (String × FunctionRecord)) :
    placed (first + shift) entries = (placed first entries).map (·.shifted shift) := by
  induction entries generalizing first with
  | nil => rfl
  | cons entry rest ih =>
      have next : first + shift + 1 = first + 1 + shift := by omega
      rw [placed, placed, next, ih, List.map_cons, UInt32.ofNat_add]
      rfl

theorem Outline.namespacesFrom_append (first : Nat) (front back : Outline) :
    Outline.namespacesFrom first (front ++ back) =
      front.namespacesFrom first ++ back.namespacesFrom (first + front.functionCount) := by
  induction front generalizing first with
  | nil => rfl
  | cons ns rest ih =>
      have next : first + ns.2.length + Outline.functionCount rest =
          first + Outline.functionCount (ns :: rest) := by
        rw [Outline.functionCount_cons]
        omega
      rw [List.cons_append, Outline.namespacesFrom, ih, next]
      rfl

theorem Outline.functionCount_append (front back : Outline) :
    Outline.functionCount (front ++ back) = front.functionCount + back.functionCount := by
  induction front with
  | nil => exact (Nat.zero_add _).symm
  | cons ns rest ih =>
      rw [List.cons_append, Outline.functionCount_cons, Outline.functionCount_cons, ih,
        Nat.add_assoc]

/-- The same for namespaces: each keeps its name, and its functions move on. -/
theorem Outline.namespacesFrom_shift (o : Outline) (first shift : Nat) :
    o.namespacesFrom (first + shift) = (o.namespacesFrom first).map fun ns =>
      ⟨ns.name, ns.functions.map (·.shifted shift)⟩ := by
  induction o generalizing first with
  | nil => rfl
  | cons ns rest ih =>
      have next : first + shift + ns.2.length = first + ns.2.length + shift := by omega
      rw [Outline.namespacesFrom, Outline.namespacesFrom, next, ih, placed_shift, List.map_cons]

theorem rows_shift (o : Outline) (first shift : Nat) :
    rows ⟨o.namespacesFrom (first + shift)⟩ =
      (rows ⟨o.namespacesFrom first⟩).map (Prod.map id (·.shifted shift)) := by
  rw [Outline.namespacesFrom_shift]
  induction o.namespacesFrom first with
  | nil => rfl
  | cons ns rest ih =>
      rw [List.map_cons, rows_cons, rows_cons, ih, List.map_append, List.map_map, List.map_map]
      rfl

theorem length_rows_namespacesFrom (o : Outline) (first : Nat) :
    (rows ⟨o.namespacesFrom first⟩).length = o.functionCount := by
  rw [length_rows, ← outline_functionCount, outline_namespacesFrom]

/-- No function comes before the first place, if there are places for all. -/
theorem le_place {o : Outline} {first : Nat} {ns : Namespace}
    (few : first + o.functionCount < UInt32.size) (member : ns ∈ o.namespacesFrom first) :
    ∀ f ∈ ns.functions, first ≤ f.sequenceId.toNat := by
  intro f held
  have listed : f.sequenceId ∈ ids ⟨o.namespacesFrom first⟩ :=
    List.mem_map.mpr ⟨(ns, f), List.mem_flatMap.mpr ⟨ns, member, List.mem_map.mpr ⟨f, held, rfl⟩⟩,
      rfl⟩
  rw [ids_namespacesFrom] at listed
  obtain ⟨position, within, place⟩ := List.mem_map.mp listed
  rw [List.mem_range'_1] at within
  rw [← place, UInt32.toNat_ofNat_of_lt' (by omega)]
  exact within.1

/-- The row at a position holds the function whose id is the word of that position. -/
theorem sequenceId_row {o : Outline} {j : Nat} {row : String × NativeFunction}
    (held : o.catalog.rows[j]? = some row) : row.2.sequenceId = .ofNat j := by
  rw [rows, List.getElem?_map, Option.map_eq_some_iff] at held
  obtain ⟨entry, listed, rfl⟩ := held
  exact sequenceId_eq (ids_catalog o) listed

/-- If there are places for all, it holds the function of that place. -/
theorem place_row {o : Outline} (few : o.functionCount < UInt32.size) {j : Nat}
    {row : String × NativeFunction} (held : o.catalog.rows[j]? = some row) :
    row.2.sequenceId.toNat = j := by
  have inside := (List.getElem?_eq_some_iff.mp held).1
  rw [length_rows, functionCount_catalog] at inside
  rw [sequenceId_row held, UInt32.toNat_ofNat_of_lt' (Nat.lt_trans inside few)]

/-! ## Insertion -/

/-- An outline before and after some records were inserted under the name of a namespace, the first
of them at a place of the whole. -/
inductive Inserted (receiver : String) (added : List (String × FunctionRecord)) :
    Outline → Outline → Nat → Prop
  /-- Between the records of a namespace. -/
  | records (front back : Outline) (before after : List (String × FunctionRecord)) :
      Inserted receiver added (front ++ (receiver, before ++ after) :: back)
        (front ++ (receiver, before ++ added ++ after) :: back)
        (front.functionCount + before.length)
  /-- As a namespace of their own. -/
  | alone (front back : Outline) :
      Inserted receiver added (front ++ back) (front ++ (receiver, added) :: back)
        front.functionCount

variable {receiver : String} {added : List (String × FunctionRecord)} {o o' : Outline} {k : Nat}

/-- The rows before the place stay, those behind it are moved on, and the new ones come between. -/
theorem Inserted.rows (h : Inserted receiver added o o' k) :
    ∃ before after, before.length = k ∧ o.catalog.rows = before ++ after ∧
      o'.catalog.rows = before ++ ((placed k added).map (receiver, ·) ++
        after.map (Prod.map id (·.shifted added.length))) := by
  cases h with
  | records front back before after =>
      have whole : ∀ more : List (String × FunctionRecord),
          (Outline.catalog (front ++ (receiver, before ++ more) :: back)).rows =
            (Catalog.rows ⟨front.namespacesFrom 0⟩ ++
              (placed front.functionCount before).map (receiver, ·)) ++
            ((placed (front.functionCount + before.length) more).map (receiver, ·) ++
              Catalog.rows ⟨back.namespacesFrom
                (front.functionCount + before.length + more.length)⟩) := by
        intro more
        rw [Outline.catalog, Outline.namespacesFrom_append, Nat.zero_add, rows_append,
          Outline.namespacesFrom, rows_cons, placed_append, List.map_append, List.length_append]
        simp only [List.append_assoc, Nat.add_assoc]
      refine ⟨_, _, ?_, whole after, ?_⟩
      · rw [List.length_append, length_rows_namespacesFrom, List.length_map, length_placed]
      · have place : front.functionCount + before.length + (added ++ after).length =
            front.functionCount + before.length + after.length + added.length := by
          rw [List.length_append]
          omega
        rw [List.append_assoc, whole (added ++ after), placed_append,
          placed_shift _ added.length after, place, rows_shift]
        simp only [List.map_append, List.map_map, List.append_assoc]
        rfl
  | alone front back =>
      refine ⟨Catalog.rows ⟨front.namespacesFrom 0⟩,
        Catalog.rows ⟨back.namespacesFrom front.functionCount⟩,
        length_rows_namespacesFrom front 0, ?_, ?_⟩
      · rw [Outline.catalog, Outline.namespacesFrom_append, Nat.zero_add, rows_append]
      · rw [Outline.catalog, Outline.namespacesFrom_append, Nat.zero_add, rows_append,
          Outline.namespacesFrom, rows_cons, rows_shift]

/-- A namespace that lies before the place and got no record stays as it is. -/
theorem Inserted.keeps (h : Inserted receiver added o o' k)
    (few : o.functionCount < UInt32.size) {ns : Namespace}
    (member : ns ∈ o.catalog.namespaces) (other : ns.name ≠ receiver)
    (before : ∀ f ∈ ns.functions, f.sequenceId.toNat < k) : ns ∈ o'.catalog.namespaces := by
  -- A namespace behind the place can only lie before it if it has no functions.
  have behind : ∀ {back : Outline} {first shift : Nat}, k ≤ first →
      first + back.functionCount < UInt32.size →
      ns ∈ back.namespacesFrom first → ns ∈ back.namespacesFrom (first + shift) := by
    intro back first shift later fits held
    have none : ns.functions = [] := by
      rw [List.eq_nil_iff_forall_not_mem]
      intro f listed
      have low := before f listed
      have high := le_place fits held f listed
      omega
    rw [Outline.namespacesFrom_shift]
    refine List.mem_map.mpr ⟨ns, held, ?_⟩
    rw [none, List.map_nil, ← none]
  cases h with
  | records front back first after =>
      rw [Outline.functionCount_append, Outline.functionCount_cons] at few
      dsimp only at few
      rw [Outline.catalog, Outline.namespacesFrom_append, List.mem_append,
        Outline.namespacesFrom, List.mem_cons] at member ⊢
      rcases member with held | rfl | held
      · exact .inl held
      · exact absurd rfl other
      · have moved : 0 + front.functionCount + (first ++ added ++ after).length =
            0 + front.functionCount + (first ++ after).length + added.length := by
          simp only [List.length_append]
          omega
        rw [moved]
        refine .inr (.inr (behind ?_ (by omega) held))
        rw [List.length_append]
        omega
  | alone front back =>
      rw [Outline.functionCount_append] at few
      rw [Outline.catalog, Outline.namespacesFrom_append, List.mem_append] at member ⊢
      rw [Outline.namespacesFrom, List.mem_cons]
      rcases member with held | held
      · exact .inl held
      · exact .inr (.inr (behind (by omega) (by omega) held))

/-! ## Two loads -/

/-- How a catalog and the one with some more records at a place go together. -/
structure Shifted (receiver : String) (added : List (String × FunctionRecord)) (k : Nat)
    (catalog catalog' : Catalog) : Prop where
  within : k ≤ catalog.functionCount
  total : catalog'.functionCount = catalog.functionCount + added.length
  places : ∀ (j : Nat) (row : String × NativeFunction), catalog.rows[j]? = some row →
    row.2.sequenceId.toNat = j
  places' : ∀ (j : Nat) (row : String × NativeFunction), catalog'.rows[j]? = some row →
    row.2.sequenceId.toNat = j
  before : ∀ j < k, catalog'.rows[j]? = catalog.rows[j]?
  new : ∀ i < added.length,
    catalog'.rows[k + i]? = ((placed k added)[i]?).map (receiver, ·)
  after : ∀ j ≥ k, catalog'.rows[j + added.length]? =
    catalog.rows[j]?.map fun row => (row.1, { row.2 with sequenceId := .ofNat (j + added.length) })
  /-- The file of a namespace that lies before the place and got no record stays as it is. -/
  files : ∀ options : Binding.Options, options.singleFile = false →
    ∀ ns ∈ catalog.namespaces, ns.name ≠ receiver →
      (∀ f ∈ ns.functions, f.sequenceId.toNat < k) →
      ∃ file, Binding.plannedFile? catalog options ns.name = some file ∧
        Binding.plannedFile? catalog' options ns.name = some file
  /-- No native behind the place has kept its fix-up. -/
  fixups : ∀ j ≥ k, ∀ row : String × NativeFunction, catalog.rows[j]? = some row →
    Binding.needsFixup row.2 = true → ∃ row' : String × NativeFunction,
      catalog'.rows[j + added.length]? = some row' ∧ Binding.needsFixup row'.2 = false

/-- A native that is to be fixed up at one place is not to be at another. -/
theorem needsFixup_shifted {f : NativeFunction} {shift : Nat} (moved : 0 < shift)
    (fits : shift < UInt32.size) (h : Binding.needsFixup f = true) :
    Binding.needsFixup (f.shifted shift) = false := by
  unfold Binding.needsFixup Binding.needsFixupAt at h ⊢
  have recorded := of_decide_eq_true h
  show decide (Binding.expectedId? f.name = some (f.sequenceId + .ofNat shift)) = false
  rw [recorded, decide_eq_false_iff_not, Option.some.injEq]
  intro same
  have word := congrArg UInt32.toNat same
  rw [UInt32.toNat_add, UInt32.toNat_ofNat_of_lt' fits] at word
  have id := f.sequenceId.toNat_lt_size
  have size : UInt32.size = 2 ^ 32 := rfl
  omega

theorem names_catalog (o : Outline) : o.catalog.namespaces.map (·.name) = o.map Prod.fst := by
  have names := congrArg (List.map Prod.fst) (outline_catalog o)
  rw [outline, List.map_map] at names
  exact names

theorem Inserted.shifted (h : Inserted receiver added o o' k) (nonempty : added ≠ [])
    (names : (o.map Prod.fst).Nodup) (names' : (o'.map Prod.fst).Nodup)
    (few : o'.functionCount < UInt32.size) : Shifted receiver added k o.catalog o'.catalog := by
  obtain ⟨before, after, rfl, old, new⟩ := h.rows
  have positive : 0 < added.length := List.length_pos_iff.mpr nonempty
  have total := length_rows o.catalog
  have total' := length_rows o'.catalog
  have lengthPlaced := length_placed before.length added
  rw [old, List.length_append] at total
  rw [new, List.length_append, List.length_append, List.length_map, List.length_map,
    lengthPlaced] at total'
  have sizes := functionCount_catalog o
  have sizes' := functionCount_catalog o'
  have fewBefore : o.functionCount < UInt32.size := by omega
  have moved : ∀ j ≥ before.length, o'.catalog.rows[j + added.length]? =
      o.catalog.rows[j]?.map (Prod.map id (·.shifted added.length)) := by
    intro j later
    rw [new, old, List.getElem?_append_right (by omega), List.getElem?_append_right (by
      rw [List.length_map]; omega), List.getElem?_append_right later, List.getElem?_map,
      List.length_map, lengthPlaced]
    congr 2
    omega
  refine ⟨by omega, by omega, fun j row held => place_row fewBefore held,
    fun j row held => place_row few held, ?_, ?_, ?_, ?_, ?_⟩
  · intro j earlier
    rw [new, old, List.getElem?_append_left earlier, List.getElem?_append_left earlier]
  · intro i inside
    rw [new, List.getElem?_append_right (by omega), List.getElem?_append_left (by
      rw [List.length_map]; omega), List.getElem?_map, Nat.add_sub_cancel_left]
  · intro j later
    rw [moved j later]
    cases held : o.catalog.rows[j]? with
    | none => rfl
    | some row =>
        rw [UInt32.ofNat_add, ← sequenceId_row held]
        rfl
  · intro options split ns member other earlier
    rw [← names_catalog] at names names'
    exact ⟨_, Binding.plannedFile?_split split names member,
      Binding.plannedFile?_split split names' (h.keeps fewBefore member other earlier)⟩
  · intro j later row held needed
    refine ⟨_, (moved j later).trans (by rw [held]; rfl), needsFixup_shifted positive
      (by omega) needed⟩

/-- Whatever two texts without repeated keys are loaded, if what stands in the one is what stands in
the other with some records inserted, and there are places for all of it, then the catalogs differ
as told above. -/
theorem load_inserted {text text' : String} {catalog catalog' : Catalog}
    (stands : Outline.read text.toList = .ok o) (distinct : o.Distinct)
    (loaded : load text = .ok catalog)
    (stands' : Outline.read text'.toList = .ok o') (distinct' : o'.Distinct)
    (loaded' : load text' = .ok catalog')
    (inserted : Inserted receiver added o o' k) (nonempty : added ≠ [])
    (few : catalog'.functionCount < UInt32.size) : Shifted receiver added k catalog catalog' := by
  have same' := load_verbatim stands' distinct' loaded'
  rw [same', functionCount_catalog] at few
  rw [load_verbatim stands distinct loaded, same']
  exact inserted.shifted nonempty distinct.names distinct'.names few

/-- Two namespaces with a function each, and an empty one between them. -/
def shortText : String :=
  "\x7b\"A\":\x7b\"1\":[\"F\",\"\",[],\"void\",null,null]\x7d,\"E\":\x7b\x7d,\"B\":" ++
    "\x7b\"1\":[\"H\",\"\",[],\"void\",null,null]\x7d\x7d"

/-- The same with another function in the first one. -/
def longText : String :=
  "\x7b\"A\":\x7b\"1\":[\"F\",\"\",[],\"void\",null,null]," ++
    "\"2\":[\"G\",\"\",[],\"void\",null,null]\x7d,\"E\":\x7b\x7d,\"B\":" ++
    "\x7b\"1\":[\"H\",\"\",[],\"void\",null,null]\x7d\x7d"

/-- What stands in the first of them. -/
def shortOutline : Outline :=
  [("A", [plainRecord "1" "F"]), ("E", []), ("B", [plainRecord "1" "H"])]

/-- What stands in the second one. -/
def longOutline : Outline :=
  [("A", [plainRecord "1" "F", plainRecord "2" "G"]), ("E", []), ("B", [plainRecord "1" "H"])]

theorem load_inserted_second :
    load shortText = .ok shortOutline.catalog ∧ load longText = .ok longOutline.catalog ∧
      longOutline.catalog.functionCount < UInt32.size ∧
      Shifted "A" [plainRecord "2" "G"] 1 shortOutline.catalog longOutline.catalog := by
  have loaded : load shortText = .ok shortOutline.catalog := by decide +kernel
  have loaded' : load longText = .ok longOutline.catalog := by decide +kernel
  have stands : Outline.read shortText.toList = .ok shortOutline := by decide +kernel
  have stands' : Outline.read longText.toList = .ok longOutline := by decide +kernel
  have inserted : Inserted "A" [plainRecord "2" "G"] shortOutline longOutline 1 :=
    .records [] [("E", []), ("B", [plainRecord "1" "H"])] [plainRecord "1" "F"] []
  exact ⟨loaded, loaded', by decide, load_inserted stands ⟨by decide, by decide⟩ loaded stands'
    ⟨by decide, by decide⟩ loaded' inserted (by decide) (by decide)⟩

theorem inserted_late (count : Nat) :
    Inserted "N" (fillers count) (lateOutline 0) (lateOutline count) 0 := by
  have inserted : Inserted "N" (fillers count) ([] ++ ("N", [] ++ []) :: (lateOutline 0).drop 1)
      ([] ++ ("N", [] ++ fillers count ++ []) :: (lateOutline 0).drop 1) 0 :=
    .records [] ((lateOutline 0).drop 1) [] []
  rw [List.nil_append, List.nil_append, List.append_nil, List.nil_append, List.nil_append]
    at inserted
  exact inserted

theorem row_late (count : Nat) :
    (lateOutline count).catalog.rows[count + 761]? = some ("B", lateFunction count) := by
  rw [rows, List.getElem?_map, getElem?_late]
  rfl

/-- When as many records are inserted as there are places, a native behind them has its place and its
fix-up again. -/
theorem load_inserted_around :
    let o := lateOutline 0
    let o' := lateOutline UInt32.size
    (Outline.read o.print.toList = .ok o ∧ o.Distinct ∧ load o.print = .ok o.catalog) ∧
      (Outline.read o'.print.toList = .ok o' ∧ o'.Distinct ∧ load o'.print = .ok o'.catalog) ∧
      Inserted "N" (fillers UInt32.size) o o' 0 ∧ fillers UInt32.size ≠ [] ∧
      (∃ f f' : NativeFunction, o.catalog.rows[761]? = some ("B", f) ∧
        o'.catalog.rows[UInt32.size + 761]? = some ("B", f') ∧
        f.sequenceId = 761 ∧ f'.sequenceId = 761 ∧ Binding.needsFixup f' = true) ∧
      ¬Shifted "N" (fillers UInt32.size) 0 o.catalog o'.catalog := by
  have place : (lateFunction UInt32.size).sequenceId = 761 := rfl
  have needed : Binding.needsFixup (lateFunction UInt32.size) = true := by
    rw [Binding.needsFixup, place]
    decide +kernel
  have nonempty : fillers UInt32.size ≠ [] := by
    rw [← List.length_pos_iff, length_fillers]
    decide
  refine ⟨⟨read_print _, (lateOutline_valid 0).distinct, load_print (lateOutline_valid 0)⟩,
    ⟨read_print _, (lateOutline_valid _).distinct, load_print (lateOutline_valid _)⟩,
    inserted_late UInt32.size, nonempty,
    ⟨_, _, row_late 0, row_late UInt32.size, rfl, place, needed⟩, ?_⟩
  intro shifted
  have moved := shifted.places' _ _ (row_late UInt32.size)
  rw [place] at moved
  exact absurd moved (by decide)

end Catalog

end LuaBindings
