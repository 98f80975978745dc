import StackSynth.Proofs.Json.Sorted
import StackSynth.Toml.Reader

/-!
What is read of a TOML text holds every key of an object once, in ascending order. So do the values
in the tables that it is read into.
-/
namespace StackSynth.Toml

mutual

/-- All values at the leaves hold every key once. -/
def Node.Sorted : Node → Prop
  | .leaf value => value.Sorted
  | .table _ _ entries => EntriesSorted entries
  | .tables items => ItemsSorted items

def EntriesSorted : List (String × Node) → Prop
  | [] => True
  | (_, node) :: rest => node.Sorted ∧ EntriesSorted rest

def ItemsSorted : List (List (String × Node)) → Prop
  | [] => True
  | entries :: rest => EntriesSorted entries ∧ ItemsSorted rest

end

variable {entries : Entries} {key : String} {node : Node} {t t' : Table} {v : Json}

theorem entries_sorted_iff : EntriesSorted entries ↔ ∀ entry ∈ entries, entry.2.Sorted := by
  induction entries with
  | nil => simp [EntriesSorted]
  | cons entry rest ih => rw [EntriesSorted, ih, List.forall_mem_cons]

mutual

theorem Node.json_sorted : ∀ node : Node, node.Sorted → node.toJson.Sorted
  | .leaf _, sorted => sorted
  | .table _ _ entries, sorted => by
    rw [Node.toJson]
    exact Json.sorted_object (entries_json_sorted entries sorted)
  | .tables items, sorted => by
    rw [Node.toJson, Json.sorted_arr_iff]
    intro item member
    exact items_json_sorted items sorted item (List.mem_reverse.mp member)

theorem entries_json_sorted : ∀ entries : List (String × Node), EntriesSorted entries →
    ∀ entry ∈ entriesJson entries, entry.2.Sorted
  | [], _ => List.forall_mem_nil _
  | (_, node) :: rest, sorted => List.forall_mem_cons.mpr
    ⟨node.json_sorted sorted.1, entries_json_sorted rest sorted.2⟩

theorem items_json_sorted : ∀ items : List (List (String × Node)), ItemsSorted items →
    ∀ item ∈ itemsJson items, item.Sorted
  | [], _ => List.forall_mem_nil _
  | entries :: rest, sorted => List.forall_mem_cons.mpr
    ⟨Json.sorted_object (entries_json_sorted entries sorted.1), items_json_sorted rest sorted.2⟩

end

theorem find_sorted (sorted : EntriesSorted entries) (found : find? key entries = some node) :
    node.Sorted := by
  obtain ⟨entry, listed, rfl⟩ := Option.map_eq_some_iff.mp found
  exact entries_sorted_iff.mp sorted entry (List.mem_of_find?_eq_some listed)

theorem append_sorted (sorted : EntriesSorted entries) (key : String) (new : node.Sorted) :
    EntriesSorted (entries ++ [(key, node)]) := by
  refine entries_sorted_iff.mpr fun entry member => ?_
  rcases List.mem_append.mp member with before | last
  · exact entries_sorted_iff.mp sorted entry before
  · cases List.mem_singleton.mp last
    exact new

theorem replace_sorted (sorted : EntriesSorted entries) (key : String) (new : node.Sorted) :
    EntriesSorted (replace key node entries) := by
  rw [replace]
  split
  · refine entries_sorted_iff.mpr fun entry member => ?_
    obtain ⟨old, listed, rfl⟩ := List.mem_map.mp member
    split
    · exact new
    · exact entries_sorted_iff.mp sorted old listed
  · exact append_sorted sorted key new

/-- A change of tables that keeps the values in order. -/
def Keeps (change : Table → Option Table) : Prop :=
  ∀ t t', EntriesSorted t.entries → change t = some t' → EntriesSorted t'.entries

theorem descend_keeps {dotted : Bool} {change : Table → Option Table} (keeps : Keeps change)
    (path : List String) : Keeps (descend dotted change path) := by
  induction path with
  | nil => exact keeps
  | cons key path ih =>
    intro t t' sorted made
    have found : ((find? key t.entries).getD (.table true dotted [])).Sorted := by
      cases there : find? key t.entries with
      | none => trivial
      | some node => exact find_sorted sorted there
    rw [descend] at made
    split at made
    · cases made
    · next implicitly wasDotted entries same =>
      rw [same] at found
      split at made
      · cases made
      · simp only [Option.bind_eq_bind, Option.bind_eq_some_iff] at made
        obtain ⟨inner, changed, made⟩ := made
        cases made
        exact replace_sorted sorted key (ih ⟨implicitly, wasDotted, entries⟩ inner found changed)
    · next last before same =>
      rw [same] at found
      simp only [Option.bind_eq_bind, Option.bind_eq_some_iff] at made
      obtain ⟨inner, changed, made⟩ := made
      cases made
      exact replace_sorted sorted key
        (And.intro (ih ⟨false, false, last⟩ inner found.1 changed) found.2)
    · cases made

theorem define_keeps (isDirect : Bool) (key : String) (sorted : v.Sorted) :
    Keeps (define isDirect key v) := by
  intro t t' before made
  rw [define] at made
  split at made
  · cases made
  · split at made
    · cases made
    · cases made
      exact append_sorted before key sorted

theorem assign_keeps (keys : List String) (sorted : v.Sorted) : Keeps (assign keys v) := by
  intro t t' before made
  rw [assign] at made
  split at made
  · cases made
  · exact descend_keeps (define_keeps _ _ sorted) _ t t' before made

theorem open_table_keeps (key : String) : Keeps (openTable key) := by
  intro t t' sorted made
  rw [openTable] at made
  split at made
  · cases made
    exact append_sorted sorted key trivial
  · next entries found =>
    cases made
    have inner : (Node.table true false entries).Sorted := find_sorted sorted found
    exact replace_sorted sorted key inner
  · cases made

theorem open_item_keeps (key : String) : Keeps (openItem key) := by
  intro t t' sorted made
  rw [openItem] at made
  split at made
  · cases made
    exact append_sorted sorted key ⟨trivial, trivial⟩
  · next items found =>
    cases made
    exact replace_sorted sorted key (And.intro trivial (find_sorted sorted found))
  · cases made

/-! Values. -/

theorem integer_sorted {n : Int} (made : integerOf n = some v) : v.Sorted := by
  rw [integerOf] at made
  split at made
  · obtain ⟨_, _, rfl⟩ := Option.map_eq_some_iff.mp made
    trivial
  · cases made

theorem in_base_sorted {base : Nat} {cs rest : List Char}
    (made : inBase base cs = some (v, rest)) : v.Sorted := by
  simp only [inBase, Option.bind_eq_bind, Option.bind_eq_some_iff] at made
  obtain ⟨_, _, _, _, _, made, same⟩ := made
  cases same
  exact integer_sorted made

theorem decimal_sorted {sign cs rest : List Char}
    (made : decimalNumber sign cs = some (v, rest)) : v.Sorted := by
  simp only [decimalNumber, Option.bind_eq_bind, Option.bind_eq_some_iff] at made
  obtain ⟨_, _, _, _, _, _, made⟩ := made
  split at made
  · simp only [Option.bind_eq_some_iff] at made
    obtain ⟨_, _, _, made, same⟩ := made
    cases same
    exact integer_sorted made
  · split at made
    · cases made
      trivial
    · split at made <;> cases made
      trivial
    · cases made

theorem number_sorted {cs rest : List Char} (made : number cs = some (v, rest)) :
    v.Sorted := by
  unfold number at made
  split at made
  · exact in_base_sorted made
  · exact in_base_sorted made
  · exact in_base_sorted made
  · simp only at made
    split at made
    · cases made
      trivial
    · split at made
      · cases made
        trivial
      · exact decimal_sorted made

theorem date_sorted (cs rest : List Char) : (dateValue cs rest).Sorted :=
  Json.sorted_obj_iff.mpr ⟨List.pairwise_singleton _ _, by simp [Json.Sorted]⟩

mutual

theorem value_sorted : ∀ (fuel depth : Nat) (cs : List Char) {v : Json} {rest : List Char},
    value fuel depth cs = some (v, rest) → v.Sorted
  | 0, _, _, _, _, made => by cases made
  | fuel + 1, depth, cs, v, rest, made => by
    unfold value at made
    simp only at made
    split at made
    · split at made
      · cases made
      · simp only [Option.bind_eq_bind, Option.bind_eq_some_iff] at made
        obtain ⟨⟨items, left⟩, read, made⟩ := made
        cases made
        exact Json.sorted_arr_iff.mpr (items_sorted fuel _ _ read)
    · split at made
      · cases made
      · split at made
        · cases made
          exact Json.sorted_obj_iff.mpr ⟨List.Pairwise.nil, List.forall_mem_nil _⟩
        · simp only [Option.bind_eq_bind, Option.bind_eq_some_iff] at made
          obtain ⟨⟨t, left⟩, read, made⟩ := made
          cases made
          have sorted := fields_sorted fuel _ ⟨false, false, []⟩ _ trivial read
          exact Json.sorted_object (entries_json_sorted _ sorted)
    iterate 4
      obtain ⟨_, _, same⟩ := Option.map_eq_some_iff.mp made
      cases same
      trivial
    · split at made
      · cases made
        exact date_sorted _ _
      · exact number_sorted made

theorem items_sorted : ∀ (fuel depth : Nat) (cs : List Char) {items : List Json}
    {rest : List Char}, arrayItems fuel depth cs = some (items, rest) →
      ∀ item ∈ items, item.Sorted
  | 0, _, _, _, _, made => by cases made
  | fuel + 1, depth, cs, items, rest, made => by
    rw [arrayItems] at made
    split at made
    · cases made
      exact List.forall_mem_nil _
    · simp only [Option.bind_eq_bind, Option.bind_eq_some_iff] at made
      obtain ⟨⟨item, left⟩, first, made⟩ := made
      have sorted := value_sorted fuel _ _ first
      simp only at made
      split at made
      · cases made
        exact List.forall_mem_singleton.mpr sorted
      · simp only [Option.bind_eq_some_iff] at made
        obtain ⟨⟨more, left⟩, later, made⟩ := made
        cases made
        exact List.forall_mem_cons.mpr ⟨sorted, items_sorted fuel _ _ later⟩
      · cases made

theorem fields_sorted : ∀ (fuel depth : Nat) (t : Table) (cs : List Char) {t' : Table}
    {rest : List Char}, EntriesSorted t.entries → inlineFields fuel depth t cs = some (t', rest) →
      EntriesSorted t'.entries
  | 0, _, _, _, _, _, _, made => by cases made
  | fuel + 1, depth, t, cs, t', rest, before, made => by
    simp only [inlineFields, Option.bind_eq_bind, Option.bind_eq_some_iff] at made
    obtain ⟨⟨keys, left⟩, _, made⟩ := made
    simp only at made
    split at made
    · simp only [Option.bind_eq_some_iff] at made
      obtain ⟨⟨v, left⟩, first, t₁, assigned, made⟩ := made
      have sorted := assign_keeps keys (value_sorted fuel _ _ first) t t₁ before assigned
      split at made
      · cases made
        exact sorted
      · exact fields_sorted fuel _ t₁ _ sorted made
      · cases made
    · cases made

end

/-! Documents. -/

theorem open_sorted {s s' : State} {isItem : Bool} {keys : List String}
    (before : EntriesSorted s.root.entries) (made : s.open isItem keys = some s') :
    EntriesSorted s'.root.entries := by
  rw [State.open] at made
  split at made
  · cases made
  · next last _ _ =>
    simp only [Option.bind_eq_bind, Option.bind_eq_some_iff] at made
    obtain ⟨root, changed, made⟩ := made
    cases made
    have opened : Keeps (if isItem = true then openItem last else openTable last) := by
      split
      · exact open_item_keeps last
      · exact open_table_keeps last
    exact descend_keeps opened _ _ _ before changed

theorem state_assign_sorted {s s' : State} {keys : List String}
    (before : EntriesSorted s.root.entries) (sorted : v.Sorted)
    (made : s.assign keys v = some s') : EntriesSorted s'.root.entries := by
  simp only [State.assign, Option.bind_eq_bind, Option.bind_eq_some_iff] at made
  obtain ⟨root, changed, made⟩ := made
  cases made
  exact descend_keeps (assign_keeps keys sorted) _ _ _ before changed

/-- By induction on the lines. -/
theorem lines_sorted {fuel : Nat} {s s' : State} {cs : List Char}
    (before : EntriesSorted s.root.entries) (made : lines fuel s cs = some s') :
    EntriesSorted s'.root.entries := by
  induction fuel generalizing s cs with
  | zero => cases made
  | succ fuel ih =>
    rw [lines] at made
    split at made
    · cases made
      exact before
    · simp only [Option.bind_eq_bind, Option.bind_eq_some_iff] at made
      obtain ⟨_, _, s₁, opened, _, _, made⟩ := made
      exact ih (open_sorted before opened) made
    · simp only [Option.bind_eq_bind, Option.bind_eq_some_iff] at made
      obtain ⟨⟨keys, left⟩, _, made⟩ := made
      simp only at made
      split at made
      · simp only [Option.bind_eq_some_iff] at made
        obtain ⟨⟨v, left⟩, read, s₁, assigned, _, _, made⟩ := made
        exact ih (state_assign_sorted before (value_sorted _ _ _ read) assigned) made
      · cases made

theorem parsed_sorted {text : String} (made : parse? text = some v) : v.Sorted := by
  simp only [parse?, Option.bind_eq_bind, Option.bind_eq_some_iff] at made
  obtain ⟨s, read, made⟩ := made
  cases made
  have start : EntriesSorted [] := trivial
  exact Json.sorted_object (entries_json_sorted _ (lines_sorted start read))

end StackSynth.Toml
