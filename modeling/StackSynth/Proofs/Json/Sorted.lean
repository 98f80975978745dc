import StackSynth.Json.Tree
import StackSynth.Proofs.Template.References

/-!
What is read of a JSON text holds every key of an object once, in ascending order.
-/
namespace StackSynth

namespace Fields

variable {fields : Fields} {entries : List (String × Json)} {key : String} {value : Json}

theorem ascending_insert (ascending : fields.Ascending) (key : String) (value : Json) :
    (insert key value fields).Ascending := by
  induction fields with
  | nil => exact List.pairwise_singleton _ _
  | cons first rest ih =>
    obtain ⟨k, v⟩ := first
    obtain ⟨least, later⟩ := List.pairwise_cons.mp ascending
    simp only [insert]
    split
    · next same =>
      subst same
      exact List.pairwise_cons.mpr ⟨least, later⟩
    · next other =>
      split
      · next before =>
        refine List.pairwise_cons.mpr ⟨fun entry member => ?_, ascending⟩
        rcases List.mem_cons.mp member with rfl | inside
        · exact before
        · exact String.lt_trans before (least entry inside)
      · next after =>
        refine List.pairwise_cons.mpr ⟨fun entry member => ?_, ih later⟩
        rcases mem_insert member with rfl | inside
        · exact Std.lt_of_le_of_ne (Std.not_lt.mp after) other
        · exact least entry inside

theorem ascending_ofList (entries : List (String × Json)) : (ofList entries).Ascending := by
  have fold : ∀ fields : Fields, fields.Ascending →
      Ascending (entries.foldl (fun fields entry => insert entry.1 entry.2 fields) fields) := by
    induction entries with
    | nil => exact fun _ ascending => ascending
    | cons entry rest ih => exact fun _ ascending => ih _ (ascending_insert ascending _ _)
  exact fold [] List.Pairwise.nil

theorem mem_ofList {entry : String × Json} (member : entry ∈ ofList entries) : entry ∈ entries := by
  have fold : ∀ fields : Fields,
      entry ∈ entries.foldl (fun fields entry => insert entry.1 entry.2 fields) fields →
        entry ∈ fields ∨ entry ∈ entries := by
    clear member
    induction entries with
    | nil => exact fun _ member => .inl member
    | cons first rest ih =>
      intro fields member
      rcases ih _ member with inside | later
      · rcases mem_insert inside with rfl | before
        · exact .inr List.mem_cons_self
        · exact .inl before
      · exact .inr (List.mem_cons_of_mem _ later)
  exact (fold [] member).resolve_left List.not_mem_nil

end Fields

namespace Json

variable {fields : Fields} {entries : List (String × Json)} {items : List Json} {value : Json}

theorem fields_sorted_iff : FieldsSorted fields ↔ ∀ field ∈ fields, field.2.Sorted := by
  induction fields with
  | nil => simp [FieldsSorted]
  | cons field rest ih => rw [FieldsSorted, ih, List.forall_mem_cons]

theorem all_sorted_iff : AllSorted items ↔ ∀ item ∈ items, item.Sorted := by
  induction items with
  | nil => simp [AllSorted]
  | cons item rest ih => rw [AllSorted, ih, List.forall_mem_cons]

theorem sorted_arr_iff : (arr items).Sorted ↔ ∀ item ∈ items, item.Sorted := all_sorted_iff

theorem sorted_obj_iff :
    (obj fields).Sorted ↔ fields.Ascending ∧ ∀ field ∈ fields, field.2.Sorted :=
  and_congr_right fun _ => fields_sorted_iff

theorem field_sorted {key : String} {doc : Json} (sorted : doc.Sorted)
    (found : doc.field? key = some value) : value.Sorted := by
  cases doc with
  | obj fields => exact (sorted_obj_iff.mp sorted).2 _ (Fields.mem_of_get? found)
  | _ => cases found

theorem sorted_object (sorted : ∀ entry ∈ entries, entry.2.Sorted) : (object entries).Sorted :=
  sorted_obj_iff.mpr ⟨Fields.ascending_ofList entries,
    fun entry member => sorted entry (Fields.mem_ofList member)⟩

theorem sorted_insert (sorted : (obj fields).Sorted) (key : String) (value_sorted : value.Sorted) :
    (obj (Fields.insert key value fields)).Sorted := by
  obtain ⟨ascending, each⟩ := sorted_obj_iff.mp sorted
  refine sorted_obj_iff.mpr ⟨Fields.ascending_insert ascending key value, fun entry member => ?_⟩
  rcases Fields.mem_insert member with rfl | before
  · exact value_sorted
  · exact each entry before

end Json

namespace NumberLiteral

theorem assemble_sorted {negative : Bool} {significand : Nat} {e : Int} {value : Json}
    (made : assemble negative significand e = some value) : value.Sorted := by
  simp only [assemble, Option.bind_eq_bind, Option.bind_eq_some_iff] at made
  obtain ⟨_, _, _, _, made⟩ := made
  cases made
  trivial

theorem with_power_sorted {negative : Bool} {significand : Nat} {e : Int}
    {power : Option (Bool × List Nat)} {value : Json}
    (made : withPower negative significand e power = some value) : value.Sorted := by
  cases power with
  | none => exact assemble_sorted made
  | some power =>
    simp only [withPower] at made
    split at made
    · exact assemble_sorted made
    · split at made
      · exact assemble_sorted made
      · cases made

theorem value_sorted {literal : NumberLiteral} {value : Json}
    (made : literal.value = some value) : value.Sorted := by
  simp only [NumberLiteral.value] at made
  split at made
  · split at made
    · split at made
      · exact assemble_sorted made
      · split at made
        · cases made
          trivial
        · exact assemble_sorted made
    · obtain ⟨n, _, rfl⟩ := Option.map_eq_some_iff.mp made
      trivial
  · exact with_power_sorted made
  · exact with_power_sorted made

end NumberLiteral

namespace JsonTree

mutual

theorem value_sorted : ∀ (depth : Nat) (tree : JsonTree) {value : Json},
    tree.toJson? depth = some value → value.Sorted
  | _, .null, _, made => by cases made; trivial
  | _, .bool _, _, made => by cases made; trivial
  | _, .number _, _, made => NumberLiteral.value_sorted (by simpa [toJson?] using made)
  | _, .str _, _, made => by
    simp only [toJson?, Option.map_eq_some_iff] at made
    obtain ⟨_, _, rfl⟩ := made
    trivial
  | 0, .arr _, _, made => by simp [toJson?] at made
  | depth + 1, .arr items, _, made => by
    simp only [toJson?, Option.map_eq_some_iff] at made
    obtain ⟨values, made, rfl⟩ := made
    exact items_sorted depth items made
  | 0, .obj _, _, made => by simp [toJson?] at made
  | depth + 1, .obj fields, _, made => by
    simp only [toJson?, Option.map_eq_some_iff] at made
    obtain ⟨values, made, rfl⟩ := made
    exact fields_sorted depth fields [] ⟨List.Pairwise.nil, trivial⟩ made

theorem items_sorted : ∀ (depth : Nat) (items : List JsonTree) {values : List Json},
    toJsonItems? depth items = some values → Json.AllSorted values
  | _, [], _, made => by cases made; trivial
  | depth, item :: rest, _, made => by
    simp only [toJsonItems?, Option.bind_eq_bind, Option.bind_eq_some_iff] at made
    obtain ⟨value, first, values, later, made⟩ := made
    cases made
    exact ⟨value_sorted depth item first, items_sorted depth rest later⟩

theorem fields_sorted : ∀ (depth : Nat) (fields : List (Option String × JsonTree)) (done : Fields)
    {values : Fields}, (Json.obj done).Sorted → toJsonFields? depth done fields = some values →
      (Json.obj values).Sorted
  | _, [], _, _, sorted, made => by cases made; exact sorted
  | depth, (key, item) :: rest, done, _, sorted, made => by
    simp only [toJsonFields?, Option.bind_eq_bind, Option.bind_eq_some_iff] at made
    obtain ⟨key, _, value, first, made⟩ := made
    have inserted := Json.sorted_insert sorted key (value_sorted depth item first)
    exact fields_sorted depth rest _ inserted made

end

end JsonTree

theorem Json.of_text_sorted {text : String} {value : Json} (made : Json.ofText? text = some value) :
    value.Sorted := by
  simp only [Json.ofText?, Option.bind_eq_bind, Option.bind_eq_some_iff] at made
  obtain ⟨tree, _, made⟩ := made
  exact tree.value_sorted _ made

end StackSynth
