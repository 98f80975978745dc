import StackSynth.Config.Merge
import StackSynth.Proofs.Json.Sorted

/-!
One document laid over another, told field by field: a field of the upper one is laid over that of
the lower one, and the others stay.
-/
namespace StackSynth

namespace Fields

variable {fields upper : Fields} {key k : String} {value : Json}

theorem Ascending.get?_head (ascending : Ascending ((key, value) :: fields)) :
    get? key fields = none := by
  refine get?_eq_none_iff.mpr fun entry member same => ?_
  have above := (List.pairwise_cons.mp ascending).1 entry member
  exact String.lt_irrefl key (same ▸ above)

theorem insert_first (before : ∀ entry ∈ fields, key < entry.1) (value : Json) :
    insert key value fields = (key, value) :: fields := by
  cases fields with
  | nil => rfl
  | cons first rest =>
    have less := before first List.mem_cons_self
    have other : first.1 ≠ key := fun same => String.lt_irrefl key (same ▸ less)
    rw [insert, if_neg other, if_pos less]

end Fields

namespace Json

variable {fields upper : Fields} {base doc : Json}

mutual

theorem merge_sorted : ∀ (base upper : Json), base.Sorted → upper.Sorted →
    (base.merge upper).Sorted
  | base, .obj upper, sorted, upper_sorted => by
    cases base with
    | obj fields =>
      rw [merge]
      exact merge_fields_sorted fields upper sorted upper_sorted.2
    | _ => simpa [merge] using upper_sorted
  | _, .null, _, _ => by simp [merge, Sorted]
  | _, .bool _, _, _ => by simp [merge, Sorted]
  | _, .int _, _, _ => by simp [merge, Sorted]
  | _, .float _, _, _ => by simp [merge, Sorted]
  | _, .str _, _, _ => by simp [merge, Sorted]
  | _, .arr _, _, sorted => by simpa [merge] using sorted

theorem merge_fields_sorted : ∀ (fields : Fields) (upper : List (String × Json)),
    (obj fields).Sorted → FieldsSorted upper → (obj (mergeFields fields upper)).Sorted
  | _, [], sorted, _ => by rwa [mergeFields]
  | fields, (key, value) :: rest, sorted, ⟨first, later⟩ => by
    rw [mergeFields]
    have laid : (match Fields.get? key fields with
        | some existing => merge existing value
        | none => value).Sorted := by
      split
      · next existing found =>
        have inside := (sorted_obj_iff.mp sorted).2 _ (Fields.mem_of_get? found)
        exact merge_sorted existing value inside first
      · exact first
    exact merge_fields_sorted _ rest (sorted_insert sorted key laid) later

end

/-- A value laid over another, if there is one. -/
def laidOver (base : Option Json) (upper : Json) : Json :=
  base.elim upper fun base => base.merge upper

theorem merge_fields_cons (base : Fields) (key : String) (value : Json) (rest : Fields) :
    mergeFields base ((key, value) :: rest) =
      mergeFields (Fields.insert key (laidOver (Fields.get? key base) value) base) rest := by
  rw [mergeFields]
  cases Fields.get? key base <;> rfl

theorem merge_value (plain : ∀ fields, doc ≠ .obj fields) (base : Json) : base.merge doc = doc := by
  cases doc with
  | obj fields => exact absurd rfl (plain fields)
  | _ => simp [merge]

theorem laid_over_eq_null {base : Option Json} {upper : Json} (null : laidOver base upper = .null) :
    upper = .null := by
  cases base with
  | none => exact null
  | some base =>
    cases upper with
    | null => rfl
    | obj fields => cases base <;> simp [laidOver, merge] at null
    | _ => simp [laidOver, merge] at null

theorem get?_merge_fields (ascending : upper.Ascending) (fields : Fields) (key : String) :
    Fields.get? key (mergeFields fields upper) =
      match Fields.get? key upper with
      | some value => some (laidOver (Fields.get? key fields) value)
      | none => Fields.get? key fields := by
  induction upper generalizing fields with
  | nil => rw [mergeFields]; rfl
  | cons entry rest ih =>
    obtain ⟨k, v⟩ := entry
    rw [merge_fields_cons, ih (List.pairwise_cons.mp ascending).2, Fields.get?_insert, Fields.get?]
    by_cases same : k = key
    · subst same
      rw [ascending.get?_head]
      simp
    · simp only [if_neg same]

theorem field_merge (ascending : upper.Ascending) (fields : Fields) (key : String) :
    (merge (.obj fields) (.obj upper)).field? key =
      match (obj upper).field? key with
      | some value => some (laidOver ((obj fields).field? key) value)
      | none => (obj fields).field? key := by
  rw [merge]
  exact get?_merge_fields ascending fields key

/-! Documents without some of their fields. -/

/-- Those fields that are to be kept, with their values changed. -/
abbrev pruneFields (keep : String → Option (Json → Json)) (fields : Fields) : Fields :=
  fields.filterMap fun field => (keep field.1).map fun f => (field.1, f field.2)

/-- An object with such fields only; what is no object stays. -/
def prune (keep : String → Option (Json → Json)) : Json → Json
  | .obj fields => .obj (pruneFields keep fields)
  | value => value

variable {keep : String → Option (Json → Json)} {f : Json → Json} {key : String}

theorem get?_prune_fields (kept : keep key = some f) (fields : Fields) :
    Fields.get? key (pruneFields keep fields) = (Fields.get? key fields).map f := by
  induction fields with
  | nil => rfl
  | cons field rest ih =>
    obtain ⟨k, v⟩ := field
    by_cases same : k = key
    · subst same
      simp [Fields.get?, kept]
    · cases others : keep k with
      | none => simpa [others, Fields.get?, same] using ih
      | some g => simpa [others, Fields.get?, same] using ih

/-- By induction on the fields, up to where the new one belongs. -/
theorem prune_fields_insert (ascending : fields.Ascending) (key : String) (value : Json) :
    pruneFields keep (Fields.insert key value fields) =
      match keep key with
      | some f => Fields.insert key (f value) (pruneFields keep fields)
      | none => pruneFields keep fields := by
  induction fields with
  | nil => cases kept : keep key <;> simp [Fields.insert, kept]
  | cons field rest ih =>
    obtain ⟨k, v⟩ := field
    obtain ⟨least, later⟩ := List.pairwise_cons.mp ascending
    rw [Fields.insert]
    split
    · next same =>
      subst same
      cases kept : keep k <;> simp [kept, Fields.insert]
    · next other =>
      split
      · next less =>
        cases kept : keep key with
        | none => simp [kept]
        | some f =>
          have above : ∀ entry ∈ pruneFields keep ((k, v) :: rest), key < entry.1 := by
            intro entry member
            obtain ⟨old, listed, made⟩ := List.mem_filterMap.mp member
            obtain ⟨g, _, rfl⟩ := Option.map_eq_some_iff.mp made
            rcases List.mem_cons.mp listed with rfl | inside
            · exact less
            · exact String.lt_trans less (least old inside)
          simp only [Fields.insert_first above]
          simp [kept]
      · next not_less =>
        cases kept : keep k with
        | none => simpa [kept] using ih later
        | some g =>
          cases new : keep key with
          | none => simpa [kept, new] using ih later
          | some f => simpa [kept, new, Fields.insert, other, not_less] using ih later

/-- What is kept changes in step with merging. -/
def Commutes (keep : String → Option (Json → Json)) : Prop :=
  ∀ key f, keep key = some f → ∀ base upper : Json, base.Sorted → upper.Sorted →
    f (base.merge upper) = (f base).merge (f upper)

theorem prune_merge_fields (commutes : Commutes keep) (sorted : (obj fields).Sorted)
    (upper_sorted : (obj upper).Sorted) :
    pruneFields keep (mergeFields fields upper) =
      mergeFields (pruneFields keep fields) (pruneFields keep upper) := by
  induction upper generalizing fields with
  | nil => simp [mergeFields]
  | cons field rest ih =>
    obtain ⟨key, value⟩ := field
    obtain ⟨value_sorted, rest_sorted⟩ := upper_sorted.2
    have later : (obj rest).Sorted := ⟨(List.pairwise_cons.mp upper_sorted.1).2, rest_sorted⟩
    have inside : ∀ existing, Fields.get? key fields = some existing → existing.Sorted :=
      fun existing found => (sorted_obj_iff.mp sorted).2 _ (Fields.mem_of_get? found)
    have laid : (laidOver (Fields.get? key fields) value).Sorted := by
      cases found : Fields.get? key fields with
      | none => exact value_sorted
      | some existing => exact merge_sorted existing value (inside existing found) value_sorted
    rw [merge_fields_cons, ih (sorted_insert sorted key laid) later, prune_fields_insert sorted.1]
    cases kept : keep key with
    | none => simp [pruneFields, kept]
    | some f =>
      have same : f (laidOver (Fields.get? key fields) value) =
          laidOver (Fields.get? key (pruneFields keep fields)) (f value) := by
        rw [get?_prune_fields kept]
        cases found : Fields.get? key fields with
        | none => rfl
        | some existing =>
          exact commutes key f kept existing value (inside existing found) value_sorted
      simp only [pruneFields, List.filterMap_cons, kept, Option.map_some, merge_fields_cons, same]

theorem prune_merge (commutes : Commutes keep) (base upper : Json) (sorted : base.Sorted)
    (upper_sorted : upper.Sorted) :
    (base.merge upper).prune keep = (base.prune keep).merge (upper.prune keep) := by
  cases upper with
  | obj upper =>
    cases base with
    | obj fields =>
      simp only [merge, prune]
      exact congrArg obj (prune_merge_fields commutes sorted upper_sorted)
    | _ => simp [merge, prune]
  | _ => simp [merge, prune]

end Json

end StackSynth
