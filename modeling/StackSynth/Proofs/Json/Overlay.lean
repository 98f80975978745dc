import StackSynth.Proofs.Json.Merge

/-!
One document laid over another, told path by path. What the upper one says at a path is what is found
there, what it says above hides whatever the lower one has below, and where it says nothing the lower
one is left as it is.
-/
namespace StackSynth

namespace Fields

variable {fields other : Fields} {key : String} {value : Json}

theorem Ascending.get?_eq_some_iff (ascending : fields.Ascending) :
    get? key fields = some value ↔ (key, value) ∈ fields := by
  constructor
  · exact mem_of_get?
  · intro member
    induction fields with
    | nil => cases member
    | cons entry rest ih =>
      obtain ⟨least, later⟩ := List.pairwise_cons.mp ascending
      rcases List.mem_cons.mp member with rfl | behind
      · exact if_pos rfl
      · have apart : entry.1 ≠ key := String.ne_of_lt (least (key, value) behind)
        rw [get?, if_neg apart, ih later behind]

/-- Fields in ascending order are told by what is found under each key. -/
theorem Ascending.ext (ascending : fields.Ascending) (also : other.Ascending)
    (same : ∀ key, get? key fields = get? key other) : fields = other := by
  have nodup : ∀ {a : Fields}, a.Ascending → a.Nodup := by
    intro a sorted
    exact List.Pairwise.imp (fun less => mt (congrArg Prod.fst) (String.ne_of_lt less)) sorted
  have perm : fields.Perm other := by
    rw [List.perm_ext_iff_of_nodup (nodup ascending) (nodup also)]
    intro (key, value)
    rw [← ascending.get?_eq_some_iff, ← also.get?_eq_some_iff, same]
  refine perm.eq_of_pairwise ?_ ascending also
  intro a b _ _ less more
  exact absurd more (String.lt_asymm less)

end Fields

namespace Json

variable {base doc upper value : Json} {fields : Fields} {path rest : List String} {key : String}

/-- The value that a path of keys leads to. -/
def at? : Json → List String → Option Json
  | doc, [] => some doc
  | doc, key :: rest => (doc.field? key).bind (at? · rest)

def IsObject (doc : Json) : Prop := ∃ fields, doc = .obj fields

theorem not_object_str (s : String) : ¬ IsObject (.str s) := by
  intro ⟨fields, same⟩
  cases same

theorem not_object_arr (items : List Json) : ¬ IsObject (.arr items) := by
  intro ⟨fields, same⟩
  cases same

/-- A path goes on behind a value that is no object. -/
def CutsOff (doc : Json) (path : List String) : Prop :=
  ∃ front back value, path = front ++ back ∧ back ≠ [] ∧ doc.at? front = some value ∧
    ¬ value.IsObject

theorem field_plain (plain : ¬ doc.IsObject) (key : String) : doc.field? key = none := by
  cases doc with
  | obj fields => exact absurd ⟨fields, rfl⟩ plain
  | _ => rfl

theorem at_plain (plain : ¬ doc.IsObject) (key : String) (rest : List String) :
    doc.at? (key :: rest) = none := by
  rw [at?, field_plain plain, Option.bind_none]

theorem not_cuts_off_nil (doc : Json) : ¬ doc.CutsOff [] := by
  rintro ⟨front, back, value, whole, more, -⟩
  exact more (List.append_eq_nil_iff.mp whole.symm).2

theorem cuts_off_plain (plain : ¬ doc.IsObject) (key : String) (rest : List String) :
    doc.CutsOff (key :: rest) := ⟨[], key :: rest, doc, rfl, List.cons_ne_nil _ _, rfl, plain⟩

/-- Below an object a path is cut off if it is below the field that it names. -/
theorem cuts_off_cons : (obj fields).CutsOff (key :: rest) ↔
    ∃ value, Fields.get? key fields = some value ∧ value.CutsOff rest := by
  constructor
  · rintro ⟨_ | ⟨first, front⟩, back, value, whole, more, found, plain⟩
    · cases found
      exact absurd ⟨fields, rfl⟩ plain
    · obtain ⟨rfl, rfl⟩ := List.cons.inj whole
      obtain ⟨inner, there, found⟩ := Option.bind_eq_some_iff.mp found
      exact ⟨inner, there, front, back, value, rfl, more, found, plain⟩
  · rintro ⟨inner, there, front, back, value, rfl, more, found, plain⟩
    exact ⟨key :: front, back, value, rfl, more, Option.bind_eq_some_iff.mpr ⟨inner, there, found⟩,
      plain⟩

theorem at_append (doc : Json) (front back : List String) :
    doc.at? (front ++ back) = (doc.at? front).bind (at? · back) := by
  induction front generalizing doc with
  | nil => rfl
  | cons key rest ih =>
    rw [List.cons_append, at?, at?, Option.bind_assoc]
    exact Option.bind_congr fun value _ => ih value

theorem at_unmentioned (found : doc.at? path = some (.obj fields))
    (absent : Fields.get? key fields = none) (rest : List String) :
    doc.at? (path ++ key :: rest) = none := by
  rw [at_append, found, Option.bind_some, at?, field?, absent, Option.bind_none]

/-- A value that is no object is not found on the way to an object, nor behind a missing field. -/
theorem not_cuts_off_unmentioned (found : doc.at? path = some (.obj fields))
    (absent : Fields.get? key fields = none) (rest : List String) :
    ¬ doc.CutsOff (path ++ key :: rest) := by
  rintro ⟨front, back, value, whole, -, reached, plain⟩
  have elsewhere : front ≠ path := by
    rintro rfl
    cases found.symm.trans reached
    exact plain ⟨fields, rfl⟩
  rcases List.append_eq_append_iff.mp whole with ⟨between, same, behind⟩ | ⟨between, same, -⟩
  · cases between with
    | nil => exact elsewhere (by simpa using same)
    | cons next between =>
      obtain ⟨rfl, -⟩ := List.cons.inj behind
      rw [same, at_unmentioned found absent] at reached
      cases reached
  · cases between with
    | nil => exact elsewhere (by simpa using same.symm)
    | cons next between =>
      rw [same, at_append, reached, Option.bind_some, at_plain plain] at found
      cases found

theorem merge_plain (plain : ¬ upper.IsObject) (base : Json) : base.merge upper = upper :=
  merge_value (fun fields same => plain ⟨fields, same⟩) base

theorem laid_over_eq (base : Option Json) (upper : Json) :
    laidOver base upper = (base.getD .null).merge upper := by
  cases base with
  | some base => rfl
  | none => cases upper <;> simp [laidOver, merge]

/-- What is no object has no fields to be laid over. -/
theorem field_merge_object (ascending : fields.Ascending) (base : Json) (key : String) :
    (base.merge (.obj fields)).field? key =
      match Fields.get? key fields with
      | some value => some (laidOver (base.field? key) value)
      | none => base.field? key := by
  cases base with
  | obj lower => exact field_merge ascending lower key
  | _ => cases found : Fields.get? key fields <;> simp [merge, field?, found, laidOver]

theorem at_merge_cons (ascending : fields.Ascending) (base : Json) (key : String)
    (rest : List String) :
    (base.merge (.obj fields)).at? (key :: rest) =
      match Fields.get? key fields with
      | some value => (laidOver (base.field? key) value).at? rest
      | none => base.at? (key :: rest) := by
  rw [at?, field_merge_object ascending]
  cases Fields.get? key fields with
  | none => rfl
  | some value => rfl

/-- Below what is not there is nothing that a value could be laid over. -/
theorem laid_over_at (base : Option Json) (rest : List String) (value : Json) :
    laidOver ((base.getD .null).at? rest) value = laidOver (base.bind (at? · rest)) value := by
  cases base with
  | some base => rfl
  | none =>
    cases rest with
    | nil => exact (laid_over_eq none value).symm
    | cons key rest => rfl

/-- What the upper document has at a path is laid over what the lower one has there. -/
theorem at_merge_found (sorted : upper.Sorted) (base : Json) (found : upper.at? path = some value) :
    (base.merge upper).at? path = some (laidOver (base.at? path) value) := by
  induction path generalizing base upper with
  | nil =>
    cases found
    rfl
  | cons key rest ih =>
    obtain ⟨inner, there, behind⟩ := Option.bind_eq_some_iff.mp found
    cases upper with
    | obj fields =>
      have listed : Fields.get? key fields = some inner := there
      rw [at_merge_cons sorted.1, listed]
      simp only [laid_over_eq (base.field? key)]
      rw [ih (field_sorted sorted listed) _ behind, laid_over_at]
      rfl
    | _ => cases there

theorem at_merge_cut (sorted : upper.Sorted) (base : Json) (cut : upper.CutsOff path) :
    (base.merge upper).at? path = none := by
  induction path generalizing base upper with
  | nil => exact absurd cut (not_cuts_off_nil upper)
  | cons key rest ih =>
    by_cases object : upper.IsObject
    · obtain ⟨fields, rfl⟩ := object
      obtain ⟨value, listed, cut⟩ := cuts_off_cons.mp cut
      rw [at_merge_cons sorted.1, listed]
      simp only [laid_over_eq]
      exact ih (field_sorted sorted listed) _ cut
    · rw [merge_plain object, at_plain object]

theorem at_merge_kept (sorted : upper.Sorted) (base : Json) (absent : upper.at? path = none)
    (reached : ¬ upper.CutsOff path) : (base.merge upper).at? path = base.at? path := by
  induction path generalizing base upper with
  | nil => cases absent
  | cons key rest ih =>
    by_cases object : upper.IsObject
    · obtain ⟨fields, rfl⟩ := object
      rw [at_merge_cons sorted.1]
      cases listed : Fields.get? key fields with
      | none => rfl
      | some value =>
        have absent : value.at? rest = none := by simpa [at?, field?, listed] using absent
        have reached : ¬ value.CutsOff rest := fun cut =>
          reached (cuts_off_cons.mpr ⟨value, listed, cut⟩)
        simp only [laid_over_eq]
        rw [ih (field_sorted sorted listed) _ absent reached, at?]
        -- a path that ends here would lead to a value of the upper document
        cases rest with
        | nil => cases absent
        | cons next rest => cases base.field? key <;> rfl
    · exact absurd (cuts_off_plain object key rest) reached

theorem merge_object (object : upper.IsObject) (base : Json) : (base.merge upper).IsObject := by
  obtain ⟨fields, rfl⟩ := object
  cases base <;> simp [merge, IsObject]

/-- Objects that agree field by field are the same. -/
theorem object_ext (object : base.IsObject) (also : upper.IsObject) (sorted : base.Sorted)
    (upper_sorted : upper.Sorted) (same : ∀ key, base.field? key = upper.field? key) :
    base = upper := by
  obtain ⟨lower, rfl⟩ := object
  obtain ⟨fields, rfl⟩ := also
  exact congrArg obj (Fields.Ascending.ext sorted.1 upper_sorted.1 same)

theorem smaller_of_get? (listed : Fields.get? key fields = some value) :
    sizeOf value < sizeOf (obj fields) := by
  have smaller := List.sizeOf_lt_of_mem (Fields.mem_of_get? listed)
  simp only [obj.sizeOf_spec, Prod.mk.sizeOf_spec] at smaller ⊢
  omega

/-- Field by field, and within a field by the size of what is laid over it. -/
theorem merge_merge (base upper : Json) (sorted : base.Sorted) (upper_sorted : upper.Sorted) :
    (base.merge upper).merge upper = base.merge upper := by
  by_cases object : upper.IsObject
  · have once := merge_object object base
    have once_sorted := merge_sorted base upper sorted upper_sorted
    have twice := merge_object object (base.merge upper)
    have twice_sorted := merge_sorted _ upper once_sorted upper_sorted
    refine object_ext twice once twice_sorted once_sorted fun key => ?_
    obtain ⟨fields, rfl⟩ := object
    rw [field_merge_object upper_sorted.1, field_merge_object upper_sorted.1]
    cases listed : Fields.get? key fields with
    | none => rfl
    | some value =>
      have under_sorted : ((base.field? key).getD .null).Sorted := by
        cases found : base.field? key with
        | none => trivial
        | some under => exact field_sorted sorted found
      have smaller := smaller_of_get? listed
      have again := merge_merge _ value under_sorted (field_sorted upper_sorted listed)
      simp only [laid_over_eq, Option.getD_some, again]
  · rw [merge_plain object, merge_plain object]
termination_by sizeOf upper

/-- One document laid over another: its values that are no objects are found where it has them and cut
off what was below, where it has objects there are objects, and anywhere else the value of the other
one is found. Laid over it once more it changes nothing; what it does not mention stays, and its lists
come as a whole. -/
theorem overlay_looked_up (sorted : base.Sorted) (upper_sorted : upper.Sorted) :
    (∀ path,
      (∀ value, upper.at? path = some value → ¬ value.IsObject →
        (base.merge upper).at? path = some value) ∧
      (∀ value, upper.at? path = some value → value.IsObject →
        ∃ merged, (base.merge upper).at? path = some merged ∧ merged.IsObject) ∧
      (upper.CutsOff path → (base.merge upper).at? path = none) ∧
      (upper.at? path = none → ¬ upper.CutsOff path →
        (base.merge upper).at? path = base.at? path)) ∧
    (base.merge upper).merge upper = base.merge upper ∧
    (∀ path fields key rest, upper.at? path = some (.obj fields) → Fields.get? key fields = none →
      (base.merge upper).at? (path ++ key :: rest) = base.at? (path ++ key :: rest)) ∧
    ∀ path items, upper.at? path = some (.arr items) →
      (base.merge upper).at? path = some (.arr items) := by
  have values : ∀ path value, upper.at? path = some value → ¬ value.IsObject →
      (base.merge upper).at? path = some value := by
    intro path value found plain
    rw [at_merge_found upper_sorted base found, laid_over_eq, merge_plain plain]
  have objects : ∀ path value, upper.at? path = some value → value.IsObject →
      ∃ merged, (base.merge upper).at? path = some merged ∧ merged.IsObject := by
    intro path value found object
    have merged := merge_object object ((base.at? path).getD .null)
    rw [← laid_over_eq] at merged
    exact ⟨_, at_merge_found upper_sorted base found, merged⟩
  have unmentioned : ∀ path fields key rest, upper.at? path = some (.obj fields) →
      Fields.get? key fields = none →
      (base.merge upper).at? (path ++ key :: rest) = base.at? (path ++ key :: rest) := by
    intro path fields key rest found absent
    exact at_merge_kept upper_sorted base (at_unmentioned found absent rest)
      (not_cuts_off_unmentioned found absent rest)
  have lists : ∀ path items, upper.at? path = some (.arr items) →
      (base.merge upper).at? path = some (.arr items) := by
    intro path items found
    exact values path _ found (not_object_arr items)
  exact ⟨fun path => ⟨values path, objects path, at_merge_cut upper_sorted base,
    at_merge_kept upper_sorted base⟩, merge_merge base upper sorted upper_sorted, unmentioned, lists⟩

/-- Settings of a stack, and some that are to replace them. -/
def lowerSettings : Json := .obj [
  ("exclude", .strs ["cdk", "target"]),
  ("stack", .obj [("name", .str "Lower"), ("region", .str "us-east-1")])]

def upperSettings : Json := .obj [
  ("exclude", .strs []),
  ("stack", .obj [("region", .str "eu-west-1")])]

theorem settings_looked_up :
    lowerSettings.Sorted ∧ upperSettings.Sorted ∧
    (lowerSettings.merge upperSettings).at? ["stack", "region"] = some (.str "eu-west-1") ∧
    (lowerSettings.merge upperSettings).at? ["stack", "name"] = some (.str "Lower") ∧
    (lowerSettings.merge upperSettings).at? ["stack", "region", "zone"] = none ∧
    (lowerSettings.merge upperSettings).at? ["exclude"] = some (.arr []) ∧
    (lowerSettings.merge upperSettings).merge upperSettings =
      lowerSettings.merge upperSettings := by
  have lower : lowerSettings.Sorted := by
    simp only [lowerSettings, strs, Sorted, FieldsSorted, AllSorted, Fields.Ascending, List.map]
    decide
  have upper : upperSettings.Sorted := by
    simp only [upperSettings, strs, Sorted, FieldsSorted, AllSorted, Fields.Ascending, List.map]
    decide
  obtain ⟨laid, again, kept, lists⟩ := overlay_looked_up lower upper
  have cut : upperSettings.CutsOff ["stack", "region", "zone"] :=
    ⟨["stack", "region"], ["zone"], .str "eu-west-1", rfl, List.cons_ne_nil _ _, rfl, not_object_str _⟩
  exact ⟨lower, upper, (laid _).1 _ rfl (not_object_str _), kept ["stack"] _ "name" [] rfl rfl,
    (laid _).2.2.1 cut, lists ["exclude"] [] rfl, again⟩

end Json

end StackSynth
