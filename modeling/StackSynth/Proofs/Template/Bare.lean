import StackSynth.Proofs.Template.References

/-!
Values without their texts. What is left of a value is its structure and the references in it, and
that is all a stack looks at while it is declared and when it is synthesized.
-/
namespace StackSynth

namespace Fields

variable (f : String → Json → Json)

theorem get?_map (key : String) (fields : Fields) :
    get? key (fields.map fun entry => (entry.1, f entry.1 entry.2)) =
      (get? key fields).map (f key) := by
  induction fields with
  | nil => rfl
  | cons entry rest ih =>
    simp only [List.map_cons, get?]
    split
    · next same => subst same; rfl
    · exact ih

theorem map_insert (key : String) (value : Json) (fields : Fields) :
    (insert key value fields).map (fun entry => (entry.1, f entry.1 entry.2)) =
      insert key (f key value) (fields.map fun entry => (entry.1, f entry.1 entry.2)) := by
  induction fields with
  | nil => rfl
  | cons entry rest ih =>
    obtain ⟨k, v⟩ := entry
    simp only [insert, List.map_cons]
    split
    · rfl
    · split
      · rfl
      · rw [List.map_cons, ih]

end Fields

namespace Json

/-- The fields that are read again while a stack is declared: the names of the variables of a
container, and its ports. -/
def readKeys : List String := ["Name", "ContainerPort"]

/-- The fields that stay or go as a whole: those that make references, the one list that is as long
as the settings make it, and those that are read again. -/
def wholeKeys : List String := intrinsics ++ ["CallbackURLs"] ++ readKeys

/-- Whether a field refers to nothing, be it alone in its object or among others, and is not read
again. -/
def Silent (key : String) (value : Json) : Prop :=
  references (.obj [(key, value)]) = [] ∧ references value = [] ∧ key ∉ readKeys

instance (key : String) (value : Json) : Decidable (Silent key value) :=
  inferInstanceAs (Decidable (_ ∧ _ ∧ _))

mutual

/-- The structure of a value with its references. -/
def bare : Json → Json
  | .arr items => .arr (bareItems items)
  | .obj fields => .obj (bareFields fields)
  | _ => .null

def bareItems : List Json → List Json
  | [] => []
  | item :: rest => bare item :: bareItems rest

def bareFields : List (String × Json) → List (String × Json)
  | [] => []
  | (key, value) :: rest =>
    (key, if key ∈ wholeKeys then (if Silent key value then .null else value) else bare value)
      :: bareFields rest

end

/-- A silent field stays silent when its value goes. -/
theorem references_null_field (key : String) : references (.obj [(key, .null)]) = [] := by
  by_cases ref : key = "Ref" <;> by_cases att : key = "Fn::GetAtt" <;>
    simp [references, Reference.ofIntrinsic, Reference.ofGetAtt, ref, att]

mutual

/-- What is left of a value refers to what the value refers to. -/
@[simp] theorem references_bare (value : Json) : references (bare value) = references value := by
  match value with
  | .null | .bool _ | .int _ | .float _ | .str _ => simp [bare, references]
  | .arr items => simp only [bare, references_arr, references_bare_items items]
  | .obj [] => rfl
  | .obj [(key, value)] =>
    rw [bare, bareFields, bareFields]
    split
    · split
      · next silent => rw [references_null_field, silent.1]
      · rfl
    · next ordinary =>
      have plain : key ∉ intrinsics := fun member =>
        ordinary (List.mem_append_left _ (List.mem_append_left _ member))
      rw [references_obj_of_field List.mem_cons_self plain,
        references_obj_of_field List.mem_cons_self plain]
      simp [references_bare value]
  | .obj (first :: second :: rest) =>
    have same := references_bare_fields (first :: second :: rest)
    simpa only [bare, bareFields, references] using same

theorem references_bare_items (items : List Json) :
    referencesInItems (bareItems items) = referencesInItems items := by
  match items with
  | [] => rfl
  | item :: rest =>
    simp only [bareItems, references_in_items_cons, references_bare item,
      references_bare_items rest]

theorem references_bare_fields (fields : List (String × Json)) :
    referencesInFields (bareFields fields) = referencesInFields fields := by
  match fields with
  | [] => rfl
  | (key, value) :: rest =>
    simp only [bareFields, references_in_fields_cons, references_bare_fields rest]
    congr 1
    split
    · split
      · next silent => rw [silent.2.1]; simp [references]
      · rfl
    · exact references_bare value

end

def bareField (key : String) (value : Json) : Json :=
  if key ∈ wholeKeys then (if Silent key value then .null else value) else bare value

/-- With the keys written out, for `simp` to tell which of them a field has. -/
theorem bare_field_eq (key : String) (value : Json) : bareField key value =
    if key ∈ ["Ref", "Fn::GetAtt", "Fn::Sub", "CallbackURLs", "Name", "ContainerPort"] then
      (if Silent key value then .null else value)
    else bare value := rfl

variable {key : String} {value : Json}

theorem bare_field_ordinary (ordinary : key ∉ wholeKeys) : bareField key value = bare value :=
  if_neg ordinary

/-- What is read again is kept. -/
theorem bare_field_read (read : key ∈ readKeys) : bareField key value = value := by
  have whole : key ∈ wholeKeys := List.mem_append_right _ read
  rw [bareField, if_pos whole, if_neg fun silent => silent.2.2 read]

theorem bare_items_eq (items : List Json) : bareItems items = items.map bare := by
  induction items with
  | nil => rfl
  | cons item rest ih => rw [bareItems, ih, List.map_cons]

theorem bare_fields_eq (fields : Fields) :
    bareFields fields = fields.map fun entry => (entry.1, bareField entry.1 entry.2) := by
  induction fields with
  | nil => rfl
  | cons entry rest ih => obtain ⟨k, v⟩ := entry; rw [bareFields, ih]; rfl

@[simp] theorem bare_str (s : String) : bare (.str s) = .null := by simp [bare]
@[simp] theorem bare_nat (n : UInt64) : bare (.nat n) = .null := by simp [nat, bare]

@[simp] theorem bare_arr (items : List Json) : bare (.arr items) = .arr (items.map bare) := by
  rw [bare, bare_items_eq]

@[simp] theorem bare_obj (fields : Fields) : bare (.obj fields) = .obj (bareFields fields) := by
  rw [bare]

@[simp] theorem bare_fields_nil : bareFields [] = [] := rfl

@[simp] theorem bare_fields_cons (key : String) (value : Json) (rest : Fields) :
    bareFields ((key, value) :: rest) = (key, bareField key value) :: bareFields rest := rfl

@[simp] theorem bare_fields_append (first second : Fields) :
    bareFields (first ++ second) = bareFields first ++ bareFields second := by
  simp [bare_fields_eq]

theorem get?_bare_fields (key : String) (fields : Fields) :
    Fields.get? key (bareFields fields) = (Fields.get? key fields).map (bareField key) := by
  rw [bare_fields_eq, Fields.get?_map]

theorem bare_fields_insert (key : String) (value : Json) (fields : Fields) :
    bareFields (Fields.insert key value fields) =
      Fields.insert key (bareField key value) (bareFields fields) := by
  rw [bare_fields_eq, bare_fields_eq, Fields.map_insert]

theorem obj_of_bare {fields : Fields} (same : bare value = .obj fields) :
    ∃ full, value = .obj full ∧ bareFields full = fields := by
  cases value <;> simp_all [bare]

theorem arr_of_bare {items : List Json} (same : bare value = .arr items) :
    ∃ full, value = .arr full ∧ full.map bare = items := by
  cases value <;> simp_all [bare, bare_items_eq]

theorem field?_bare (value : Json) (key : String) :
    value.bare.field? key = (value.field? key).map (bareField key) := by
  cases value with
  | obj fields => simp only [bare_obj, field?, get?_bare_fields]
  | _ => simp [bare, field?]

theorem asArr?_bare (value : Json) : value.bare.asArr? = value.asArr?.map (List.map bare) := by
  cases value <;> simp [bare, asArr?, bare_items_eq]

end Json

namespace Resource

/-- A resource without the texts of its properties. -/
def bare (r : Resource) : Resource :=
  { r with properties := Json.bareFields r.properties, metadata := none }

variable {r : Resource} {key : String} {value : Json}

@[simp] theorem references_bare (r : Resource) : r.bare.references = r.references :=
  Json.references_bare_fields r.properties

theorem property_bare (r : Resource) (key : String) :
    r.bare.property? key = (r.property? key).map (Json.bareField key) :=
  Json.get?_bare_fields key r.properties

theorem bare_with_property (r : Resource) (key : String) (value : Json) :
    (r.withProperty key value).bare = r.bare.withProperty key (Json.bareField key value) := by
  simp only [bare, withProperty, Json.bare_fields_insert]

theorem bare_add_dependency (r : Resource) (id : String) :
    (r.addDependency id).bare = r.bare.addDependency id := by
  unfold addDependency
  exact apply_ite bare _ _ _

theorem bare_add_dependencies (targets : List String) (r : Resource) :
    (targets.foldl addDependency r).bare = targets.foldl addDependency r.bare :=
  (List.foldl_hom bare fun r id => (bare_add_dependency r id).symm).symm

/-- The items of a list property; there are none where it is absent or no list. -/
def items (r : Resource) (key : String) : List Json := ((r.property? key).bind Json.asArr?).getD []

theorem push_property_items (r : Resource) (key : String) (value : Json) :
    r.pushProperty key value = r.withProperty key (.arr (r.items key ++ [value])) := by
  unfold pushProperty items
  cases r.property? key with
  | none => rfl
  | some old => cases old <;> rfl

theorem items_bare (ordinary : key ∉ Json.wholeKeys) (r : Resource) :
    r.bare.items key = (r.items key).map Json.bare := by
  rw [items, items, property_bare]
  cases r.property? key with
  | none => rfl
  | some old =>
    rw [Option.map_some, Json.bare_field_ordinary ordinary]
    cases old <;> simp [Json.bare, Json.asArr?, Json.bare_items_eq]

theorem bare_push_property (ordinary : key ∉ Json.wholeKeys) (r : Resource) (value : Json) :
    (r.pushProperty key value).bare = r.bare.pushProperty key value.bare := by
  rw [push_property_items, push_property_items, bare_with_property,
    Json.bare_field_ordinary ordinary, items_bare ordinary]
  simp

end Resource

end StackSynth
