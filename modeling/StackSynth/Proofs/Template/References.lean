import StackSynth.Proofs.Text.Split
import StackSynth.Template.Resource
import StackSynth.Template.Value

/-!
Which references a property holds. A value, a list or a set of fields refers to what its parts refer
to, and a property that is put in brings no references but its own.
-/
namespace StackSynth

namespace Fields

variable {key k : String} {value v : Json} {fields : Fields}

theorem get?_cons (key k : String) (v : Json) (rest : Fields) :
    get? key ((k, v) :: rest) = if k = key then some v else get? key rest := rfl

theorem insert_cons (key k : String) (value v : Json) (rest : Fields) :
    insert key value ((k, v) :: rest) =
      if k = key then (key, value) :: rest
      else if key < k then (key, value) :: (k, v) :: rest
      else (k, v) :: insert key value rest := rfl

theorem mem_of_get? (found : get? key fields = some value) : (key, value) ∈ fields := by
  induction fields with
  | nil => cases found
  | cons entry rest ih =>
    obtain ⟨k, v⟩ := entry
    rw [get?_cons] at found
    split at found
    · next same => cases found; subst same; exact List.mem_cons_self
    · exact List.mem_cons_of_mem _ (ih found)

theorem get?_eq_none_iff : get? key fields = none ↔ ∀ entry ∈ fields, entry.1 ≠ key := by
  induction fields with
  | nil => exact iff_of_true rfl (List.forall_mem_nil _)
  | cons entry rest ih =>
    obtain ⟨k, v⟩ := entry
    rw [get?_cons, List.forall_mem_cons]
    split
    · next same => simp [same]
    · next other => simp [other, ih]

theorem get?_append (key : String) (first second : Fields) :
    get? key (first ++ second) = (get? key first).or (get? key second) := by
  induction first with
  | nil => rfl
  | cons entry rest ih =>
    obtain ⟨k, v⟩ := entry
    rw [List.cons_append, get?_cons, get?_cons]
    split
    · rfl
    · exact ih

theorem mem_insert {entry : String × Json} (member : entry ∈ insert key value fields) :
    entry = (key, value) ∨ entry ∈ fields := by
  induction fields with
  | nil => exact .inl (List.mem_singleton.mp member)
  | cons first rest ih =>
    obtain ⟨k, v⟩ := first
    rw [insert_cons] at member
    split at member
    · rcases List.mem_cons.mp member with here | later
      · exact .inl here
      · exact .inr (List.mem_cons_of_mem _ later)
    · split at member
      · exact List.mem_cons.mp member
      · rcases List.mem_cons.mp member with here | later
        · exact .inr (here ▸ List.mem_cons_self)
        · exact (ih later).imp_right (List.mem_cons_of_mem _)

@[simp] theorem get?_insert (key k : String) (value : Json) (fields : Fields) :
    get? k (insert key value fields) = if key = k then some value else get? k fields := by
  induction fields with
  | nil => rfl
  | cons entry rest ih =>
    obtain ⟨k', v'⟩ := entry
    rw [insert_cons, get?_cons]
    split
    · next same => subst same; rw [get?_cons]; split <;> rfl
    · next differs =>
      split
      · rw [get?_cons, get?_cons]
      · rw [get?_cons, ih]
        split
        · next here => rw [if_neg]; exact fun same => differs (here.trans same.symm)
        · rfl

end Fields

namespace Json

variable {ref : Reference} {key : String} {value item : Json} {fields : Fields} {items : List Json}

/-- The fields by which an object with no other field is a reference. -/
def intrinsics : List String := ["Ref", "Fn::GetAtt", "Fn::Sub"]

@[simp] theorem references_str (s : String) : references (.str s) = [] := rfl
@[simp] theorem references_bool (b : Bool) : references (.bool b) = [] := rfl
@[simp] theorem references_nat (n : UInt64) : references (.nat n) = [] := rfl

@[simp] theorem references_arr (items : List Json) :
    references (.arr items) = referencesInItems items := rfl

@[simp] theorem references_in_items_nil : referencesInItems [] = [] := rfl
@[simp] theorem references_in_fields_nil : referencesInFields [] = [] := rfl

@[simp] theorem references_in_items_cons (item : Json) (rest : List Json) :
    referencesInItems (item :: rest) = references item ++ referencesInItems rest := rfl

@[simp] theorem references_in_fields_cons (key : String) (value : Json) (rest : Fields) :
    referencesInFields ((key, value) :: rest) = references value ++ referencesInFields rest := rfl

theorem references_obj_of_field (member : (key, value) ∈ fields) (plain : key ∉ intrinsics) :
    references (.obj fields) = referencesInFields fields := by
  match fields, member with
  | [(k, v)], member =>
    have same : key = k := congrArg Prod.fst (List.mem_singleton.mp member)
    subst same
    simp only [intrinsics, List.mem_cons, List.not_mem_nil, or_false, not_or] at plain
    simp [references, Reference.ofIntrinsic, plain, referencesInFields]
  | first :: second :: rest, _ => rfl

theorem mem_references_in_items :
    ref ∈ referencesInItems items ↔ ∃ item ∈ items, ref ∈ references item := by
  induction items with
  | nil => simp
  | cons item rest ih => simp [ih]

theorem mem_references_in_fields :
    ref ∈ referencesInFields fields ↔ ∃ entry ∈ fields, ref ∈ references entry.2 := by
  induction fields with
  | nil => simp
  | cons entry rest ih => obtain ⟨k, v⟩ := entry; simp [ih]

@[simp] theorem references_in_items_append (first second : List Json) :
    referencesInItems (first ++ second) = referencesInItems first ++ referencesInItems second := by
  induction first with
  | nil => rfl
  | cons item rest ih => simp [ih]

@[simp] theorem references_strs (items : List String) : references (.strs items) = [] := by
  rw [strs, references_arr]
  induction items with
  | nil => rfl
  | cons item rest ih => simp [ih]

theorem references_of_field (found : Fields.get? key fields = some value) :
    references value ⊆ referencesInFields fields := fun _ member =>
  mem_references_in_fields.mpr ⟨_, Fields.mem_of_get? found, member⟩

theorem references_insert (member : ref ∈ referencesInFields (Fields.insert key value fields)) :
    ref ∈ references value ∨ ref ∈ referencesInFields fields := by
  obtain ⟨entry, inserted, refers⟩ := mem_references_in_fields.mp member
  rcases Fields.mem_insert inserted with rfl | before
  · exact .inl refers
  · exact .inr (mem_references_in_fields.mpr ⟨entry, before, refers⟩)

/-- No reference is lost where the new value has those of the one that it replaces. -/
theorem references_insert_kept
    (kept : ∀ old, Fields.get? key fields = some old → references old ⊆ references value) :
    referencesInFields fields ⊆ referencesInFields (Fields.insert key value fields) := by
  induction fields with
  | nil => exact List.nil_subset _
  | cons entry rest ih =>
    obtain ⟨k, v⟩ := entry
    simp only [Fields.insert]
    split
    · next same =>
      subst same
      have own := kept v (by simp [Fields.get?])
      simp only [references_in_fields_cons]
      exact List.append_subset.mpr ⟨List.subset_append_of_subset_left _ own,
        List.subset_append_right _ _⟩
    · next differs =>
      have later := ih fun old found => kept old (by simpa [Fields.get?, differs] using found)
      split
      · exact List.subset_append_right _ _
      · simp only [references_in_fields_cons]
        exact List.append_subset.mpr ⟨List.subset_append_left _ _,
          List.subset_append_of_subset_right _ later⟩

/-- What an object refers to once a list in it has one item more. -/
theorem mem_references_append_field {ref : Reference} (plain : key ∉ intrinsics)
    (listed : Fields.get? key fields = some (.arr items)) :
    ref ∈ references (.obj (Fields.insert key (.arr (items ++ [item])) fields)) ↔
      ref ∈ references (.obj fields) ∨ ref ∈ references item := by
  have grown : Fields.get? key (Fields.insert key (.arr (items ++ [item])) fields) =
      some (.arr (items ++ [item])) := by rw [Fields.get?_insert, if_pos rfl]
  rw [references_obj_of_field (Fields.mem_of_get? grown) plain,
    references_obj_of_field (Fields.mem_of_get? listed) plain]
  constructor
  · intro refers
    rcases references_insert refers with inside | before
    · rw [references_arr, references_in_items_append] at inside
      rcases List.mem_append.mp inside with old | new
      · exact .inl (references_of_field listed (by rwa [references_arr]))
      · exact .inr (by simpa using new)
    · exact .inl before
  · rintro (old | new)
    · refine references_insert_kept (fun before found => ?_) old
      rw [listed] at found
      cases found
      simp
    · exact references_of_field grown (by simp [new])

end Json

namespace Value

mutual

/-- Writing a value down as JSON keeps its references. -/
@[simp] theorem references_toJson (v : Value) : v.toJson.references = v.references := by
  match v with
  | str _ | bool _ | number _ | getAzs _ =>
    simp [toJson, references, Json.references, Reference.ofIntrinsic]
  | ref id => simp [toJson, references, Json.references, Reference.ofIntrinsic]
  | getAtt id attr =>
    simp [toJson, references, Json.references, Reference.ofIntrinsic, Reference.ofGetAtt]
  | sub text => simp [toJson, references, Json.references, Reference.ofIntrinsic]
  | join delimiter values =>
    simp [toJson, references, Json.references, Reference.ofIntrinsic, references_toJsons values]
  | select index source =>
    simp [toJson, references, Json.references, Reference.ofIntrinsic, references_toJson source]
  | list items => simp [toJson, references, references_toJsons items]

theorem references_toJsons (items : List Value) :
    Json.referencesInItems (toJsons items) = referencesInItems items := by
  match items with
  | [] => rfl
  | item :: rest =>
    simp [toJsons, referencesInItems, references_toJson item, references_toJsons rest]

end

end Value

namespace Reference

/-- Where no placeholder opens, a placeholder behind is not opened earlier. -/
theorem not_opened_before {c : Char} {before : List Char} (plain : ¬ ['$', '{'] <:+: c :: before)
    (after : List Char) : ¬ ['$', '{'] <+: c :: (before ++ '$' :: after) := by
  intro opened
  cases before with
  | nil => simp [List.cons_prefix_cons] at opened
  | cons d rest =>
    simp only [List.cons_append, List.cons_prefix_cons, List.nil_prefix, and_true] at opened
    obtain ⟨rfl, rfl⟩ := opened
    exact plain ⟨[], rest, rfl⟩

theorem in_substitution_next {c : Char} {rest : List Char} (plain : ¬ ['$', '{'] <+: c :: rest) :
    inSubstitution (c :: rest) = inSubstitution rest := by
  cases rest with
  | nil => simp [inSubstitution]
  | cons d rest =>
    refine (inSubstitution.eq_def _).trans (if_neg fun opened => plain ?_)
    rw [opened.1, opened.2]
    exact ⟨rest, rfl⟩

theorem in_substitution_before {before : List Char} (plain : ¬ ['$', '{'] <:+: before)
    (after : List Char) :
    inSubstitution (before ++ '$' :: after) = inSubstitution ('$' :: after) := by
  induction before with
  | nil => rfl
  | cons c rest ih =>
    rw [List.cons_append, in_substitution_next (not_opened_before plain after),
      ih fun inside => plain (inside.trans (List.suffix_cons c rest).isInfix)]

/-- A placeholder behind a text in which none opens is the first one. -/
theorem in_substitution_placeholder {before name after : List Char}
    (plain : ¬ ['$', '{'] <:+: before) (closed : '}' ∉ name) :
    inSubstitution (before ++ '$' :: '{' :: (name ++ '}' :: after)) =
      ofPlaceholder name ++ inSubstitution after := by
  have cut := Text.split_once_first closed after
  rw [in_substitution_before plain, inSubstitution, if_pos ⟨rfl, rfl⟩]
  split
  · next missing => rw [cut] at missing; cases missing
  · next found => rw [cut] at found; cases found; rfl

/-- A text in which every placeholder stays open has none. -/
theorem in_substitution_open {text : List Char}
    (stays : ∀ before after, text = before ++ '$' :: '{' :: after → '}' ∉ after) :
    inSubstitution text = [] := by
  induction text with
  | nil => simp [inSubstitution]
  | cons c rest ih =>
    by_cases opened : ['$', '{'] <+: c :: rest
    · obtain ⟨after, same⟩ := opened
      have missing := Text.split_once_eq_none_iff.mpr (stays [] after same.symm)
      rw [← same, List.cons_append, List.cons_append, List.nil_append, inSubstitution,
        if_pos ⟨rfl, rfl⟩]
      split
      · rfl
      · next found => rw [missing] at found; cases found
    · rw [in_substitution_next opened,
        ih fun before after same => stays (c :: before) after (congrArg (c :: ·) same)]

theorem in_substitution_pseudo {before name after : List Char} (plain : '$' ∉ before)
    (closed : '}' ∉ name) (pseudo : isPseudoParameter (String.ofList name) = true) :
    inSubstitution (before ++ '$' :: '{' :: (name ++ '}' :: after)) = inSubstitution after := by
  rw [in_substitution_placeholder (fun inside => plain (inside.subset List.mem_cons_self)) closed,
    ofPlaceholder, if_pos (.inr pseudo), List.nil_append]

theorem in_substitution_plain {text : List Char} (plain : '$' ∉ text) :
    inSubstitution text = [] :=
  in_substitution_open fun before after same => absurd (same ▸ by simp) plain

end Reference

/-! Values all of whose references lead to targets of some kind. -/

namespace Json

variable {P : String → Prop} {key : String} {value : Json} {fields : Fields} {items : List Json}

def Within (P : String → Prop) (value : Json) : Prop := ∀ ref ∈ value.references, P ref.target

theorem Within.imp {P' : String → Prop} (within : Within P value) (weaker : ∀ id, P id → P' id) :
    Within P' value := fun ref member => weaker _ (within ref member)

@[simp] theorem within_str (s : String) : Within P (.str s) := by simp [Within]
@[simp] theorem within_bool (b : Bool) : Within P (.bool b) := by simp [Within]
@[simp] theorem within_nat (n : UInt64) : Within P (.nat n) := by simp [Within]
@[simp] theorem within_strs (items : List String) : Within P (.strs items) := by simp [Within]

@[simp] theorem within_arr : Within P (.arr items) ↔ ∀ item ∈ items, Within P item := by
  simp only [Within, references_arr, mem_references_in_items]
  exact ⟨fun all item member ref refers => all ref ⟨item, member, refers⟩,
    fun all ref ⟨item, member, refers⟩ => all item member ref refers⟩

theorem within_fields :
    (∀ ref ∈ referencesInFields fields, P ref.target) ↔ ∀ entry ∈ fields, Within P entry.2 := by
  simp only [mem_references_in_fields]
  exact ⟨fun all entry member ref refers => all ref ⟨entry, member, refers⟩,
    fun all ref ⟨entry, member, refers⟩ => all entry member ref refers⟩

theorem within_obj_of_field (member : (key, value) ∈ fields) (plain : key ∉ intrinsics) :
    Within P (.obj fields) ↔ ∀ entry ∈ fields, Within P entry.2 := by
  rw [Within, references_obj_of_field member plain, within_fields]

@[simp] theorem within_obj_one (ref : key ≠ "Ref") (att : key ≠ "Fn::GetAtt")
    (sub : key ≠ "Fn::Sub") : Within P (.obj [(key, value)]) ↔ Within P value := by
  rw [within_obj_of_field List.mem_cons_self (by simp [intrinsics, ref, att, sub])]
  simp

@[simp] theorem within_obj_more (first second : String × Json) (rest : Fields) :
    Within P (.obj (first :: second :: rest)) ↔
      ∀ entry ∈ first :: second :: rest, Within P entry.2 := by
  rw [Within, references, within_fields]
  simp

end Json

namespace Value

variable {P : String → Prop}

@[simp] theorem within_toJson_str (s : String) : Json.Within P (str s).toJson := by
  simp [Json.Within, references]

@[simp] theorem within_ref (id : String) :
    Json.Within P (ref id).toJson ↔ isPseudoParameter id = true ∨ P id := by
  simp only [Json.Within, references_toJson, references]
  split <;> simp [*]

@[simp] theorem within_getAtt (id attr : String) :
    Json.Within P (getAtt id attr).toJson ↔ P id := by
  simp [Json.Within, references]

theorem references_in_items_within {values : List Value} :
    (∀ ref ∈ referencesInItems values, P ref.target) ↔
      ∀ value ∈ values, Json.Within P value.toJson := by
  induction values with
  | nil => simp [referencesInItems]
  | cons value rest ih =>
    simp only [referencesInItems, List.mem_append, or_imp, forall_and, ih, List.forall_mem_cons,
      Json.Within, references_toJson]

@[simp] theorem within_join (delimiter : String) (values : List Value) :
    Json.Within P (join delimiter values).toJson ↔ ∀ v ∈ values, Json.Within P v.toJson := by
  rw [← references_in_items_within]
  simp [Json.Within, references]

@[simp] theorem within_partition : Json.Within P partition.toJson := by
  rw [partition, within_ref]
  exact .inl (by decide)

@[simp] theorem within_region : Json.Within P region.toJson := by
  rw [region, within_ref]
  exact .inl (by decide)

@[simp] theorem within_accountId : Json.Within P accountId.toJson := by
  rw [accountId, within_ref]
  exact .inl (by decide)

@[simp] theorem within_availabilityZone (index : UInt64) :
    Json.Within P (availabilityZone index).toJson := by
  simp [availabilityZone, Json.Within, references]

theorem within_sub (text : String) : Json.Within P (sub text).toJson ↔
    ∀ ref ∈ Reference.inSubstitution text.toList, P ref.target := by
  simp [Json.Within, references]

end Value

namespace Resource

variable {r : Resource} {key : String} {value : Json} {P : String → Prop}

/-- All that a resource needs: what it depends on and what it refers to. -/
def targets (r : Resource) : List String := r.dependsOn ++ r.references.map (·.target)

def Within (P : String → Prop) (r : Resource) : Prop := ∀ target ∈ r.targets, P target

theorem within_iff : r.Within P ↔
    (∀ target ∈ r.dependsOn, P target) ∧ ∀ entry ∈ r.properties, Json.Within P entry.2 := by
  rw [← Json.within_fields]
  simp only [Within, targets, List.mem_append, List.mem_map, or_imp, forall_and, references,
    forall_exists_index, and_imp, forall_apply_eq_imp_iff₂]

theorem references_of_property (found : r.property? key = some value) :
    value.references ⊆ r.references := Json.references_of_field found

theorem references_with_property {ref : Reference}
    (member : ref ∈ (r.withProperty key value).references) :
    ref ∈ value.references ∨ ref ∈ r.references := Json.references_insert member

@[simp] theorem property_with_property (r : Resource) (key k : String) (value : Json) :
    (r.withProperty key value).property? k = if key = k then some value else r.property? k :=
  Fields.get?_insert key k value r.properties

theorem mem_references_with_property {ref : Reference} {old : Json}
    (found : r.property? key = some old) (kept : old.references ⊆ value.references) :
    ref ∈ (r.withProperty key value).references ↔ ref ∈ r.references ∨ ref ∈ value.references := by
  constructor
  · exact fun refers => (references_with_property refers).symm
  · rintro (before | new)
    · refine Json.references_insert_kept (fun other same => ?_) before
      have equal : some old = some other := found.symm.trans same
      cases equal
      exact kept
    · exact references_of_property ((property_with_property r key key value).trans (if_pos rfl)) new

/-- Appending to a list property is setting it to a list with no other references. -/
theorem push_property_eq (r : Resource) (key : String) (value : Json) :
    ∃ items, r.pushProperty key value = r.withProperty key (.arr (items ++ [value])) ∧
      (r.property? key = some (.arr items) ∨ items = []) := by
  unfold pushProperty
  split
  · next items found => exact ⟨items, rfl, .inl found⟩
  · exact ⟨[], rfl, .inr rfl⟩

end Resource

end StackSynth
