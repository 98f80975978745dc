import StackSynth.Proofs.Json.RoundTrip
import StackSynth.Proofs.Json.Sorted
import StackSynth.Template.Reader

/-!
Templates are read back from the documents they are written as. A record is written as those of its
fields that are there, so reading it puts each one in its place and leaves the others empty.
-/
namespace StackSynth

namespace Json

/-- What a document can hold in the place of a value: integers only, fields in order, and no more
nesting than the reader goes along with. -/
structure Storable (v : Json) : Prop where
  exact : v.Exact
  sorted : v.Sorted
  shallow : v.nesting ≤ 64

theorem fields_exact_iff {fields : Fields} :
    FieldsExact fields ↔ ∀ field ∈ fields, field.2.Exact := by
  induction fields with
  | nil => simp [FieldsExact]
  | cons field rest ih => rw [FieldsExact, ih, List.forall_mem_cons]

theorem fields_nesting_le {fields : Fields} {depth : Nat} :
    fieldsNesting fields ≤ depth ↔ ∀ field ∈ fields, field.2.nesting ≤ depth := by
  induction fields with
  | nil => simp [fieldsNesting]
  | cons field rest ih => rw [fieldsNesting, Nat.max_le, ih, List.forall_mem_cons]

end Json

namespace JsonTree

open Json

/-! Records. -/

/-- The fields of a record that are there. -/
def present (slots : List (String × Option Json)) : Fields :=
  slots.filterMap fun slot => slot.2.map (slot.1, ·)

theorem place_next {key : String} {names : List String} {slots : RecordSource} (tree : JsonTree)
    (after : List String) (later : RecordSource) (fresh : key ∉ names) (same : names.length = slots.length) :
    place key tree (names ++ key :: after) (slots ++ none :: later) =
      some (slots ++ some tree :: later) := by
  induction names generalizing slots with
  | nil =>
    cases slots with
    | nil => simp [place]
    | cons slot slots => cases same
  | cons name names ih =>
    cases slots with
    | nil => cases same
    | cons slot slots =>
      rw [List.mem_cons, not_or] at fresh
      simp only [List.cons_append, place, if_neg (Ne.symm fresh.1)]
      rw [ih fresh.2 (Nat.succ.inj same)]
      rfl

theorem place_present (slots : List (String × Option Json)) : ∀ (before : List String)
    (done : RecordSource), before.length = done.length → (before ++ slots.map (·.1)).Nodup →
    placeAll (before ++ slots.map (·.1)) (done ++ slots.map fun _ => none)
        (fieldTrees (present slots)) =
      some (done ++ slots.map fun slot => slot.2.map Json.tree) := by
  induction slots with
  | nil => exact fun before done _ _ => rfl
  | cons slot rest ih =>
    intro before done same distinct
    obtain ⟨name, value⟩ := slot
    have fresh : name ∉ before := fun member =>
      (List.nodup_append.mp distinct).2.2 name member name List.mem_cons_self rfl
    have next := ih (before ++ [name]) (done ++ [value.map Json.tree]) (by simp [same])
      (by simpa using distinct)
    simp only [List.append_assoc, List.singleton_append] at next
    cases value with
    | none => exact next
    | some value =>
      have placed := place_next value.tree (rest.map (·.1)) (rest.map fun _ => none) fresh same
      simp only [present, List.filterMap_cons, Option.map_some, fieldTrees, placeAll,
        List.map_cons, placed, Option.bind_eq_bind, Option.bind_some]
      exact next

theorem record_of_present (slots : List (String × Option Json))
    (distinct : (slots.map (·.1)).Nodup) :
    record (slots.map (·.1)) (Json.obj (present slots)).tree =
      some (slots.map fun slot => slot.2.map Json.tree) := by
  have placed := place_present slots [] [] rfl distinct
  rw [tree, record, List.map_map]
  exact placed

theorem exact_of_present {slots : List (String × Option Json)}
    (each : ∀ slot ∈ slots, ∀ v ∈ slot.2, v.Exact) : (Json.obj (present slots)).Exact := by
  refine fields_exact_iff.mpr fun field member => ?_
  obtain ⟨slot, listed, value⟩ := List.mem_filterMap.mp member
  obtain ⟨v, there, rfl⟩ := Option.map_eq_some_iff.mp value
  exact each slot listed v there

/-- A value that is there is not taken for one that is absent, unless it is null. -/
theorem read_given {α : Type} {read : JsonTree → Option α} {v : Json} {a : α} (exact : v.Exact)
    (some_value : v ≠ .null) (given : read v.tree = some a) :
    optional read (some v.tree) = some (some a) := by
  cases v with
  | null => exact absurd rfl some_value
  | float bits => exact exact.elim
  | _ => exact congrArg (Option.map some) given

theorem read_optional_text (text : Option String) :
    optional readText ((text.map Json.str).map Json.tree) = some text := by
  cases text <;> rfl

theorem read_texts (items : List String) : readTexts (trees (items.map Json.str)) = some items := by
  induction items with
  | nil => rfl
  | cons item rest ih =>
    simp only [List.map_cons, trees, readTexts, ih, Option.bind_eq_bind, Option.bind_some]
    rfl

theorem texts_exact (items : List String) : (Json.strs items).Exact := by
  unfold Json.strs Json.Exact
  induction items with
  | nil => trivial
  | cons item rest ih => exact ⟨trivial, ih⟩

theorem read_policy_name {depth : Nat} (policy : Option DeletionPolicy) :
    optional (readPolicy depth) ((policy.map fun p => Json.str p.name).map Json.tree) =
      some policy := by
  cases policy with
  | none => rfl
  | some policy => cases policy <;> rfl

/-! Maps. -/

variable {α : Type} {encode : α → Json}

theorem read_entries (encode : α → Json) (read : JsonTree → Option α)
    (entries : List (String × α)) :
    ∀ done : OrderedMap α, (∀ entry ∈ entries, read (encode entry.2).tree = some entry.2) →
    ((done.entries ++ entries).map Prod.fst).Nodup →
    ∃ all, readEntries read done (fieldTrees (entries.map fun entry => (entry.1, encode entry.2))) =
      some all ∧ all.entries = done.entries ++ entries := by
  induction entries with
  | nil => exact fun done _ _ => ⟨done, rfl, (List.append_nil _).symm⟩
  | cons entry rest ih =>
    intro done each distinct
    rw [List.forall_mem_cons] at each
    have fresh : done.contains entry.1 = false := by
      rw [List.map_append, List.nodup_append] at distinct
      refine Bool.eq_false_iff.mpr fun member => ?_
      exact distinct.2.2 entry.1 ((OrderedMap.contains_iff _ _).mp member) entry.1
        List.mem_cons_self rfl
    have inserted := OrderedMap.entries_insert fresh entry.2
    obtain ⟨all, read_all, same⟩ := ih (done.insert entry.1 entry.2) each.2
      (by rw [inserted]; simpa using distinct)
    refine ⟨all, ?_, by rw [same, inserted, List.append_assoc, List.singleton_append]⟩
    simp only [List.map_cons, fieldTrees, readEntries, each.1, Option.bind_eq_bind,
      Option.bind_some]
    exact read_all

theorem read_map (depth : Nat) {read : Nat → JsonTree → Option α} (m : OrderedMap α)
    (each : ∀ v ∈ m.values, read depth (encode v).tree = some v) :
    readMap (depth + 1) read (Template.sectionJson encode m).tree = some m := by
  obtain ⟨all, read_all, same⟩ := read_entries encode (read depth) m.entries ∅
    (fun entry member => each entry.2 (List.mem_map_of_mem member)) m.distinct
  rw [Template.sectionJson, tree, readMap]
  simp only [deeper, Option.bind_eq_bind, Option.bind_some, read_all]
  exact congrArg some (OrderedMap.ext same)

/-- A section that may be left out. -/
def section? (encode : α → Json) (m : OrderedMap α) : Option Json :=
  if m.isEmpty then none else some (Template.sectionJson encode m)

theorem read_section (depth : Nat) (encode : α → Json) {read : Nat → JsonTree → Option α} (m : OrderedMap α)
    (each : ∀ v ∈ m.values, read depth (encode v).tree = some v) :
    orElse ∅ (readMap (depth + 1) read) ((section? encode m).map Json.tree) = some m := by
  unfold section?
  split
  · next empty =>
    exact congrArg some (OrderedMap.ext (List.isEmpty_iff.mp empty).symm)
  · exact read_map depth m each

theorem exact_section {m : OrderedMap α} (each : ∀ v ∈ m.values, (encode v).Exact) :
    (Template.sectionJson encode m).Exact := by
  refine fields_exact_iff.mpr fun field member => ?_
  obtain ⟨entry, listed, rfl⟩ := List.mem_map.mp member
  exact each entry.2 (List.mem_map_of_mem listed)

theorem exact_optional_section {m : OrderedMap α} (each : ∀ v ∈ m.values, (encode v).Exact) :
    ∀ v ∈ section? encode m, v.Exact := by
  intro v there
  unfold section? at there
  split at there
  · cases there
  · cases there
    exact exact_section each

end JsonTree

open JsonTree

/-! The records of a template, as the slots that they fill. -/

namespace Parameter

def slots (p : Parameter) : List (String × Option Json) := [
  ("Type", some (.str p.type)), ("Default", p.default.map .str),
  ("Description", p.description.map .str)]

theorem json_eq (p : Parameter) : p.toJson = .obj (present p.slots) := by
  obtain ⟨type, default, description⟩ := p
  cases default <;> cases description <;> rfl

theorem read_json {depth : Nat} (p : Parameter) :
    readParameter (depth + 1) p.toJson.tree = some p := by
  have split := record_of_present p.slots (by simp [slots])
  rw [json_eq, readParameter]
  simp only [slots, List.map_cons, List.map_nil] at split
  simp only [slots, deeper, Option.bind_eq_bind, Option.bind_some, split, read_optional_text]
  rfl

theorem json_exact (p : Parameter) : p.toJson.Exact := by
  rw [json_eq]
  refine exact_of_present fun slot member v there => ?_
  simp only [slots, List.mem_cons, List.not_mem_nil, or_false] at member
  rcases member with rfl | rfl | rfl
  · cases there
    trivial
  all_goals
    obtain ⟨text, -, rfl⟩ := Option.map_eq_some_iff.mp there
    trivial

end Parameter

namespace Output

/-- The values of an output can be held by a document. -/
structure Storable (o : Output) : Prop where
  value : o.value.Storable
  exportName : ∀ name ∈ o.exportName, name.Storable

def exported (name : Json) : Json := .obj (present [("Name", some name)])

def slots (o : Output) : List (String × Option Json) := [
  ("Value", some o.value), ("Description", o.description.map .str),
  ("Export", o.exportName.map exported)]

theorem json_eq (o : Output) : o.toJson = .obj (present o.slots) := by
  obtain ⟨value, description, exportName⟩ := o
  cases description <;> cases exportName <;> rfl

theorem read_exported {depth : Nat} {name : Option Json} (deep : 64 ≤ depth)
    (storable : ∀ v ∈ name, v.Storable) :
    optional (readExport (depth + 1)) ((name.map exported).map Json.tree) = some name := by
  cases name with
  | none => rfl
  | some v =>
    obtain ⟨exact, sorted, shallow⟩ := storable v rfl
    have value := value_of_tree v depth exact sorted (Nat.le_trans shallow deep)
    have split : record ["Name"] (exported v).tree = some [some v.tree] := rfl
    have read : readExport (depth + 1) (exported v).tree = some v := by
      simp only [readExport, deeper, Option.bind_eq_bind, Option.bind_some, split, required, value]
    have held : (exported v).Exact := ⟨exact, trivial⟩
    exact read_given held (by simp [exported]) read

theorem read_json {depth : Nat} {o : Output} (deep : 64 ≤ depth) (storable : o.Storable) :
    readOutput (depth + 2) o.toJson.tree = some o := by
  have split := record_of_present o.slots (by simp [slots])
  obtain ⟨exact, sorted, shallow⟩ := storable.value
  have value := value_of_tree o.value (depth + 1) exact sorted (by omega)
  rw [json_eq, readOutput]
  simp only [slots, List.map_cons, List.map_nil] at split
  simp only [slots, deeper, Option.bind_eq_bind, Option.bind_some, split, read_optional_text,
    Option.map_some, required, value, read_exported deep storable.exportName]
  rfl

theorem json_exact {o : Output} (storable : o.Storable) : o.toJson.Exact := by
  rw [json_eq]
  refine exact_of_present fun slot member v there => ?_
  simp only [slots, List.mem_cons, List.not_mem_nil, or_false] at member
  rcases member with rfl | rfl | rfl
  · cases there
    exact storable.value.exact
  · obtain ⟨text, -, rfl⟩ := Option.map_eq_some_iff.mp there
    trivial
  · obtain ⟨name, given, rfl⟩ := Option.map_eq_some_iff.mp there
    exact ⟨(storable.exportName name given).exact, trivial⟩

end Output

namespace Resource

/-- The values of a resource can be held by a document. Metadata that is null cannot: it is read as
no metadata. -/
structure Storable (r : Resource) : Prop where
  ascending : Fields.Ascending r.properties
  properties : ∀ field ∈ r.properties, field.2.Storable
  metadata : ∀ v ∈ r.metadata, v.Storable ∧ v ≠ .null

def slots (r : Resource) : List (String × Option Json) := [
  ("Type", some (.str r.type)),
  ("Properties", if r.properties.isEmpty then none else some (.obj r.properties)),
  ("DependsOn", if r.dependsOn.isEmpty then none else some (.strs r.dependsOn)),
  ("DeletionPolicy", r.deletionPolicy.map fun policy => .str policy.name),
  ("UpdateReplacePolicy", r.updateReplacePolicy.map fun policy => .str policy.name),
  ("Metadata", r.metadata)]

theorem json_eq (r : Resource) : r.toJson = .obj (present r.slots) := by
  obtain ⟨type, properties, dependsOn, deletion, replacement, metadata⟩ := r
  cases properties <;> cases dependsOn <;> cases deletion <;> cases replacement <;>
    cases metadata <;> rfl

theorem read_properties {depth : Nat} {r : Resource} (deep : 64 ≤ depth) (storable : r.Storable) :
    orElse [] (readProperties (depth + 1))
      ((if r.properties.isEmpty then none else some (.obj r.properties) : Option Json).map
        Json.tree) = some r.properties := by
  split
  · next empty => exact congrArg some (List.isEmpty_iff.mp empty).symm
  · have read := fields_of_trees r.properties depth []
      (Json.fields_exact_iff.mpr fun field member => (storable.properties field member).exact)
      (Json.fields_sorted_iff.mpr fun field member => (storable.properties field member).sorted)
      (Json.fields_nesting_le.mpr fun field member =>
        Nat.le_trans (storable.properties field member).shallow deep) storable.ascending
    simp only [Option.map_some, Json.tree, orElse, readProperties, deeper, Option.bind_eq_bind,
      Option.bind_some, read]
    rfl

theorem read_depends_on {depth : Nat} (targets : List String) :
    orElse [] (readTextList (depth + 1))
      ((if targets.isEmpty then none else some (.strs targets) : Option Json).map Json.tree) =
        some targets := by
  split
  · next empty => exact congrArg some (List.isEmpty_iff.mp empty).symm
  · simp only [Option.map_some, Json.strs, Json.tree, orElse, readTextList, deeper,
      Option.bind_eq_bind, Option.bind_some, read_texts]

theorem read_metadata {depth : Nat} {metadata : Option Json} (deep : 64 ≤ depth)
    (storable : ∀ v ∈ metadata, v.Storable ∧ v ≠ .null) :
    optional (toJson? depth) (metadata.map Json.tree) = some metadata := by
  cases metadata with
  | none => rfl
  | some v =>
    obtain ⟨⟨exact, sorted, shallow⟩, some⟩ := storable v rfl
    exact read_given exact some (value_of_tree v depth exact sorted (Nat.le_trans shallow deep))

theorem read_json {depth : Nat} {r : Resource} (deep : 64 ≤ depth) (storable : r.Storable) :
    readResource (depth + 2) r.toJson.tree = some r := by
  have split := record_of_present r.slots (by simp [slots])
  rw [json_eq, readResource]
  simp only [slots, List.map_cons, List.map_nil] at split
  simp only [slots, deeper, Option.bind_eq_bind, Option.bind_some, split, read_policy_name,
    read_properties deep storable, read_depends_on, read_metadata (Nat.le_succ_of_le deep)
    storable.metadata]
  rfl

theorem json_exact {r : Resource} (storable : r.Storable) : r.toJson.Exact := by
  rw [json_eq]
  refine exact_of_present fun slot member v there => ?_
  simp only [slots, List.mem_cons, List.not_mem_nil, or_false] at member
  rcases member with rfl | rfl | rfl | rfl | rfl | rfl
  · cases there
    trivial
  · simp only [Option.mem_def] at there
    split at there
    · cases there
    · cases there
      exact Json.fields_exact_iff.mpr fun field member => (storable.properties field member).exact
  · simp only [Option.mem_def] at there
    split at there
    · cases there
    · cases there
      exact texts_exact r.dependsOn
  · obtain ⟨policy, -, rfl⟩ := Option.map_eq_some_iff.mp there
    trivial
  · obtain ⟨policy, -, rfl⟩ := Option.map_eq_some_iff.mp there
    trivial
  · exact (storable.metadata v there).1.exact

end Resource

namespace Template

/-- All that the template holds can be held by a document. -/
structure Storable (t : Template) : Prop where
  resources : ∀ r ∈ t.resources.values, r.Storable
  outputs : ∀ o ∈ t.outputs.values, o.Storable
  rules : ∀ rule ∈ t.rules.values, rule.Storable

def slots (t : Template) : List (String × Option Json) := [
  ("AWSTemplateFormatVersion", some (.str t.formatVersion)),
  ("Description", t.description.map .str),
  ("Parameters", section? Parameter.toJson t.parameters),
  ("Resources", some (sectionJson Resource.toJson t.resources)),
  ("Outputs", section? Output.toJson t.outputs),
  ("Rules", section? id t.rules)]

theorem optional_section_eq {α : Type} (key : String) (encode : α → Json) (m : OrderedMap α) :
    optionalSection key encode m = present [(key, section? encode m)] := by
  unfold optionalSection section?
  split <;> rfl

theorem optional_text_eq (key : String) (text : Option String) :
    optionalText key text = present [(key, text.map .str)] := by
  cases text <;> rfl

theorem json_eq (t : Template) : t.toJson = .obj (present t.slots) := by
  simp only [toJson, optional_section_eq, optional_text_eq, slots]
  cases t.description <;> cases section? Parameter.toJson t.parameters <;>
    cases section? Output.toJson t.outputs <;> cases section? id t.rules <;> rfl

theorem json_exact {t : Template} (storable : t.Storable) : t.toJson.Exact := by
  rw [json_eq]
  refine exact_of_present fun slot member v there => ?_
  simp only [slots, List.mem_cons, List.not_mem_nil, or_false] at member
  rcases member with rfl | rfl | rfl | rfl | rfl | rfl
  · cases there
    trivial
  · obtain ⟨text, -, rfl⟩ := Option.map_eq_some_iff.mp there
    trivial
  · exact exact_optional_section (fun p _ => p.json_exact) v there
  · cases there
    exact exact_section fun r member => Resource.json_exact (storable.resources r member)
  · exact exact_optional_section
      (fun o member => Output.json_exact (storable.outputs o member)) v there
  · exact exact_optional_section (fun rule member => (storable.rules rule member).exact) v there

/-- A template that is written is read back as it was. -/
theorem parse_render {t : Template} (storable : t.Storable) : parse t.render = .ok t := by
  have split := record_of_present t.slots (by simp [slots])
  have rules : ∀ rule ∈ t.rules.values, toJson? 125 rule.tree = some rule := fun rule member =>
    value_of_tree rule 125 (storable.rules rule member).exact (storable.rules rule member).sorted
      (Nat.le_trans (storable.rules rule member).shallow (by decide))
  have sections := And.intro
    (read_section 125 Parameter.toJson t.parameters fun p _ => p.read_json)
    (And.intro (read_map 125 t.resources fun r member =>
        Resource.read_json (by decide) (storable.resources r member))
      (And.intro (read_section 125 Output.toJson t.outputs fun o member =>
          Output.read_json (by decide) (storable.outputs o member))
        (read_section 125 id t.rules rules)))
  obtain ⟨parameters, resources, outputs, rules⟩ := sections
  have read : readTemplate depthLimit t.toJson.tree = some t := by
    rw [json_eq, readTemplate]
    simp only [slots, List.map_cons, List.map_nil] at split
    simp only [slots, depthLimit, deeper, Option.bind_eq_bind, Option.bind_some, split,
      read_optional_text, parameters, Option.map_some, required, resources, outputs, rules]
    rfl
  rw [parse, render, tree_of_text (json_exact storable), Option.bind_some, read]

/-- A template with a part of every kind. -/
def sample : Template where
  description := some "a \"small\" one\n"
  parameters := ⟨[("Stage", { type := "String", default := some "test" })], by decide⟩
  resources := ⟨[
    ("Users", {
      type := "AWS::DynamoDB::Table"
      properties := [
        ("Keys", .arr [.obj [("Name", .str "id"), ("Width", .int ⟨-64, by decide, by decide⟩)]]),
        ("Tags", .arr [])]
      deletionPolicy := some .retain
      updateReplacePolicy := some .retain
      metadata := some (.obj [("Checked", .bool true)]) }),
    ("Cluster", { type := "AWS::ECS::Cluster", dependsOn := ["Users"] })], by decide⟩
  outputs := ⟨[("Name", { value := .obj [("Ref", .str "Users")], exportName := some .null })],
    by decide⟩
  rules := ⟨[("Always", .arr [.null])], by decide⟩

theorem sample_storable : sample.Storable where
  resources := by
    simp only [sample, OrderedMap.values, List.map_cons, List.map_nil, List.forall_mem_cons]
    refine ⟨⟨?_, ?_, ?_⟩, ⟨List.Pairwise.nil, by simp, by simp⟩, by simp⟩
    · exact List.pairwise_pair.mpr (by decide)
    · simp only [List.forall_mem_cons]
      refine ⟨⟨?_, ?_, by decide⟩, ⟨trivial, trivial, by decide⟩, by simp⟩
      · simp [Json.Exact, Json.AllExact, Json.FieldsExact]
      · exact ⟨⟨List.pairwise_pair.mpr (by decide), trivial, trivial, trivial⟩, trivial⟩
    · rintro v ⟨⟩
      refine ⟨⟨?_, ?_, by decide⟩, by simp⟩
      · simp [Json.Exact, Json.FieldsExact]
      · simp [Json.Sorted, Json.FieldsSorted, Fields.Ascending]
  outputs := by
    simp only [sample, OrderedMap.values, List.map_cons, List.map_nil, List.forall_mem_cons]
    refine ⟨⟨⟨?_, ?_, by decide⟩, ?_⟩, by simp⟩
    · simp [Json.Exact, Json.FieldsExact]
    · simp [Json.Sorted, Json.FieldsSorted, Fields.Ascending]
    · rintro name ⟨⟩
      exact ⟨trivial, trivial, by decide⟩
  rules := by
    simp only [sample, OrderedMap.values, List.map_cons, List.map_nil, List.forall_mem_cons]
    refine ⟨⟨?_, ?_, by decide⟩, by simp⟩
    · simp [Json.Exact, Json.AllExact]
    · simp [Json.Sorted, Json.AllSorted]

theorem sample_parsed : sample.Storable ∧ parse sample.render = .ok sample :=
  ⟨sample_storable, parse_render sample_storable⟩

end Template

end StackSynth
