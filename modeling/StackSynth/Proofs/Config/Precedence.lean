import Mathlib
import StackSynth.Proofs.Config.Keys
import StackSynth.Proofs.Config.Unknown
import StackSynth.Proofs.Files.Flat
import StackSynth.Proofs.Toml.Sorted
import StackSynth.Proofs.Yaml.Sorted

/-!
Which of several configuration documents a setting is taken from, told for each setting on its own:
from the environment, else from the last document that sets it, else it is the default.
-/
namespace StackSynth.Config

open StackSynth.Decode

/-! Documents laid over each other. -/

/-- The value of a setting in a document, if it is there. -/
def Key.inDocument? {σ α : Type} (k : Key σ α) (doc : Json) : Option Json :=
  (doc.field? k.part.name).bind (·.field? k.name)

def isEmptyObject : Json → Bool
  | .obj [] => true
  | _ => false

/-- Whether a value counts as one for the setting. How a domain is validated may be written as an
object, and merging another object without fields into it changes nothing. -/
def Key.counts {σ α : Type} : Key σ α → Json → Bool
  | validation, value => !isEmptyObject value
  | _, _ => true

def sectionNames : List String :=
  ["stack", "identity", "certificate", "build", "logging", "output"]

/-- An object in which no section is set to anything but an object. -/
def Regular (doc : Json) : Prop :=
  ∃ fields, doc = .obj fields ∧ ∀ s ∈ sectionNames, ∀ value, Fields.get? s fields = some value →
    ∃ inner, value = .obj inner

/-- A document that has all sections, and in order. -/
structure Whole (doc : Json) : Prop where
  sorted : doc.Sorted
  sections : ∃ fields, doc = .obj fields ∧ ∀ s ∈ sectionNames, ∃ inner,
    Fields.get? s fields = some (.obj inner)

theorem Part.name_mem {σ : Type} (p : Part σ) : p.name ∈ sectionNames := by
  cases p <;> decide

theorem Whole.merge {base doc : Json} (whole : Whole base) (regular : Regular doc)
    (sorted : doc.Sorted) : Whole (base.merge doc) := by
  obtain ⟨fields, rfl, sections⟩ := whole.sections
  obtain ⟨upper, rfl, objects⟩ := regular
  have laid := Json.get?_merge_fields sorted.1 fields
  refine ⟨Json.merge_sorted _ _ whole.sorted sorted, _, by rw [Json.merge], fun s listed => ?_⟩
  obtain ⟨inner, found⟩ := sections s listed
  rw [laid, found]
  cases given : Fields.get? s upper with
  | none => exact ⟨inner, rfl⟩
  | some value =>
    obtain ⟨own, rfl⟩ := objects s listed value given
    exact ⟨Json.mergeFields inner own, by simp [Json.laidOver, Json.merge]⟩

theorem in_document_sorted {σ α : Type} (k : Key σ α) {doc value : Json} (sorted : doc.Sorted)
    (given : k.inDocument? doc = some value) : value.Sorted := by
  obtain ⟨inner, there, found⟩ := Option.bind_eq_some_iff.mp given
  exact Json.field_sorted (Json.field_sorted sorted there) found

/-- One document laid over another: what it sets is laid over what was set before. -/
theorem in_document_merge {σ α : Type} (k : Key σ α) {base doc : Json} (whole : Whole base)
    (regular : Regular doc) (sorted : doc.Sorted) :
    k.inDocument? (base.merge doc) =
      match k.inDocument? doc with
      | some value => some (Json.laidOver (k.inDocument? base) value)
      | none => k.inDocument? base := by
  obtain ⟨fields, rfl, sections⟩ := whole.sections
  obtain ⟨upper, rfl, objects⟩ := regular
  obtain ⟨inner, found⟩ := sections _ k.part.name_mem
  have below : (Json.obj fields).field? k.part.name = some (.obj inner) := found
  rw [Key.inDocument?, Key.inDocument?, Key.inDocument?, Json.field_merge sorted.1, below]
  cases given : (Json.obj upper).field? k.part.name with
  | none => rfl
  | some value =>
    obtain ⟨own, rfl⟩ := objects _ k.part.name_mem value given
    have own_sorted : (Json.obj own).Sorted :=
      (Json.sorted_obj_iff.mp sorted).2 _ (Fields.mem_of_get? given)
    exact Json.field_merge own_sorted.1 inner k.name

/-- By induction on the documents. -/
theorem in_document_merged {σ α : Type} (k : Key σ α) {docs : List Json} {base value : Json}
    (whole : Whole base) (regular : ∀ doc ∈ docs, Regular doc) (sorted : ∀ doc ∈ docs, doc.Sorted)
    (start : k.inDocument? base = some value) :
    Whole (docs.foldl Json.merge base) ∧ k.inDocument? (docs.foldl Json.merge base) =
      some ((docs.filterMap k.inDocument?).foldl Json.merge value) := by
  induction docs generalizing base value with
  | nil => exact ⟨whole, start⟩
  | cons doc rest ih =>
    rw [List.forall_mem_cons] at regular sorted
    have laid := in_document_merge k whole regular.1 sorted.1
    rw [start] at laid
    have whole' := whole.merge regular.1 sorted.1
    cases given : k.inDocument? doc with
    | none =>
      rw [given] at laid
      simpa [given] using ih whole' regular.2 sorted.2 laid
    | some upper =>
      rw [given] at laid
      have next : k.inDocument? (base.merge doc) = some (value.merge upper) := laid
      simpa [given] using ih whole' regular.2 sorted.2 next

/-! What a value laid over another means: what it means itself, for all that is read. -/

theorem plain_decoded {α : Type} {decode : Json → Decoded α} {base value : Json} {x : α}
    (plain : ∀ fields x, decode (.obj fields) ≠ .ok x)
    (made : decode (base.merge value) = .ok x) : decode value = .ok x := by
  cases value with
  | obj upper =>
    cases base with
    | obj fields =>
      rw [Json.merge] at made
      exact absurd made (plain _ x)
    | _ => simpa [Json.merge] using made
  | _ => simpa [Json.merge] using made

theorem validation_object {fields : Fields} {x : CertificateValidation}
    (made : Decode.validation (.obj fields) = .ok x) :
    ∃ name, fields = [(name, .null)] ∧ choice name = .ok x := by
  unfold Decode.validation at made
  split at made
  · next same => cases same
  · next name value same =>
    cases same
    obtain ⟨chosen, choice, made⟩ := Outcome.bind_ok made
    cases value <;> cases made
    exact ⟨name, rfl, choice⟩
  · cases made
  · next plain => exact absurd rfl (plain fields)

/-- An object says how a domain is validated by its only field, which no other may be laid beside. -/
theorem validation_decoded {base value : Json} {x : CertificateValidation} (sorted : value.Sorted)
    (made : Decode.validation (base.merge value) = .ok x) :
    if isEmptyObject value = true then Decode.validation base = .ok x
    else Decode.validation value = .ok x := by
  cases value with
  | obj upper =>
    cases base with
    | obj fields =>
      cases upper with
      | nil => simpa [Json.merge, Json.mergeFields, isEmptyObject] using made
      | cons first rest =>
        rw [Json.merge] at made
        obtain ⟨name, only, chosen⟩ := validation_object made
        have shown : ∀ key value, Fields.get? key (first :: rest) = some value →
            key = name ∧ value = .null := by
          intro key value given
          have laid := Json.get?_merge_fields sorted.1 fields key
          rw [only, given] at laid
          by_cases own : name = key
          · rw [Fields.get?, if_pos own, Option.some.injEq] at laid
            exact ⟨own.symm, Json.laid_over_eq_null laid.symm⟩
          · rw [Fields.get?, if_neg own] at laid
            cases laid
        have single : first :: rest = [(name, .null)] := by
          obtain ⟨key, value⟩ := first
          obtain ⟨rfl, rfl⟩ := shown key value (if_pos rfl)
          cases rest with
          | nil => rfl
          | cons second others =>
            obtain ⟨other, value⟩ := second
            have less : key < other := (List.pairwise_cons.mp sorted.1).1 _ List.mem_cons_self
            have apart : key ≠ other := fun same => String.lt_irrefl key (same ▸ less)
            have again := shown other value ((if_neg apart).trans (if_pos rfl))
            exact absurd again.1.symm apart
        rw [single]
        change Decode.validation (.obj [(name, .null)]) = .ok x
        rw [Decode.validation, chosen]
        rfl
    | _ =>
      have replaced : Decode.validation (.obj upper) = .ok x := by simpa [Json.merge] using made
      cases upper with
      | nil => cases replaced
      | cons first rest => exact replaced
  | _ => simpa [Json.merge, isEmptyObject] using made

theorem counted_decoded {σ α : Type} (k : Key σ α) {base value : Json} {x : α}
    (sorted : value.Sorted) (made : k.decode (base.merge value) = .ok x) :
    if k.counts value = true then k.decode value = .ok x else k.decode base = .ok x := by
  cases k
  case validation =>
    have decoded := validation_decoded sorted made
    change if (!isEmptyObject value) = true then _ else _
    cases empty : isEmptyObject value with
    | true =>
      rw [empty] at decoded
      exact decoded
    | false =>
      rw [empty] at decoded
      exact decoded
  all_goals
    change if true = true then _ else _
    refine (if_pos rfl).mpr (plain_decoded (fun fields x plain => ?_) made)
    cases plain

/-- By induction on the values, from the last one. -/
theorem last_decoded {σ α : Type} (k : Key σ α) {values : List Json} {base : Json} {x : α}
    (sorted : ∀ value ∈ values, value.Sorted)
    (made : k.decode (values.foldl Json.merge base) = .ok x) :
    match (values.filter k.counts).getLast? with
    | some value => k.decode value = .ok x
    | none => k.decode base = .ok x := by
  induction values using List.reverseRecOn with
  | nil => exact made
  | append_singleton values last ih =>
    rw [List.foldl_append] at made
    have decoded := counted_decoded k (sorted last (by simp)) made
    rw [List.filter_append]
    split at decoded
    · next counts => simpa [counts] using decoded
    · next skipped =>
      have before : ∀ value ∈ values, value.Sorted := fun value listed =>
        sorted value (List.mem_append_left _ listed)
      simpa [skipped] using ih before decoded

/-! The defaults have all sections, and each setting in its place. -/

theorem to_json_sorted (c : Config) : c.toJson.Sorted := by
  have text : ∀ o, (textOrNull o).Sorted := by
    intro o
    cases o <;> trivial
  have texts : ∀ items, (Json.strs items).Sorted := by
    intro items
    rw [Json.strs, Json.sorted_arr_iff]
    simp [Json.Sorted]
  refine Json.sorted_object ?_
  simp only [List.forall_mem_cons, List.not_mem_nil, false_imp_iff, implies_true, and_true]
  refine ⟨Json.sorted_object ?_, Json.sorted_object ?_, Json.sorted_object ?_,
    Json.sorted_object ?_, Json.sorted_object ?_, Json.sorted_object ?_⟩
  all_goals simp [Json.Sorted, text, texts, Json.nat]
  cases c.identity.callbackUrls <;> simp [Json.Sorted, texts]

theorem default_whole : Whole ({} : Config).toJson := by
  refine ⟨to_json_sorted _, _, rfl, ?_⟩
  simp only [sectionNames, List.forall_mem_cons]
  exact ⟨⟨_, rfl⟩, ⟨_, rfl⟩, ⟨_, rfl⟩, ⟨_, rfl⟩, ⟨_, rfl⟩, ⟨_, rfl⟩, List.forall_mem_nil _⟩

theorem default_given {σ α : Type} (k : Key σ α) :
    ∃ value, k.inDocument? ({} : Config).toJson = some value ∧ k.decode value = .ok (k.read {}) := by
  cases k <;> exact ⟨_, rfl, rfl⟩

/-! What is loaded. -/

variable {files : FileTree} {env : Variables} {path : Option String} {docs : List Json} {c : Config}

/-- The documents of a run, the ones that count less first. A file that is asked for has to be there,
and then holds the only document; else the files of the user and of the project may be there. -/
def documents (files : FileTree) (env : Variables) (path : Option String) : Outcome (List Json) :=
  match path.or (env.lookup "ZKCIR_INFRA_CONFIG") with
  | some file =>
    if files.isFile file then [file].mapM (readDocument files)
    else .error (.config s!"config file not found: {file}")
  | none =>
    let user := (userDirectory? env).map fun directory =>
      Path.join (Path.join directory "zkcir-infra") "config.toml"
    let project := ["zkcir-infra.toml", "zkcir-infra.yaml", "zkcir-infra.yml", "zkcir-infra.json"]
    ((user.toList ++ project).filter files.exists?).mapM (readDocument files)

/-- The settings that documents and the environment make together. -/
def settle (env : Variables) (docs : List Json) : Outcome Config := do
  return override env (← ofDocument (docs.foldl Json.merge ({} : Config).toJson))

theorem overlay_all (paths : List String) (base : Json) :
    paths.foldlM (overlay files) base =
      ((paths.filter files.exists?).mapM (readDocument files)).map (·.foldl Json.merge base) := by
  induction paths generalizing base with
  | nil => rfl
  | cons path rest ih =>
    rw [List.foldlM_cons, overlay, List.filter_cons]
    split
    · rw [List.mapM_cons]
      cases readDocument files path with
      | error e => rfl
      | ok doc =>
        refine (ih (base.merge doc)).trans ?_
        cases (rest.filter files.exists?).mapM (readDocument files) <;> rfl
    · exact ih base

theorem exists_of_file {file : String} (there : files.isFile file = true) :
    files.exists? file = true := by
  rw [FileTree.isFile] at there
  rw [FileTree.exists?]
  split at there
  · next found => rw [found]
  · cases there

theorem documents_eq (files : FileTree) (env : Variables) (path : Option String) :
    documents files env path =
      sources files env path >>= fun paths =>
        (paths.filter files.exists?).mapM (readDocument files) := by
  rw [documents, sources, requestedFile?, Option.orElse_eq_or]
  cases path.or (env.lookup "ZKCIR_INFRA_CONFIG") with
  | none => rfl
  | some file =>
    dsimp only
    split
    · next there =>
      change _ = ([file].filter files.exists?).mapM (readDocument files)
      rw [List.filter_singleton, exists_of_file there]
      rfl
    · rfl

/-- All files are read before they are laid over each other, as far as can be told. -/
theorem load_eq (files : FileTree) (env : Variables) (path : Option String) :
    load files env path = documents files env path >>= settle env := by
  rw [load, documents_eq]
  cases sources files env path with
  | error e => rfl
  | ok paths =>
    change (paths.foldlM (overlay files) ({} : Config).toJson >>= fun merged => do
      return override env (← ofDocument merged)) = _ >>= settle env
    rw [overlay_all]
    change _ = (paths.filter files.exists?).mapM (readDocument files) >>= settle env
    cases (paths.filter files.exists?).mapM (readDocument files) <;> rfl

theorem document_sorted {path content : String} {doc : Json}
    (read : document path content = .ok doc) : doc.Sorted := by
  have parsed : ∀ {value : Option Json} {f : Failure}, value.elim (.error f) Except.ok = .ok doc →
      value = some doc := by
    intro value f made
    cases value <;> cases made
    rfl
  unfold document at read
  dsimp only at read
  split at read
  · exact Yaml.parsed_sorted (parsed read)
  · exact Yaml.parsed_sorted (parsed read)
  · exact Json.of_text_sorted (parsed read)
  · exact Toml.parsed_sorted (parsed read)
  · have either := parsed read
    cases toml : Toml.parse? content with
    | some value =>
      rw [toml] at either
      cases either
      exact Toml.parsed_sorted toml
    | none =>
      rw [toml] at either
      exact Yaml.parsed_sorted either

theorem documents_sorted (read : documents files env path = .ok docs) :
    ∀ doc ∈ docs, doc.Sorted := by
  rw [documents_eq] at read
  obtain ⟨paths, _, read⟩ := Outcome.bind_ok read
  intro doc listed
  obtain ⟨file, _, made⟩ := (Outcome.outcomes_of_mapM read).2 doc listed
  rw [readDocument] at made
  split at made
  · exact document_sorted made
  · cases made

theorem settle_known (sorted : ∀ doc ∈ docs, doc.Sorted) :
    settle env (docs.map known) = settle env docs := by
  have same : Decode.config ((docs.map known).foldl Json.merge ({} : Config).toJson) =
      Decode.config (docs.foldl Json.merge ({} : Config).toJson) := by
    rw [← config_known (docs.foldl _ _), known_merged (to_json_sorted _) sorted]
    rfl
  rw [settle, settle, ofDocument, same, ← ofDocument]

/-- Where the value of a setting comes from: the environment, else the last document that sets it,
else the defaults. -/
def Key.Settled {σ α : Type} (k : Key σ α) (env : Variables) (docs : List Json) (c : Config) : Prop :=
  match k.override? env with
  | some x => k.read c = x
  | none =>
    match ((docs.filterMap k.inDocument?).filter k.counts).getLast? with
    | some value => k.decode value = .ok (k.read c)
    | none => k.read c = k.read {}

theorem Key.Settled.unique {σ α : Type} {k : Key σ α} {c' : Config} (settled : k.Settled env docs c)
    (settled' : k.Settled env docs c') : k.read c = k.read c' := by
  rw [Key.Settled] at settled settled'
  cases overridden : k.override? env with
  | some x =>
    rw [overridden] at settled settled'
    exact settled.trans settled'.symm
  | none =>
    rw [overridden] at settled settled'
    cases last : ((docs.filterMap k.inDocument?).filter k.counts).getLast? with
    | some value =>
      rw [last] at settled settled'
      exact Except.ok.inj (settled.symm.trans settled')
    | none =>
      rw [last] at settled settled'
      exact settled.trans settled'.symm

/-- What is read of documents laid over the defaults is what their values for a setting, laid over the
default, mean together. -/
theorem read_merged {σ α : Type} (k : Key σ α) {start : Json} (sorted : ∀ doc ∈ docs, doc.Sorted)
    (regular : ∀ doc ∈ docs, Regular doc)
    (given : k.inDocument? ({} : Config).toJson = some start)
    (decoded : Decode.config (docs.foldl Json.merge ({} : Config).toJson) = .ok c) :
    k.decode ((docs.filterMap k.inDocument?).foldl Json.merge start) = .ok (k.read c) := by
  obtain ⟨whole, found⟩ := in_document_merged k default_whole regular sorted given
  obtain ⟨fields, same, sections⟩ := whole.sections
  obtain ⟨inner, there⟩ := sections _ k.part.name_mem
  have ascending := whole.sorted
  rw [same] at decoded ascending found
  have inner_sorted : (Json.obj inner).Sorted :=
    (Json.sorted_obj_iff.mp ascending).2 _ (Fields.mem_of_get? there)
  have field : Fields.get? k.name inner =
      some ((docs.filterMap k.inDocument?).foldl Json.merge start) := by
    rw [Key.inDocument?, Json.field?, there] at found
    exact found
  exact key_decoded k inner_sorted.1 field (part_decoded k.part ascending.1 there decoded)

theorem settled {σ α : Type} (k : Key σ α) (sorted : ∀ doc ∈ docs, doc.Sorted)
    (regular : ∀ doc ∈ docs, Regular doc) (made : settle env docs = .ok c) :
    k.Settled env docs c := by
  obtain ⟨start, given, meant⟩ := default_given k
  obtain ⟨merged, read, made⟩ := Outcome.bind_ok made
  cases made
  rw [ofDocument] at read
  split at read
  · next decoded =>
    cases read
    have values : ∀ value ∈ docs.filterMap k.inDocument?, value.Sorted := by
      intro value listed
      obtain ⟨doc, member, given⟩ := List.mem_filterMap.mp listed
      exact in_document_sorted k (sorted doc member) given
    rw [Key.Settled, Key.read_override]
    cases k.override? env with
    | some x => rfl
    | none =>
      have source := last_decoded k values (read_merged k sorted regular given decoded)
      split at source
      · next value counted => simpa [counted] using source
      · next nobody =>
        have same : k.read merged = k.read {} := Except.ok.inj (source.symm.trans meant)
        simpa [nobody] using same
  · cases read

/-! Files of a project side by side. -/

section Project

open FileTree

theorem project_file_named {name : String} (member : name ∈ projectFiles) : IsName name := by
  simp only [projectFiles, List.mem_cons, List.not_mem_nil, or_false] at member
  rcases member with rfl | rfl | rfl | rfl
  all_goals constructor
  all_goals decide +kernel

/-- What is read where the files of a project, and none else, are there. -/
theorem documents_flat {env : Variables} {texts : List (String × String)} (parsed : String → Json)
    (asked : env.lookup "ZKCIR_INFRA_CONFIG" = none) (homeless : userDirectory? env = none)
    (means : ∀ entry ∈ texts, document entry.1 entry.2 = .ok (parsed entry.1)) :
    documents (flat texts) env none =
      .ok ((projectFiles.filter fun name => (texts.lookup name).isSome).map parsed) := by
  have looked : sources (flat texts) env none = .ok projectFiles := by
    simp [sources, requestedFile?, asked, usualFiles, homeless]
  have there : projectFiles.filter (flat texts).exists? =
      projectFiles.filter fun name => (texts.lookup name).isSome :=
    List.filter_congr fun name member => flat_exists texts (project_file_named member)
  rw [documents_eq, looked]
  change (projectFiles.filter (flat texts).exists?).mapM (readDocument (flat texts)) = _
  rw [there]
  refine Outcome.mapM_ok fun name member => ?_
  obtain ⟨listed, present⟩ := List.mem_filter.mp member
  obtain ⟨text, found⟩ := Option.isSome_iff_exists.mp present
  rw [readDocument, flat_text texts (project_file_named listed), found]
  obtain ⟨before, after, rfl, _⟩ := List.lookup_eq_some_iff.mp found
  exact means (name, text) (List.mem_append_right _ List.mem_cons_self)

theorem document_toml {name content : String} {doc : Json} (ending : Path.extension name = "toml")
    (parsed : Toml.parse? content = some doc) : document name content = .ok doc := by
  simp [document, ending, parsed]

theorem document_yaml {name content : String} {doc : Json} (ending : Path.extension name = "yaml")
    (parsed : Yaml.parse? content = some doc) : document name content = .ok doc := by
  simp [document, ending, parsed]

theorem document_json {name content : String} {doc : Json} (ending : Path.extension name = "json")
    (parsed : Json.ofText? content = some doc) : document name content = .ok doc := by
  simp [document, ending, parsed]

end Project

/-- The settings of a run that loads are those that the documents and the environment settle, one by
one, and fields that are no setting change nothing. -/
theorem load_settled (files : FileTree) (env : Variables) (path : Option String) :
    (load files env path = do settle env ((← documents files env path).map known)) ∧
      ∀ c, load files env path = .ok c → ∃ docs, documents files env path = .ok docs ∧
        ((∀ doc ∈ docs, Regular doc) →
          ∀ c', (∀ {σ α : Type} (k : Key σ α), k.Settled env docs c') ↔ c' = c) := by
  have eq := load_eq files env path
  constructor
  · rw [eq]
    cases read : documents files env path with
    | error e => rfl
    | ok docs => exact (settle_known (documents_sorted read)).symm
  · intro c loaded
    rw [eq] at loaded
    cases read : documents files env path with
    | error e =>
      rw [read] at loaded
      cases loaded
    | ok docs =>
      rw [read] at loaded
      refine ⟨docs, rfl, fun regular c' => ⟨fun all => ?_, ?_⟩⟩
      · refine eq_of_read fun k => ?_
        exact (all k).unique (settled k (documents_sorted read) regular loaded)
      · rintro rfl σ α k
        exact settled k (documents_sorted read) regular loaded

/-- Two files that both name the stack, and a field that is no setting. -/
def twoFiles : List (String × String) := [
  ("zkcir-infra.toml", "[stack]\nname=\"Lower\"\nregion=\"eu-west-1\"\n"),
  ("zkcir-infra.json", "\x7b\"owner\": 7, \"stack\": \x7b\"name\": \"Upper\"\x7d\x7d")]

/-- No colors, and an account. -/
def plainAccount : Variables := [("NO_COLOR", ""), ("ZKCIR_ACCOUNT", "111122223333")]

def lowerDocument : Json :=
  .obj [("stack", .obj [("name", .str "Lower"), ("region", .str "eu-west-1")])]

def upperDocument : Json := .obj [("owner", .nat 7), ("stack", .obj [("name", .str "Upper")])]

theorem two_files_settled :
    ∃ c, load (.flat twoFiles) plainAccount none = .ok c ∧
      documents (.flat twoFiles) plainAccount none = .ok [lowerDocument, upperDocument] ∧
      (∀ doc ∈ [lowerDocument, upperDocument], Regular doc) ∧
      c.stack.name = "Upper" ∧ c.stack.region = "eu-west-1" ∧ c.stack.account = "111122223333" ∧
      c.output.color = false ∧ c.output.outdir = "cdk.out" := by
  have lower : document "zkcir-infra.toml" "[stack]\nname=\"Lower\"\nregion=\"eu-west-1\"\n" =
      .ok lowerDocument := document_toml rfl (by cbv)
  have upper : document "zkcir-infra.json"
      "\x7b\"owner\": 7, \"stack\": \x7b\"name\": \"Upper\"\x7d\x7d" = .ok upperDocument :=
    document_json rfl (by cbv)
  have read : documents (.flat twoFiles) plainAccount none = .ok [lowerDocument, upperDocument] := by
    refine documents_flat (fun name =>
      if name = "zkcir-infra.toml" then lowerDocument else upperDocument) rfl rfl ?_
    simp only [twoFiles, List.forall_mem_cons]
    exact ⟨lower, upper, List.forall_mem_nil _⟩
  have regular : ∀ doc ∈ [lowerDocument, upperDocument], Regular doc := by
    simp only [List.forall_mem_cons]
    refine ⟨⟨_, rfl, ?_⟩, ⟨_, rfl, ?_⟩, List.forall_mem_nil _⟩
    all_goals simp [sectionNames, Fields.get?]
  obtain ⟨c, made⟩ : ∃ c, settle plainAccount [lowerDocument, upperDocument] = .ok c := ⟨_, rfl⟩
  have loaded : load (.flat twoFiles) plainAccount none = .ok c := by
    rw [load_eq, read]
    exact made
  obtain ⟨docs, found, settles⟩ := (load_settled (.flat twoFiles) plainAccount none).2 c loaded
  obtain rfl := Except.ok.inj (read.symm.trans found)
  have each : ∀ {σ α : Type} (k : Key σ α), k.Settled plainAccount [lowerDocument, upperDocument] c :=
    ((settles regular) c).mpr rfl
  refine ⟨c, loaded, read, regular, ?_, ?_, each .account, each .color, each .outdir⟩
  · exact (Except.ok.inj (each .stackName)).symm
  · exact (Except.ok.inj (each .region)).symm

/-- Two files that say how a domain is validated, as objects, the second one without a field. -/
def emptiedFiles : List (String × String) := [
  ("zkcir-infra.yaml", "certificate:\n  validation:\n    dns:\n"),
  ("zkcir-infra.json", "\x7b\"certificate\": \x7b\"validation\": \x7b\x7d\x7d\x7d")]

def validatedDocument (validation : Fields) : Json :=
  .obj [("certificate", .obj [("validation", .obj validation)])]

/-- The last document that sets how the domain is validated does not decide it: its value means
nothing, and laid over the value before it changes nothing. -/
theorem emptied_validation_kept :
    ∃ docs c, documents (.flat emptiedFiles) [] none = .ok docs ∧ (∀ doc ∈ docs, Regular doc) ∧
      load (.flat emptiedFiles) [] none = .ok c ∧
      (docs.filterMap Key.validation.inDocument?).getLast? = some (.obj []) ∧
      (∀ x, Key.validation.decode (.obj []) ≠ .ok x) ∧ Key.validation.read c = .dns := by
  have lower : document "zkcir-infra.yaml" "certificate:\n  validation:\n    dns:\n" =
      .ok (validatedDocument [("dns", .null)]) := document_yaml rfl (by cbv)
  have upper : document "zkcir-infra.json"
      "\x7b\"certificate\": \x7b\"validation\": \x7b\x7d\x7d\x7d" = .ok (validatedDocument []) :=
    document_json rfl (by cbv)
  have read : documents (.flat emptiedFiles) [] none =
      .ok [validatedDocument [("dns", .null)], validatedDocument []] := by
    refine documents_flat (fun name =>
      if name = "zkcir-infra.yaml" then validatedDocument [("dns", .null)] else validatedDocument [])
      rfl rfl ?_
    simp only [emptiedFiles, List.forall_mem_cons]
    exact ⟨lower, upper, List.forall_mem_nil _⟩
  have regular : ∀ doc ∈ [validatedDocument [("dns", .null)], validatedDocument []], Regular doc := by
    simp only [List.forall_mem_cons]
    refine ⟨⟨_, rfl, ?_⟩, ⟨_, rfl, ?_⟩, List.forall_mem_nil _⟩
    all_goals simp [sectionNames, Fields.get?]
  refine ⟨_, { certificate := { validation := .dns } }, read, regular, ?_, rfl, ?_, rfl⟩
  · rw [load_eq, read]
    rfl
  · rintro x ⟨⟩

end StackSynth.Config
