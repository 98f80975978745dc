import StackSynth.Compute.Function
import StackSynth.Compute.TaskDefinition
import StackSynth.Identity.Certificate
import StackSynth.Identity.SignInClient
import StackSynth.Identity.SignInDomain
import StackSynth.Proofs.Constructs.Functions
import StackSynth.Proofs.Constructs.Uniform

/-!
Constructs that take texts from the settings: names of domains and clients, images and addresses.
Declared with other texts, they are the same resources under the same ids, and what can be declared
with some texts can be declared with all others that pass the checks.
-/
namespace StackSynth

variable {T : Prop}

namespace Certificate

theorem agree_declare (id domain₁ domain₂ : String)
    (validation₁ validation₂ : CertificateValidation)
    (fits : T → isDomainName (Text.trim domain₂) = true) :
    Agree T (Certificate.declare id domain₁ validation₁) (Certificate.declare id domain₂ validation₂)
      fun c₁ c₂ => c₁.toConstruct = c₂.toConstruct := by
  unfold Certificate.declare
  refine agree_unless (fun given _ => by simp [fits given]) fun _ _ =>
    agree_declared ?_ fun _ => rfl
  simp [Resource.bare, Json.bare_field_eq]

end Certificate

namespace GoogleProvider

theorem alike_resource {pool : UserPool} {settings₁ settings₂ : GoogleProviderSettings}
    (mapping : settings₁.mapping = settings₂.mapping) :
    (resourceFor pool settings₁).bare = (resourceFor pool settings₂).bare := by
  have secret : ∀ s : Secret, s.value.toJson.bare = (Secret.mk "").value.toJson.bare := by
    intro s
    simp [Secret.value, Secret.arn, Value.toJson, Value.toJsons, Json.bare_field_eq]
  unfold resourceFor
  rw [mapping]
  dsimp only
  split <;> simp [Resource.bare, Resource.withProperty, Json.bare_fields_insert, Json.bare_field_eq,
    secret settings₁.clientSecret, secret settings₂.clientSecret]

theorem agree_declare (id : String) (pool : UserPool) {settings₁ settings₂ : GoogleProviderSettings}
    (mapping : settings₁.mapping = settings₂.mapping)
    (fits : T → Text.isBlank settings₂.clientId = false) :
    Agree T (GoogleProvider.declare id pool settings₁) (GoogleProvider.declare id pool settings₂)
      Eq := by
  unfold GoogleProvider.declare
  exact agree_unless (fun given _ => by simp [fits given]) fun _ _ =>
    agree_declared (alike_resource mapping) fun _ => rfl

end GoogleProvider

namespace SignInDomain

theorem agree_declare (id : String) (pool : UserPool) (label₁ label₂ : String)
    (fits : T → isLabel label₂ = true ∧ ∀ word ∈ reservedWords, Text.contains word label₂ = false) :
    Agree T (SignInDomain.declare id pool label₁) (SignInDomain.declare id pool label₂)
      fun d₁ d₂ => d₁.toConstruct = d₂.toConstruct := by
  unfold SignInDomain.declare
  refine agree_unless (fun given _ => by simp [(fits given).1]) fun _ _ =>
    agree_unless (fun given _ => by simpa using (fits given).2) fun _ _ =>
      agree_declared ?_ fun _ => rfl
  simp [Resource.bare, Json.bare_field_eq]

end SignInDomain

namespace SignInClient

/-- A client with a flow cannot do without addresses. -/
theorem urls_of_check {settings : SignInClientSettings} {id : String} {urls : List String}
    {span : Option Duration} {done : Unit} (flow : flows settings ≠ [])
    (passed : check id { settings with callbackUrls := urls, tokenValidity := span } = .ok done) :
    urls ≠ [] := by
  rintro rfl
  have flow' : flows { settings with callbackUrls := [], tokenValidity := span } ≠ [] := flow
  simp [check, flow', bind, Except.bind] at passed

theorem alike_properties (settings : SignInClientSettings) (span₁ span₂ : Duration)
    (pool : UserPool) {urls₁ urls₂ : List String} (first : urls₁ ≠ []) (second : urls₂ ≠ []) :
    Json.bareFields (properties pool
        { settings with callbackUrls := urls₁, tokenValidity := some span₁ }) =
      Json.bareFields (properties pool
        { settings with callbackUrls := urls₂, tokenValidity := some span₂ }) := by
  have silent : ∀ urls : List String, Json.Silent "CallbackURLs" (.strs urls) := by
    intro urls
    refine ⟨?_, Json.references_strs urls, by decide⟩
    rw [Json.references_obj_of_field List.mem_cons_self (by decide)]
    simp
  have dropped : ∀ urls : List String, Json.bareField "CallbackURLs" (.strs urls) = .null := by
    intro urls
    rw [Json.bareField, if_pos (by decide), if_pos (silent urls)]
  have listed : ∀ urls : List String, urls ≠ [] →
      Json.bareFields (optionalTexts "CallbackURLs" urls) = [("CallbackURLs", .null)] := by
    intro urls some
    rw [optionalTexts, if_neg (by simpa using some)]
    simp [dropped]
  simp only [properties, Json.bare_fields_append, listed urls₁ first, listed urls₂ second]
  simp [flows, Json.bare_field_eq]

theorem agree_declare (id : String) (pool : UserPool) (settings : SignInClientSettings)
    (urls₁ urls₂ : List String) (span₁ span₂ : Duration) (flow : flows settings ≠ [])
    (fits : T →
      check id { settings with callbackUrls := urls₂, tokenValidity := some span₂ } = .ok ()) :
    Agree T (declare id pool { settings with callbackUrls := urls₁, tokenValidity := some span₁ })
      (declare id pool { settings with callbackUrls := urls₂, tokenValidity := some span₂ })
      Eq := by
  refine agree_lift (fun given _ _ => ⟨(), fits given⟩) fun _ _ first second => ?_
  have some₁ : urls₁ ≠ [] := urls_of_check flow first
  have some₂ : urls₂ ≠ [] := urls_of_check flow second
  refine agree_declared ?_ fun _ => rfl
  simp only [Resource.bare, alike_properties settings span₁ span₂ pool some₁ some₂]

end SignInClient

namespace ImageAsset

theorem bare_uri {image : ImageAsset} (plain : image.Plain) :
    image.uri.toJson.bare = .obj [("Fn::Sub", .null)] := by
  have none : image.uri.toJson.references = [] :=
    List.eq_nil_iff_forall_not_mem.mpr fun ref => uri_within (fun _ => False) plain ref
  have silent : ∀ text, image.uri.toJson = .obj [("Fn::Sub", .str text)] →
      Json.Silent "Fn::Sub" (.str text) := fun text same =>
    ⟨same ▸ none, Json.references_str text, by decide⟩
  rw [uri, Value.toJson, Json.bare_obj, Json.bare_fields_cons, Json.bareField,
    if_pos (by decide), if_pos (silent _ rfl), Json.bare_fields_nil]

theorem agree_declare (files₁ files₂ : FileTree) (path : List String)
    (settings₁ settings₂ : Settings)
    (fits : T → ∃ source, sourceOf files₂ path settings₂ = .ok source) :
    Agree T (declare files₁ path settings₁) (declare files₂ path settings₂)
      fun i₁ i₂ => i₁.uri.toJson.bare = i₂.uri.toJson.bare := by
  refine agree_lift (fun given _ _ => fits given) fun source₁ source₂ first second => ?_
  refine agree_bind (agree_add_asset _ _) fun _ _ _ => agree_pure ?_
  rw [bare_uri (source_of_plain first), bare_uri (source_of_plain second)]

end ImageAsset

namespace LambdaFunction

theorem alike_properties (settings : FunctionSettings) (source₁ source₂ : ImageAsset.Settings)
    {image₁ image₂ : ImageAsset} (role : Role) (logs : Option LogGroup)
    (same : image₁.uri.toJson.bare = image₂.uri.toJson.bare) :
    Json.bareFields (properties { settings with image := source₁ } image₁ role logs) =
      Json.bareFields (properties { settings with image := source₂ } image₂ role logs) := by
  simp [properties, Json.bare_field_eq, same]

theorem agree_declare (files₁ files₂ : FileTree) (id : String) (settings : FunctionSettings)
    (source₁ source₂ : ImageAsset.Settings)
    (fits : T → ∃ source, ImageAsset.sourceOf files₂ [id, "AssetImage"] source₂ = .ok source) :
    Agree T (declare files₁ id { settings with image := source₁ })
      (declare files₂ id { settings with image := source₂ })
      fun f₁ f₂ => f₁.toConstruct = f₂.toConstruct := by
  refine agree_lift (fun _ done checked => ⟨done, checked⟩) fun _ _ _ _ => ?_
  refine agree_bind (ImageAsset.agree_declare _ _ _ _ _ fits) fun image₁ image₂ same => ?_
  refine agree_bind (Role.uniform_declare _ _ _) ?_
  rintro role _ rfl
  have resource : ∀ logs, Agree T (Stack.declare [id, "Resource"] {
        type := "AWS::Lambda::Function"
        properties := properties { settings with image := source₁ } image₁ role logs })
      (Stack.declare [id, "Resource"] {
        type := "AWS::Lambda::Function"
        properties := properties { settings with image := source₂ } image₂ role logs }) Eq := by
    intro logs
    refine StackSynth.agree_declare ?_
    simp only [Resource.bare, alike_properties settings source₁ source₂ role logs same]
  extract_lets finish₁ finish₂
  have finished : ∀ logs, Agree T (finish₁ logs) (finish₂ logs)
      fun f₁ f₂ => f₁.toConstruct = f₂.toConstruct := by
    intro logs
    refine agree_bind (resource logs) ?_
    rintro logicalId _ rfl
    exact agree_bind (uniform_wait_for_path _ _) fun _ _ _ => agree_pure rfl
  cases settings.retention with
  | some retention =>
    refine agree_bind (agree_map (R := Eq) (LogGroup.uniform_declare _ _ _ _) ?_) ?_
    · rintro group _ rfl
      rfl
    rintro logs _ rfl
    exact finished logs
  | none =>
    refine agree_bind (uniform_pure none) ?_
    rintro logs _ rfl
    exact finished logs

theorem agree_grant_invoke {f₁ f₂ : LambdaFunction} (same : f₁.toConstruct = f₂.toConstruct)
    (role : Role) : Agree T (f₁.grantInvoke role) (f₂.grantInvoke role) Eq := by
  have alike : f₁.grantInvoke role = f₂.grantInvoke role := by
    unfold grantInvoke arn
    rw [same]
  rw [alike]
  exact role.uniform_grant _ _ _

end LambdaFunction

namespace Container

variable {key : String}

theorem bare_append_in (ordinary : key ∉ Json.wholeKeys) (items : List Json) (fields : Fields) :
    Json.bareFields (appendIn key items fields) =
      appendIn key (items.map Json.bare) (Json.bareFields fields) := by
  unfold appendIn
  rw [Json.get?_bare_fields]
  cases Fields.get? key fields with
  | none => simp [Json.bare_fields_insert, Json.bare_field_ordinary ordinary]
  | some present =>
    rw [Option.map_some, Json.bare_field_ordinary ordinary]
    cases present <;>
      simp [Json.bare, Json.bare_items_eq, Json.bare_fields_insert,
        Json.bare_field_ordinary ordinary]

/-- The place of the next container is the same in stacks that are alike. -/
theorem alike_places {s₁ s₂ : Stack} (alike : s₁.Alike s₂) (id : String) :
    ((s₁.resource? id).elim 0 fun r => (listed r).length) =
      (s₂.resource? id).elim 0 fun r => (listed r).length := by
  have counted : ∀ r : Resource, (listed r.bare).length = (listed r).length := by
    intro r
    rw [bare_listed, List.length_map]
  have same := congrArg (·.elim 0 fun r => (listed r).length) (alike.resource? id)
  simpa only [Option.elim_map, Function.comp_def, counted] using same

theorem alike_entry {r₁ r₂ : Resource} (alike : r₁.bare = r₂.bare) (index : Nat)
    {fields₁ fields₂ : Fields} (same : Json.bareFields fields₁ = Json.bareFields fields₂) :
    (r₁.withProperty listKey (.arr ((listed r₁).set index (.obj fields₁)))).bare =
      (r₂.withProperty listKey (.arr ((listed r₂).set index (.obj fields₂)))).bare := by
  have ordinary : listKey ∉ Json.wholeKeys := by decide
  simp only [Resource.bare_with_property, Json.bare_field_ordinary ordinary, Json.bare_arr,
    List.map_set, Json.bare_obj, alike, alike_listed alike, same]

theorem agree_edit_entry (c : Container) {f g : Fields → Fields}
    (keeps : ∀ x y, Json.bareFields x = Json.bareFields y →
      Json.bareFields (f x) = Json.bareFields (g y)) :
    Agree T (c.editEntry f) (c.editEntry g) Eq := by
  refine agree_get fun s₁ s₂ alike => ?_
  cases first : s₁.resource? c.taskDefinitionId with
  | none => exact agree_throw
  | some r₁ =>
    obtain ⟨r₂, second, kept⟩ := alike.counterpart first
    have entries := congrArg (·[c.index]?) (alike_listed kept)
    simp only [second]
    split
    · next fields₁ one =>
      simp only [List.getElem?_map, one, Option.map_some, Json.bare_obj] at entries
      obtain ⟨entry, two, same⟩ := Option.map_eq_some_iff.mp entries.symm
      obtain ⟨fields₂, rfl, counterpart⟩ := Json.obj_of_bare same
      simp only [two]
      exact agree_edit fun _ _ alike => alike_entry alike c.index (keeps _ _ counterpart.symm)
    · exact agree_throw

theorem uniform_add_ports (c : Container) (ports : List PortMapping) :
    Uniform T (c.addPorts ports) := by
  refine c.agree_edit_entry fun x y same => ?_
  rw [bare_append_in (by decide), bare_append_in (by decide), same]

theorem agree_add_environment (c : Container) (name : String) {v₁ v₂ : Value}
    (same : v₁.toJson.bare = v₂.toJson.bare) :
    Agree T (c.addEnvironment name v₁) (c.addEnvironment name v₂) Eq := by
  unfold addEnvironment
  refine agree_unless (fun _ => id) fun _ _ => agree_get fun s₁ s₂ alike => ?_
  rw [alike_environment_names alike]
  refine agree_unless (fun _ => id) fun _ _ => ?_
  refine c.agree_edit_entry fun x y alike => ?_
  rw [bare_append_in (by decide), bare_append_in (by decide), alike]
  simp [Json.bare_field_eq, same]

end Container

namespace TaskDefinition

theorem uniform_declare_logging (task : TaskDefinition) (id : String) (settings : LogSettings) :
    Uniform T (task.declareLogging id settings) := by
  refine uniform_bind (LogGroup.uniform_declare _ _ _ _) fun group => ?_
  exact uniform_bind (task.executionRole.uniform_grant _ _ _) fun _ => uniform_pure _

theorem agree_add_container (task : TaskDefinition) (id : String) (settings : ContainerSettings)
    {image₁ image₂ : ImageAsset} (same : image₁.uri.toJson.bare = image₂.uri.toJson.bare) :
    Agree T (task.addContainer id { settings with image := .asset image₁ })
      (task.addContainer id { settings with image := .asset image₂ }) Eq := by
  unfold addContainer
  refine agree_unless (fun _ fresh => fresh) fun _ _ =>
    agree_bind (task.executionRole.uniform_grant _ _ _) ?_
  rintro _ _ -
  extract_lets finish₁ finish₂
  have finished : ∀ logging, Agree T (finish₁ logging) (finish₂ logging) Eq := by
    intro logging
    refine agree_get fun s₁ s₂ alike => ?_
    rw [Container.alike_places alike]
    generalize ((s₂.resource? task.logicalId).elim 0 fun r => (Container.listed r).length) = index
    refine agree_bind (agree_push_property (by decide) ?_) fun _ _ _ => ?_
    · simp [ContainerImage.name, Json.bare_field_eq, same]
    have added : Uniform T (settings.environment.entries.forM fun entry =>
        (Container.mk task.logicalId id index).addEnvironment entry.1 entry.2) :=
      uniform_forM fun entry _ => Container.agree_add_environment _ _ rfl
    dsimp only
    split
    · exact uniform_bind (Container.uniform_add_ports _ _) fun _ =>
        uniform_bind added fun _ => uniform_pure _
    · exact uniform_bind added fun _ => uniform_pure _
  cases settings.logging with
  | some log =>
    refine agree_bind (task.uniform_declare_logging id log) ?_
    rintro configuration _ rfl
    rw [pure_bind, pure_bind]
    exact finished _
  | none =>
    dsimp only
    rw [pure_bind, pure_bind]
    exact finished _

end TaskDefinition

end StackSynth
