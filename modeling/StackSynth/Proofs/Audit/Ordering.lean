import StackSynth.Proofs.Audit.Rules
import Mathlib.Data.List.Basic
import Mathlib.Data.List.Flatten

/-!
The findings on what has to wait for what. Where resources depend on more than before, some of these
findings go and none comes, and where each resource depends on all that it is blamed for, only the
findings of the other rules are left.
-/
namespace StackSynth

/-- The template with other lists of what its resources depend on. -/
def Template.dependingOn (t : Template) (lists : String → List String) : Template :=
  { t with resources := t.resources.mapValues fun id r => { r with dependsOn := lists id } }

namespace Template

theorem resource_depending_on (t : Template) (lists : String → List String) (id : String) :
    (t.dependingOn lists).resource? id =
      (t.resource? id).map fun r => { r with dependsOn := lists id } :=
  OrderedMap.get?_mapValues _ _ _

theorem resources_depending_on (t : Template) (lists : String → List String) (type : String) :
    (t.dependingOn lists).resourcesOfType type = (t.resourcesOfType type).map fun entry =>
      (entry.1, { entry.2 with dependsOn := lists entry.1 }) := by
  simp only [resourcesOfType, dependingOn, OrderedMap.mapValues, List.filter_map]
  rfl

end Template

namespace Audit

/-- What a resource is blamed for by a finding: it does not depend on a provider that it supports, or
on a policy of the role that its tasks run under. -/
inductive Blames (t : Template) : Finding → String → Prop
  | provider {id target name : String} {client provider : Resource}
      (listed : t.resource? id = some client)
      (type : client.type = "AWS::Cognito::UserPoolClient")
      (there : t.resource? target = some provider)
      (kind : provider.type = "AWS::Cognito::UserPoolIdentityProvider")
      (named : provider.property? "ProviderName" = some (.str name))
      (supports : name ∈ textsOf client "SupportedIdentityProviders")
      (missing : target ∉ client.dependsOn) :
      Blames t ⟨"V001", .error, id, s!"supports '{name}' but does not depend on {target}"⟩ target
  | policy {id target role : String} {service policy : Resource}
      (listed : t.resource? id = some service)
      (type : service.type = "AWS::ECS::Service")
      (runs : taskRole t service = some role)
      (there : t.resource? target = some policy)
      (kind : policy.type = "AWS::IAM::Policy")
      (attached : isAttachedTo role policy = true)
      (missing : target ∉ service.dependsOn) :
      Blames t ⟨"V003", .warning, id, s!"may start before task role policy {target} exists"⟩ target

/-- The rules on what has to wait for what. -/
def orderingRules : List String := ["V001", "V003"]

variable {t : Template} {lists : String → List String} {f : Finding} {target : String}

theorem mem_named_providers_iff {id name : String} : (id, name) ∈ namedProviders t ↔
    ∃ provider, t.resource? id = some provider ∧
      provider.type = "AWS::Cognito::UserPoolIdentityProvider" ∧
      provider.property? "ProviderName" = some (.str name) := by
  simp only [namedProviders, List.mem_filterMap, Prod.exists, Template.mem_resources_iff,
    Option.map_eq_some_iff, Option.bind_eq_some_iff, Prod.mk.injEq]
  constructor
  · rintro ⟨_, provider, ⟨there, kind⟩, _, ⟨value, named, text⟩, rfl, rfl⟩
    cases value with
    | str s => cases text; exact ⟨provider, there, kind, named⟩
    | _ => cases text
  · rintro ⟨provider, there, kind, named⟩
    exact ⟨id, provider, ⟨there, kind⟩, name, ⟨_, named, rfl⟩, rfl, rfl⟩

/-- A candidate is left if it is wanted and not depended on. -/
theorem lacks_iff {wanted : Bool} {waits : List String} :
    (wanted && !waits.contains target) = true ↔ wanted = true ∧ target ∉ waits := by
  rw [Bool.and_eq_true, Bool.not_eq_true', ← Bool.not_eq_true, List.contains_iff_mem]

theorem clients_blamed (found : f ∈ clientsWithoutProviders t) : ∃ target, Blames t f target := by
  obtain ⟨⟨id, client⟩, listed, found⟩ := List.mem_flatMap.mp found
  obtain ⟨⟨target, name⟩, candidate, rfl⟩ := List.mem_map.mp found
  obtain ⟨named, left⟩ := List.mem_filter.mp candidate
  obtain ⟨supports, missing⟩ := lacks_iff.mp left
  obtain ⟨there, type⟩ := Template.mem_resources_iff.mp listed
  obtain ⟨provider, registered, kind, named⟩ := mem_named_providers_iff.mp named
  exact ⟨target, .provider there type registered kind named (List.contains_iff_mem.mp supports) missing⟩

theorem services_blamed (found : f ∈ hastyServices t) : ∃ target, Blames t f target := by
  obtain ⟨⟨id, service⟩, listed, found⟩ := List.mem_flatMap.mp found
  cases runs : taskRole t service with
  | none => simp [runs] at found
  | some role =>
    simp only [runs] at found
    obtain ⟨⟨target, policy⟩, candidate, rfl⟩ := List.mem_map.mp found
    obtain ⟨candidate, left⟩ := List.mem_filter.mp candidate
    obtain ⟨attached, missing⟩ := lacks_iff.mp left
    obtain ⟨there, type⟩ := Template.mem_resources_iff.mp listed
    obtain ⟨declared, kind⟩ := Template.mem_resources_iff.mp candidate
    exact ⟨target, .policy there type runs declared kind attached missing⟩

theorem found_of_blames (blames : Blames t f target) :
    f ∈ clientsWithoutProviders t ++ hastyServices t := by
  cases blames with
  | @provider id _ name client _ listed type there kind named supports missing =>
    refine List.mem_append_left _ (List.mem_flatMap.mpr ⟨(id, client), ?_, ?_⟩)
    · exact Template.mem_resources_iff.mpr ⟨listed, type⟩
    · refine List.mem_map.mpr ⟨(target, name), List.mem_filter.mpr ⟨?_, ?_⟩, rfl⟩
      · exact mem_named_providers_iff.mpr ⟨_, there, kind, named⟩
      · exact lacks_iff.mpr ⟨List.contains_iff_mem.mpr supports, missing⟩
  | @policy id _ role service policy listed type runs there kind attached missing =>
    refine List.mem_append_right _ (List.mem_flatMap.mpr ⟨(id, service), ?_, ?_⟩)
    · exact Template.mem_resources_iff.mpr ⟨listed, type⟩
    · simp only [runs]
      refine List.mem_map.mpr ⟨(target, policy), List.mem_filter.mpr ⟨?_, ?_⟩, rfl⟩
      · exact Template.mem_resources_iff.mpr ⟨there, kind⟩
      · exact lacks_iff.mpr ⟨attached, missing⟩

theorem ordering_findings (t : Template) :
    (findings t).filter (fun f => orderingRules.contains f.rule) =
      clientsWithoutProviders t ++ hastyServices t := by
  rw [filter_findings t orderingRules.contains]
  simp [sections, orderingRules]

/-- The findings of the two rules are those that blame a resource for something. -/
theorem blames_iff : (∃ target, Blames t f target) ↔ f ∈ findings t ∧ f.rule ∈ orderingRules := by
  have found_iff : f ∈ findings t ∧ f.rule ∈ orderingRules ↔
      f ∈ clientsWithoutProviders t ++ hastyServices t := by
    rw [← ordering_findings, List.mem_filter, List.contains_iff_mem]
  rw [found_iff]
  exact ⟨fun ⟨_, blames⟩ => found_of_blames blames,
    fun found => (List.mem_append.mp found).elim clients_blamed services_blamed⟩

section DependingOn

variable (t : Template) (lists : String → List String)

theorem idle_listeners_depending_on : idleListeners (t.dependingOn lists) = idleListeners t := by
  simp [idleListeners, t.resources_depending_on, List.filter_map, Function.comp_def,
    Resource.property?]

theorem repeated_variables_depending_on :
    repeatedVariables (t.dependingOn lists) = repeatedVariables t := by
  simp [repeatedVariables, t.resources_depending_on, List.flatMap_map, Resource.property?]

theorem literal_secrets_depending_on : literalSecrets (t.dependingOn lists) = literalSecrets t := by
  simp [literalSecrets, t.resources_depending_on, List.filter_map, Function.comp_def,
    Resource.property?]

theorem open_ingress_depending_on : openIngress (t.dependingOn lists) = openIngress t := by
  simp [openIngress, ingressRules, t.resources_depending_on, List.flatMap_map, Function.comp_def,
    Resource.property?]

theorem named_providers_depending_on :
    namedProviders (t.dependingOn lists) = namedProviders t := by
  simp [namedProviders, t.resources_depending_on, List.filterMap_map, Resource.property?]

theorem task_role_depending_on (service : Resource) (waits : List String) :
    taskRole (t.dependingOn lists) { service with dependsOn := waits } = taskRole t service := by
  simp [taskRole, t.resource_depending_on, Resource.property?, Option.bind_map, Function.comp_def]

/-- Fewer of the candidates are left where more of them are depended on. -/
theorem filter_more_sublist {α : Type} {less more : List String} (sub : less ⊆ more) (p : α → Bool)
    (target : α → String) (candidates : List α) :
    (candidates.filter fun a => p a && !more.contains (target a)).Sublist
      (candidates.filter fun a => p a && !less.contains (target a)) := by
  refine List.monotone_filter_right candidates fun a left => ?_
  obtain ⟨wanted, missing⟩ := lacks_iff.mp left
  exact lacks_iff.mpr ⟨wanted, fun depends => missing (sub depends)⟩

variable {t lists} (more : ∀ id r, t.resource? id = some r → r.dependsOn ⊆ lists id)
include more

theorem clients_sublist :
    (clientsWithoutProviders (t.dependingOn lists)).Sublist (clientsWithoutProviders t) := by
  simp only [clientsWithoutProviders, named_providers_depending_on, t.resources_depending_on,
    List.flatMap_map, textsOf, Resource.property?]
  refine List.Sublist.flatMap_right _ fun (id, client) listed => .map _ ?_
  exact filter_more_sublist (more id client (Template.mem_resources_iff.mp listed).1) _ _ _

theorem services_sublist : (hastyServices (t.dependingOn lists)).Sublist (hastyServices t) := by
  simp only [hastyServices, t.resources_depending_on, List.flatMap_map, task_role_depending_on]
  refine List.Sublist.flatMap_right _ fun (id, service) listed => ?_
  cases taskRole t service with
  | none => exact .refl _
  | some role =>
    have same : ∀ (policy : Resource) (waits : List String),
        isAttachedTo role { policy with dependsOn := waits } = isAttachedTo role policy :=
      fun _ _ => rfl
    simp only [List.filter_map, List.map_map, Function.comp_def, same]
    refine .map _ ?_
    exact filter_more_sublist (more id service (Template.mem_resources_iff.mp listed).1)
      (fun entry => isAttachedTo role entry.2) Prod.fst _

/-- What is still blamed was blamed before, and is not depended on. -/
theorem blames_depending_on (blames : Blames (t.dependingOn lists) f target) :
    Blames t f target ∧ target ∉ lists f.logicalId := by
  have declared : ∀ {id : String} {r : Resource}, (t.dependingOn lists).resource? id = some r →
      ∃ r', t.resource? id = some r' ∧ r = { r' with dependsOn := lists id } := by
    intro id r found
    rw [Template.resource_depending_on, Option.map_eq_some_iff] at found
    obtain ⟨r', found, rfl⟩ := found
    exact ⟨r', found, rfl⟩
  cases blames with
  | provider listed type there kind named supports missing =>
    obtain ⟨client, before, rfl⟩ := declared listed
    obtain ⟨provider, registered, rfl⟩ := declared there
    exact ⟨.provider before type registered kind named supports (mt (@more _ _ before _) missing),
      missing⟩
  | policy listed type runs there kind attached missing =>
    obtain ⟨service, before, rfl⟩ := declared listed
    obtain ⟨policy, registered, rfl⟩ := declared there
    rw [task_role_depending_on] at runs
    exact ⟨.policy before type runs registered kind attached (mt (@more _ _ before _) missing),
      missing⟩

/-- Where resources depend on more, findings go and none comes. -/
theorem findings_sublist : (findings (t.dependingOn lists)).Sublist (findings t) := by
  simp only [findings, idle_listeners_depending_on, repeated_variables_depending_on,
    literal_secrets_depending_on, open_ingress_depending_on]
  have clients := clients_sublist more
  have services := services_sublist more
  -- the other rules find what they found before
  exact ((((clients.append (.refl _)).append services).append (.refl _)).append (.refl _)).append
    (.refl _)

/-- Where each resource depends on what it is blamed for, nothing is blamed any more. -/
theorem no_ordering_findings
    (repaired : ∀ f target, Blames t f target → target ∈ lists f.logicalId) :
    ∀ f ∈ findings (t.dependingOn lists), f.rule ∉ orderingRules := by
  intro f found rule
  obtain ⟨target, blames⟩ := blames_iff.mpr ⟨found, rule⟩
  obtain ⟨before, missing⟩ := blames_depending_on more blames
  exact missing (repaired f target before)

end DependingOn

theorem other_findings_depending_on (t : Template) (lists : String → List String) :
    (findings (t.dependingOn lists)).filter (fun f => f.rule ∉ orderingRules) =
      (findings t).filter fun f => f.rule ∉ orderingRules := by
  rw [filter_findings _ fun rule => decide (rule ∉ orderingRules),
    filter_findings _ fun rule => decide (rule ∉ orderingRules)]
  simp [sections, orderingRules, idle_listeners_depending_on, repeated_variables_depending_on,
    literal_secrets_depending_on, open_ingress_depending_on]

/-- The findings of the two rules blame a resource for what it does not depend on. Where resources
depend on more, whatever it is, the findings that are left stand in the order of before, and where each
depends on what it is blamed for, those of the two rules are gone and all others are left. -/
theorem ordering_repaired (t : Template) (lists : String → List String)
    (more : ∀ id r, t.resource? id = some r → r.dependsOn ⊆ lists id) :
    (∀ f, (∃ target, Blames t f target) ↔ f ∈ findings t ∧ f.rule ∈ orderingRules) ∧
      (findings (t.dependingOn lists)).Sublist (findings t) ∧
      ((∀ f target, Blames t f target → target ∈ lists f.logicalId) →
        (∀ f ∈ findings (t.dependingOn lists), f.rule ∉ orderingRules) ∧
        findings (t.dependingOn lists) = (findings t).filter fun f => f.rule ∉ orderingRules) := by
  refine ⟨fun f => blames_iff, findings_sublist more, fun repaired => ?_⟩
  have none_left := no_ordering_findings more repaired
  refine ⟨none_left, ?_⟩
  rw [← other_findings_depending_on, List.filter_eq_self.mpr]
  exact fun f found => decide_eq_true (none_left f found)

/-- A client that does not wait for its provider, a service that does not wait for the policy of its
tasks, and an open port. -/
def hastyTemplate : Template where
  resources := .ofList [
    ("Provider", .ofType "AWS::Cognito::UserPoolIdentityProvider" [("ProviderName", .str "Google")]),
    ("Client", .ofType "AWS::Cognito::UserPoolClient"
      [("SupportedIdentityProviders", .strs ["COGNITO", "Google"])]),
    ("Policy", .ofType "AWS::IAM::Policy" [("Roles", .arr [.obj [("Ref", .str "Role")]])]),
    ("Task", .ofType "AWS::ECS::TaskDefinition"
      [("TaskRoleArn", .obj [("Fn::GetAtt", .arr [.str "Role", .str "Arn"])])]),
    ("Service", .ofType "AWS::ECS::Service" [("TaskDefinition", .obj [("Ref", .str "Task")])]),
    ("Group", .ofType "AWS::EC2::SecurityGroupIngress"
      [("CidrIp", .str "0.0.0.0/0"), ("FromPort", .nat 22), ("ToPort", .nat 22)])]

/-- What is missing in it. -/
def missingLists : String → List String
  | "Client" => ["Provider"]
  | "Service" => ["Policy"]
  | _ => []

theorem hasty_template_repaired :
    (∀ id r, hastyTemplate.resource? id = some r → r.dependsOn ⊆ missingLists id) ∧
    (∀ f target, Blames hastyTemplate f target → target ∈ missingLists f.logicalId) ∧
    (findings hastyTemplate).map Finding.rule = ["V001", "V003", "V006"] ∧
    findings (hastyTemplate.dependingOn missingLists) =
      [⟨"V006", .warning, "Group", "open to the internet on port 22"⟩] := by
  have more : ∀ id r, hastyTemplate.resource? id = some r → r.dependsOn ⊆ missingLists id := by
    have free : ∀ entry ∈ hastyTemplate.resources.entries, entry.2.dependsOn = [] := by decide
    intro id r found
    rw [free (id, r) ((OrderedMap.get?_eq_some_iff _ _ _).mp found)]
    exact List.nil_subset _
  have place : ∀ {id type : String} {r : Resource}, hastyTemplate.resource? id = some r →
      r.type = type → id ∈ (hastyTemplate.resourcesOfType type).map Prod.fst :=
    fun found kind => List.mem_map_of_mem (Template.mem_resources_iff.mpr ⟨found, kind⟩)
  have repaired : ∀ f target, Blames hastyTemplate f target → target ∈ missingLists f.logicalId := by
    intro f target blames
    cases blames with
    | provider listed type there kind =>
      obtain rfl := List.mem_singleton.mp (place listed type)
      exact place there kind
    | policy listed type _ there kind =>
      obtain rfl := List.mem_singleton.mp (place listed type)
      exact place there kind
  exact ⟨more, repaired, by decide,
    ((ordering_repaired hastyTemplate missingLists more).2.2 repaired).2.trans (by decide)⟩

end Audit

end StackSynth
