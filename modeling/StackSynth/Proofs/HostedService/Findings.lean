import StackSynth.Proofs.HostedService.Declaration
import StackSynth.Proofs.Stack.Audited

/-!
Every build of the hosted service can be synthesized, and no rule of the audit finds anything in its
template, whatever the settings and the files are.
-/
namespace StackSynth.HostedService

variable {h : HostedService} {s : Stack}

/-- Resources of a type that the outline has one place for are one resource. -/
theorem same_resource (place : List String) (built : Built terms s) {type a b : String}
    {below above : List String} (only : ∀ entry ∈ outline, entry.2 = type → entry.1 = place)
    (apart : ∀ part ∈ openParts, type ∉ part.2)
    (first : s.At a below type) (second : s.At b above type) : a = b := by
  have sound := built_sound built
  have named : ∀ id path, s.At id path type → LogicalId.ofPath place = .ok id := by
    rintro id _ ⟨d, found, rfl, rfl⟩
    have outlined : Outlined d.path d.resource.type := (sound.fits id d found).declares
    rcases outlined with listed | ⟨part, listed, _, member⟩
    · rw [← only _ listed rfl]
      exact sound.named id d found
    · exact absurd member (apart part listed)
  exact Except.ok.inj ((named a below first).symm.trans (named b above second))

theorem no_clients_without_providers (built : Built terms s) (valid : h.Valid s) :
    Audit.clientsWithoutProviders s.template = [] := by
  refine List.flatMap_eq_nil_iff.mpr fun (id, r) listed => List.map_eq_nil_iff.mpr ?_
  refine List.filter_eq_nil_iff.mpr fun (providerId, name) named => ?_
  obtain ⟨d, found, type, rfl⟩ := Stack.resource_of_type listed
  obtain ⟨⟨_, provider⟩, other, kept⟩ := List.mem_filterMap.mp named
  obtain ⟨_, _, same⟩ := Option.map_eq_some_iff.mp kept
  cases same
  obtain ⟨e, there, other_type, rfl⟩ := Stack.resource_of_type other
  obtain rfl : id = h.signInClient.logicalId :=
    same_resource ["ZkcirUserPoolClient", "Resource"] built (by decide) (by decide)
      ⟨d, found, rfl, type⟩ valid.client.valid
  obtain rfl : providerId = h.googleProvider.logicalId :=
    same_resource ["ZkcirGoogleProvider", "Resource"] built (by decide) (by decide)
      ⟨e, there, rfl, other_type⟩ valid.provider
  have apart : h.googleProvider.logicalId ≠ h.signInClient.logicalId := by
    intro same
    rw [same, found] at there
    cases there
    rw [type] at other_type
    exact absurd other_type (by decide)
  have answers : h.googleProvider.logicalId ∈
      s.waitedFor ⟨h.signInClient.logicalId, h.googleProvider.path⟩ := by
    obtain ⟨provider, declared, path, _⟩ := valid.provider
    exact (Stack.mem_waited_for _ _).mpr ⟨apart, provider, declared, path ▸ List.prefix_append _ _⟩
  have depends := Stack.depends_on_answer valid.client.waits answers d.resource
  simp [depends]

theorem no_idle_listeners (built : Built terms s) (valid : h.Valid s) :
    Audit.idleListeners s.template = [] := by
  refine List.map_eq_nil_iff.mpr (List.filter_eq_nil_iff.mpr fun (id, r) listed => ?_)
  obtain ⟨d, found, type, rfl⟩ := Stack.resource_of_type listed
  obtain rfl : id = h.listener.logicalId :=
    same_resource ["ALB", "HttpsListener", "Resource"] built (by decide) (by decide)
      ⟨d, found, rfl, type⟩ valid.listener.itself
  obtain ⟨e, first, rest, again, acts⟩ := valid.acts
  rw [found] at again
  cases again
  rw [Listener.actionsKey] at acts
  simp [Stack.property_with_waits, acts, Json.asArr?]

/-- Its one service waits for its task role. -/
theorem services_attended (built : Built terms s) (valid : h.Valid s) : s.Attended := by
  intro id path there
  obtain rfl : id = h.service.logicalId :=
    same_resource ["Service", "Service"] built (by decide) (by decide) there valid.service.itself
  exact ⟨h.taskDefinition, valid.task, valid.runs.runs, valid.runs.waits⟩

theorem no_findings (built : Built terms s) (valid : h.Valid s) :
    Audit.findings s.template = [] := by
  have web : ∀ port, terms.opens port → port.toNat = 80 ∨ port.toNat = 443 := by
    rintro _ rfl
    exact .inr rfl
  simp only [Audit.findings, no_clients_without_providers built valid,
    no_idle_listeners built valid, Audit.no_hasty_services built (services_attended built valid),
    Audit.no_repeated_variables built, Audit.no_literal_secrets built,
    Audit.no_open_ingress built web, List.append_nil]

/-- Nothing is declared on a stack yet, and nothing waits, is granted or is put out. -/
structure Blank (s : Stack) : Prop where
  declared : s.declared = ∅
  waits : s.waits = []
  grants : s.grants = []
  outputs : s.outputs = ∅

theorem empty_stack_blank {c : Config} (made : emptyStack c = .ok s) : Blank s := by
  unfold emptyStack Stack.make at made
  obtain ⟨given, _, made⟩ := Outcome.bind_ok made
  split at made
  · cases made
    exact ⟨rfl, rfl, rfl, rfl⟩
  · cases made

/-- A build that succeeds has declared the service on an empty stack. -/
theorem build_run {files : FileTree} {c : Config} (made : build files c = .ok (h, s)) :
    ∃ start, Blank start ∧ start.run (declare files c) = (.ok h, s) := by
  unfold build at made
  obtain ⟨_, _, made⟩ := Outcome.bind_ok made
  obtain ⟨start, empty, made⟩ := Outcome.bind_ok made
  refine ⟨start, empty_stack_blank empty, ?_⟩
  rcases ran : start.run (declare files c) with ⟨result, left⟩
  rw [ran] at made
  obtain ⟨service, rfl, made⟩ := Outcome.bind_ok made
  cases made
  rfl

/-- A build that succeeds has declared the service within its outline. -/
theorem build_valid {files : FileTree} {c : Config} (made : build files c = .ok (h, s)) :
    Built terms s ∧ h.Valid s ∧ s.OutputsLead := by
  obtain ⟨start, blank, ran⟩ := build_run made
  have obeys : Obeys terms start (declare files c) fun h s' => h.Valid s' := declare_obeys
  obtain ⟨steps, holds⟩ := obeys ⟨start, blank.declared, blank.waits, .refl⟩
  have leads : start.OutputsLead := by
    intro output listed
    rw [blank.outputs] at listed
    cases listed
  rw [ran] at steps holds
  exact ⟨⟨start, blank.declared, blank.waits, steps⟩, holds h rfl, steps_outputs_lead steps leads⟩

theorem synthesizes (built : Built terms s) (leads : s.OutputsLead) :
    s.synthesize = .ok s.template := by
  obtain ⟨g, graph, acyclic⟩ := built_acyclic built terms_layered
  obtain ⟨made, result⟩ := (Stack.synthesize_ok_iff s).mpr ⟨g, graph, acyclic, leads⟩
  obtain ⟨_, _, expands, _, _, _, _, rfl⟩ := Stack.graph_of_template result
  rw [result, Stack.expanded_ok expands]
  rfl

/-- Every build that succeeds can be synthesized to a template in which nothing is found. -/
theorem build_without_findings (files : FileTree) (c : Config) :
    (build files c).map (fun made => made.2.synthesize.map Audit.findings) =
      (build files c).map fun _ => .ok [] := by
  cases made : build files c with
  | error e => rfl
  | ok result =>
    obtain ⟨h, s⟩ := result
    obtain ⟨built, valid, leads⟩ := build_valid made
    have clean := no_findings built valid
    simp only [Except.map, synthesizes built leads, clean]

end StackSynth.HostedService
