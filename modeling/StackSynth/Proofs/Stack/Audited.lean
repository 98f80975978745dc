import StackSynth.Proofs.Audit.Ingress
import StackSynth.Proofs.Constructs.Services
import StackSynth.Proofs.Stack.Built

/-!
What the rules of the audit look at in the template of a stack. The rules on variables, on secrets
and on open ports hold of each resource on its own, so they hold of every stack that is built. What
a role is allowed is declared below it, at any time, so a service that waits for the role of its
tasks waits for all of its policies.
-/
namespace StackSynth

namespace Stack

variable {s : Stack} {id type : String} {r : Resource}

/-- The template of a stack with all that its resources wait for. -/
def template (s : Stack) : Template := s.templateOf (s.resources.mapValues s.withWaits)

theorem type_with_waits (s : Stack) (id : String) (r : Resource) :
    (s.withWaits id r).type = r.type := by
  rw [with_waits_eq]

theorem property_with_waits (s : Stack) (id : String) (r : Resource) (key : String) :
    (s.withWaits id r).property? key = r.property? key := by
  rw [with_waits_eq, Resource.property?, Resource.property?]

theorem template_resource (s : Stack) (id : String) :
    s.template.resource? id = (s.declared.get? id).map fun d => s.withWaits id d.resource := by
  simp only [template, templateOf, Template.resource?, resources, OrderedMap.get?_mapValues,
    Option.map_map]
  rfl

/-- The resources of a type in the template are those of the stack. -/
theorem resource_of_type (listed : (id, r) ∈ s.template.resourcesOfType type) :
    ∃ d, s.declared.get? id = some d ∧ d.resource.type = type ∧ r = s.withWaits id d.resource := by
  obtain ⟨found, same⟩ := Template.mem_resources_iff.mp listed
  rw [template_resource, Option.map_eq_some_iff] at found
  obtain ⟨d, there, rfl⟩ := found
  exact ⟨d, there, (type_with_waits s id d.resource).symm.trans same, rfl⟩

/-- In the template a resource depends on what answers its waits. -/
theorem depends_on_answer {dependent answer : String} {path : List String}
    (waits : ⟨dependent, path⟩ ∈ s.waits) (answers : answer ∈ s.waitedFor ⟨dependent, path⟩)
    (r : Resource) : answer ∈ (s.withWaits dependent r).dependsOn :=
  (mem_with_waits s dependent r answer).mpr (.inr ⟨⟨dependent, path⟩, waits, rfl, answers⟩)

end Stack

namespace Audit

variable {t : Terms} {s : Stack}

theorem repeated_nil {seen names : List String} (distinct : names.Nodup)
    (fresh : ∀ name ∈ names, name ∉ seen) : repeated seen names = [] := by
  induction names generalizing seen with
  | nil => rfl
  | cons name rest ih =>
    rw [List.nodup_cons] at distinct
    have unseen : seen.contains name = false := by
      simpa using fresh name List.mem_cons_self
    rw [repeated, unseen, if_neg (by decide)]
    refine ih distinct.2 fun other member => ?_
    rw [List.mem_cons, not_or]
    refine ⟨?_, fresh other (List.mem_cons_of_mem _ member)⟩
    rintro rfl
    exact distinct.1 member

theorem no_repeated_variables (built : Built t s) : repeatedVariables s.template = [] := by
  refine List.flatMap_eq_nil_iff.mpr fun (id, r) listed => ?_
  obtain ⟨d, found, type, rfl⟩ := Stack.resource_of_type listed
  refine List.flatMap_eq_nil_iff.mpr fun container member => List.map_eq_nil_iff.mpr ?_
  rw [Stack.property_with_waits] at member
  have tidy := ((built_sound built).fits id d found).tidy
  exact repeated_nil (tidy.containers type container member).distinct fun _ _ => List.not_mem_nil

theorem no_literal_secrets (built : Built t s) : literalSecrets s.template = [] := by
  refine List.map_eq_nil_iff.mpr (List.filter_eq_nil_iff.mpr fun (id, r) listed => ?_)
  obtain ⟨d, found, type, rfl⟩ := Stack.resource_of_type listed
  have secret := ((built_sound built).fits id d found).tidy.secret type
  rw [clientSecret?] at secret
  simp [Stack.property_with_waits, secret]

/-- The rules for incoming traffic let everyone in on the ports that may be opened only. -/
theorem ingress_guarded (built : Built t s) :
    ∀ entry ∈ ingressRules s.template, Guarded t entry.2 := by
  intro (id, rule) member
  cases has_ingress_iff.mpr member with
  | listed there type list inside =>
    have listed := Template.mem_resources_iff.mpr ⟨there, type⟩
    obtain ⟨d, found, kind, rfl⟩ := Stack.resource_of_type listed
    rw [Stack.property_with_waits] at list
    exact ((built_sound built).fits id d found).tidy.rules kind _ list rule inside
  | alone there type =>
    have listed := Template.mem_resources_iff.mpr ⟨there, type⟩
    obtain ⟨d, found, kind, rfl⟩ := Stack.resource_of_type listed
    have guarded := ((built_sound built).fits id d found).tidy.rule kind
    rw [Stack.with_waits_eq]
    exact guarded

theorem no_open_ingress (built : Built t s)
    (web : ∀ port, t.opens port → port.toNat = 80 ∨ port.toNat = 443) :
    openIngress s.template = [] := by
  refine List.map_eq_nil_iff.mpr (List.filter_eq_nil_iff.mpr fun entry member => ?_)
  by_cases everyone : isOpenToAll entry.2 = true
  · obtain ⟨port, opens, first⟩ := ingress_guarded built entry member everyone
    rcases web port opens with low | high
    · simp [first, low]
    · simp [first, high]
  · simp [everyone]

end Audit

/-! Services that wait for the role of their tasks. -/

namespace Stack

variable {s s' : Stack} {id : String}

/-- A service waits for the role that its tasks run under. -/
def AttendedAt (s : Stack) (id : String) : Prop :=
  ∃ task : TaskDefinition, task.Valid s ∧ s.HasProperty id "TaskDefinition" task.arn.toJson ∧
    ⟨id, task.taskRole.path⟩ ∈ s.waits

def Attended (s : Stack) : Prop := ∀ id path, s.At id path "AWS::ECS::Service" → s.AttendedAt id

theorem AttendedAt.grows (attended : s.AttendedAt id) (grows : s.Grows s') : s'.AttendedAt id := by
  obtain ⟨task, valid, runs, waits⟩ := attended
  exact ⟨task, valid.grows grows, grows.hasProperty (by decide) runs, grows.waits waits⟩

end Stack

namespace Audit

variable {t : Terms} {s : Stack} {task : TaskDefinition}

/-- The template says which role the tasks of a service run under. -/
theorem task_role_of_service (valid : task.Valid s) {r : Resource}
    (runs : r.property? "TaskDefinition" = some task.arn.toJson) :
    taskRole s.template r = some task.taskRole.logicalId := by
  obtain ⟨d, found, role⟩ := valid.role
  have definition : task.arn.toJson.field? "Ref" = some (.str task.logicalId) := rfl
  have references : task.taskRole.arn.toJson.references =
      [⟨task.taskRole.logicalId, some "Arn"⟩] := by
    rw [Value.references_toJson]
    rfl
  simp [taskRole, runs, definition, Json.asStr?, Stack.template_resource, found,
    Stack.property_with_waits, role, references]

/-- A policy that is attached to a role is declared below it. -/
theorem policy_below {role : Role} (built : Built t s) (valid : role.Valid s) {id : String}
    {d : DeclaredResource} (found : s.declared.get? id = some d)
    (type : d.resource.type = "AWS::IAM::Policy")
    (attached : isAttachedTo role.logicalId d.resource = true) : role.path <+: d.path := by
  obtain ⟨owner, base, path, there, roles⟩ := ((built_sound built).fits id d found).policy type
  have same : owner = role.logicalId := by
    simp only [isAttachedTo, roles, Json.references_arr] at attached
    by_cases pseudo : isPseudoParameter owner = true
    · simp [Json.referencesInItems, Value.references, pseudo] at attached
    · simpa [Json.referencesInItems, Value.references, pseudo] using attached
  rw [same] at there
  have places := (Stack.At.unique there valid).1
  rw [path, ← List.append_cancel_right places]
  exact List.prefix_append _ _

theorem no_hasty_services (built : Built t s) (attended : s.Attended) :
    hastyServices s.template = [] := by
  refine List.flatMap_eq_nil_iff.mpr fun (id, r) listed => ?_
  obtain ⟨d, found, type, rfl⟩ := Stack.resource_of_type listed
  obtain ⟨task, valid, ⟨e, again, runs⟩, waits⟩ := attended id d.path ⟨d, found, rfl, type⟩
  rw [found] at again
  cases again
  have runs : (s.withWaits id d.resource).property? "TaskDefinition" = some task.arn.toJson := by
    rw [Stack.property_with_waits, runs]
  simp only [task_role_of_service valid runs]
  refine List.map_eq_nil_iff.mpr (List.filter_eq_nil_iff.mpr fun (policyId, policy) other => ?_)
  obtain ⟨e, there, policy_type, rfl⟩ := Stack.resource_of_type other
  by_cases attached : isAttachedTo task.taskRole.logicalId e.resource = true
  · have apart : policyId ≠ id := by
      rintro rfl
      rw [found] at there
      cases there
      rw [type] at policy_type
      exact absurd policy_type (by decide)
    have answers : policyId ∈ s.waitedFor ⟨id, task.taskRole.path⟩ :=
      (Stack.mem_waited_for _ _).mpr
        ⟨apart, e, there, policy_below built valid.taskRole there policy_type attached⟩
    have depends := Stack.depends_on_answer waits answers d.resource
    simp [depends]
  · have same : isAttachedTo task.taskRole.logicalId (s.withWaits policyId e.resource) =
        isAttachedTo task.taskRole.logicalId e.resource := by
      rw [isAttachedTo, isAttachedTo, Stack.property_with_waits]
    simp [same, attached]

end Audit

end StackSynth
