import StackSynth.Permissions.Role
import StackSynth.Proofs.Stack.Obeys

/-!
Roles, their policies and grants, as steps of a stack. A statement may name whatever a late resource
may need, since policies are of a late layer.
-/
namespace StackSynth

variable {t : Terms} {s s' : Stack}

namespace Resource

variable {r : Resource} {key : String} {value : Json} {P : String → Prop}

theorem within_with_property (within : r.Within P) (new : Json.Within P value) :
    (r.withProperty key value).Within P := by
  intro target needed
  rcases mem_targets_with_property needed with old | ⟨ref, refers, rfl⟩
  · exact within target old
  · exact new ref refers

theorem type_push_property (r : Resource) (key : String) (value : Json) :
    (r.pushProperty key value).type = r.type := by
  obtain ⟨items, same, _⟩ := r.push_property_eq key value
  rw [same]
  rfl

theorem within_push_property (within : r.Within P) (new : Json.Within P value) :
    (r.pushProperty key value).Within P := by
  obtain ⟨items, same, old⟩ := r.push_property_eq key value
  rw [same]
  refine within_with_property within ?_
  rw [Json.within_arr]
  intro item member
  rcases List.mem_append.mp member with before | last
  · rcases old with found | rfl
    · intro ref refers
      have inside : ref ∈ r.references := references_of_property found
        (by rw [Json.references_arr]; exact Json.mem_references_in_items.mpr ⟨item, before, refers⟩)
      exact within ref.target (List.mem_append_right _ (List.mem_map_of_mem inside))
    · simp at before
  · cases List.mem_singleton.mp last
    exact new

theorem property_push_property {k : String} (other : key ≠ k) :
    (r.pushProperty key value).property? k = r.property? k := by
  obtain ⟨items, same, _⟩ := r.push_property_eq key value
  rw [same, property_with_property, if_neg other]

end Resource

/-- Pushing a value is growing a list by it. -/
theorem grows_to_push {r : Resource} {key : String} {value : Json} (grown : key ∈ grownKeys)
    (refers : Json.Within (fun id => 0 < layer r.type ∧ Admits t s r.type id) value)
    (tidy : Tidy t r → Tidy t (r.pushProperty key value)) :
    ∃ key' whole, GrowsTo t s r key' whole ∧
      r.pushProperty key value = r.withProperty key' whole := by
  obtain ⟨items, same, old⟩ := r.push_property_eq key value
  refine ⟨key, _, ⟨grown, fun ref member => ?_, same ▸ tidy, fun _ => ?_⟩, same⟩
  · rw [Json.references_arr, Json.mem_references_in_items] at member
    obtain ⟨item, listed, member⟩ := member
    rcases List.mem_append.mp listed with before | last
    · rcases old with found | rfl
      · refine .inl (Resource.references_of_property found ?_)
        rw [Json.references_arr]
        exact Json.mem_references_in_items.mpr ⟨item, before, member⟩
      · simp at before
    · cases List.mem_singleton.mp last
      exact .inr (refers ref member)
  · cases items with
    | nil => exact ⟨value, [], rfl⟩
    | cons first rest => exact ⟨first, rest ++ [value], rfl⟩

theorem tidy_push {r : Resource} {key : String} {value : Json} (tidy : Tidy t r)
    (key_ne : key ∉ ["PolicyDocument", Container.listKey, "ProviderDetails",
      "SecurityGroupIngress", Listener.actionsKey])
    (type : r.type ≠ "AWS::EC2::SecurityGroupIngress") :
    Tidy t (r.pushProperty key value) := by
  simp only [List.mem_cons, List.not_mem_nil, or_false, not_or] at key_ne
  obtain ⟨document, containers, details, ingress, actions⟩ := key_ne
  have same_type := r.type_push_property key value
  refine ⟨fun present => ?_, fun same => ?_, fun same => ?_, fun same items found => ?_,
    fun same => absurd (same_type ▸ same) type, fun same => ?_⟩
  · rw [Resource.property_push_property document] at present
    exact same_type ▸ tidy.document present
  · rw [Container.listed, Resource.property_push_property containers]
    exact tidy.containers (same_type ▸ same)
  · rw [clientSecret?, Resource.property_push_property details]
    exact tidy.secret (same_type ▸ same)
  · rw [Resource.property_push_property ingress] at found
    exact tidy.rules (same_type ▸ same) items found
  · rw [Resource.property_push_property actions]
    exact tidy.actions (same_type ▸ same)

/-- A list of a resource that is there may grow by a value. -/
theorem obeys_push {id key type : String} {path : List String} {value : Json}
    (there : s.At id path type) (grown : key ∈ grownKeys)
    (refers : Json.Within (fun target => 0 < layer type ∧ Admits t s type target) value)
    (tidy : ∀ r : Resource, r.type = type → Tidy t r → Tidy t (r.pushProperty key value)) :
    Obeys t s (Stack.pushProperty id key value) fun _ s' =>
      s' = s.modify id (·.pushProperty key value) := by
  refine obeys_edit fun d found => ?_
  obtain ⟨_, same⟩ := Stack.At.unique there ⟨d, found, rfl, rfl⟩
  subst same
  exact grows_to_push grown refers (tidy d.resource rfl)

/-- The main resource of a construct is there, right below its path. -/
def Construct.Stands (c : Construct) (s : Stack) (leaf type : String) : Prop :=
  s.At c.logicalId (c.path ++ [leaf]) type

namespace ManagedPolicy

@[simp] theorem within_arn (P : String → Prop) (p : ManagedPolicy) :
    Json.Within P p.arn.toJson := by
  simp [arn]

end ManagedPolicy

theorem within_assumed_by (P : String → Prop) (service : String) :
    Json.Within P (assumedBy service) := by
  simp [assumedBy]

namespace PolicyStatement

theorem within_one_or_many {P : String → Prop} {items : List Json}
    (within : ∀ item ∈ items, Json.Within P item) : Json.Within P (oneOrMany items) := by
  unfold oneOrMany
  split
  · exact within _ List.mem_cons_self
  · rw [Json.within_arr]; exact within

theorem within_toJson {P : String → Prop} {statement : PolicyStatement}
    (within : ∀ v ∈ statement.resources, Json.Within P v.toJson) :
    Json.Within P statement.toJson := by
  have actions : Json.Within P (oneOrMany (statement.actions.map .str)) :=
    within_one_or_many (by simp)
  have resources : Json.Within P (oneOrMany (statement.resources.map Value.toJson)) :=
    within_one_or_many (by simpa using within)
  simp [toJson, actions, resources]

end PolicyStatement

namespace Role

variable {role : Role}

def Valid (role : Role) (s : Stack) : Prop :=
  role.toConstruct.Stands s "Resource" "AWS::IAM::Role"

theorem Valid.grows (valid : role.Valid s) (grows : s.Grows s') : role.Valid s' :=
  grows.at_ valid

/-- What holds of the resource of every role. -/
structure Shape (P : String → Prop) (r : Resource) : Prop where
  type : r.type = "AWS::IAM::Role"
  document : r.property? "PolicyDocument" = none
  within : r.Within P

theorem resource_for_shape (P : String → Prop) (settings : RoleSettings) :
    Shape P (resourceFor settings) := by
  have base : Shape P {
      type := "AWS::IAM::Role"
      properties := [("AssumeRolePolicyDocument", assumedBy settings.service)] } := by
    refine ⟨rfl, rfl, ?_⟩
    rw [Resource.within_iff]
    simp [within_assumed_by]
  refine List.foldlRecOn (motive := Shape P) settings.managedPolicies _ ?_ ?_
  · cases settings.description with
    | none => exact base
    | some text => exact ⟨rfl, rfl, Resource.within_with_property base.within (by simp)⟩
  · intro r shape policy _
    refine ⟨?_, ?_, Resource.within_push_property shape.within (ManagedPolicy.within_arn P policy)⟩
    · rw [Resource.type_push_property, shape.type]
    · rw [Resource.property_push_property (by decide), shape.document]

theorem declare_obeys {scope : List String} {id : String} {settings : RoleSettings}
    (declares : t.declares (scope ++ [id] ++ ["Resource"]) "AWS::IAM::Role") :
    Obeys t s (declare scope id settings) fun role s' =>
      role.Valid s' ∧ role.path = scope ++ [id] := by
  have ⟨type, document, within⟩ := resource_for_shape (Admits t s "AWS::IAM::Role") settings
  have fits : Fits t s (scope ++ [id] ++ ["Resource"]) (resourceFor settings) :=
    fits_plain _ type declares within (absurd document) (by simp) (by decide)
  exact obeys_bind (obeys_declare fits) fun _ _ _ declared => obeys_pure ⟨declared.at_ type, rfl⟩

theorem add_managed_policy_obeys {policy : ManagedPolicy} (valid : role.Valid s) :
    Obeys t s (role.addManagedPolicy policy) fun _ _ => True := by
  refine obeys_forget (obeys_push valid (by decide) (ManagedPolicy.within_arn _ policy)
    fun r type tidy => ?_)
  exact tidy_push tidy (by decide) (by rw [type]; decide)

/-- The policy of a role, once it is there. -/
theorem ensure_policy_obeys (valid : role.Valid s)
    (declares : t.declares role.policyPath "AWS::IAM::Policy") :
    Obeys t s role.ensurePolicy fun _ _ => True := by
  unfold ensurePolicy
  refine obeys_get ?_
  split
  · exact obeys_pure trivial
  · refine obeys_lift fun name _ => ?_
    have fits : Fits t s role.policyPath (role.emptyPolicy name) := by
      refine ⟨declares, ?_, ?_, fun same => ?_, fun _ => ?_⟩
      · rw [Resource.within_iff]
        have role_admitted : Admits t s "AWS::IAM::Policy" role.logicalId :=
          .below valid (by decide)
        simp [emptyPolicy, reference, role_admitted]
      · have type : (role.emptyPolicy name).type = "AWS::IAM::Policy" := rfl
        exact tidy_of_type (fun _ => by rw [type]; decide) (by rw [type]; decide)
      · have last : role.policyPath.getLast? = AutoDelete.handlerPath.getLast? := by rw [same]
        simp [policyPath, AutoDelete.handlerPath] at last
      · exact ⟨role.logicalId, role.path, rfl, valid, rfl⟩
    exact obeys_forget (obeys_declare fits)

theorem with_statement_grows {policy grown : Resource} {statement : PolicyStatement}
    (tidy : Tidy t policy) (late : ∀ v ∈ statement.resources, Json.Within (AdmitsLate t s) v.toJson)
    (found : withStatement? policy statement = some grown) :
    ∃ key value, GrowsTo t s policy key value ∧ grown = policy.withProperty key value := by
  unfold withStatement? at found
  split at found
  · next document present =>
    split at found
    · next statements listed =>
      cases found
      have layered : 2 ≤ layer policy.type := tidy.document (by rw [present]; simp)
      have field : ("Statement", Json.arr statements) ∈ document := Fields.mem_of_get? listed
      have grown_field : ("Statement", Json.arr (statements ++ [statement.toJson])) ∈
          Fields.insert "Statement" (.arr (statements ++ [statement.toJson])) document :=
        Fields.mem_of_get? (by simp)
      -- the statements of the document, of which only the last is new
      refine ⟨"PolicyDocument", _, ⟨by decide, fun ref member => ?_, fun _ => ?_,
        fun same => absurd same (by decide)⟩, rfl⟩
      · rw [Json.references_obj_of_field grown_field (by decide)] at member
        have old : Json.referencesInFields document ⊆ policy.references := by
          rw [← Json.references_obj_of_field field (by decide)]
          exact Resource.references_of_property present
        rcases Json.references_insert member with new | before
        · rw [Json.references_arr, Json.references_in_items_append] at new
          rcases List.mem_append.mp new with before | last
          · refine .inl (old (Json.references_of_field listed ?_))
            rw [Json.references_arr]
            exact before
          · refine .inr ⟨by omega, ?_⟩
            have within := PolicyStatement.within_toJson late
            have single : ref ∈ statement.toJson.references := by simpa using last
            exact within ref single policy.type layered
        · exact .inl (old before)
      · refine ⟨fun _ => layered, fun same => ?_, fun same => ?_, fun same => ?_, fun same => ?_,
          fun same => ?_⟩
        · rw [Container.listed, Resource.property_with_property]
          exact tidy.containers same
        · rw [clientSecret?, Resource.property_with_property]
          exact tidy.secret same
        · rw [Resource.property_with_property]
          exact tidy.rules same
        · have type : policy.type = "AWS::EC2::SecurityGroupIngress" := same
          rw [type] at layered
          exact absurd layered (by decide)
        · rw [Resource.property_with_property]
          exact tidy.actions same
    · cases found
  · cases found

theorem add_to_policy_obeys {statement : PolicyStatement} (valid : role.Valid s)
    (declares : t.declares role.policyPath "AWS::IAM::Policy")
    (late : ∀ v ∈ statement.resources, Json.Within (AdmitsLate t s) v.toJson) :
    Obeys t s (role.addToPolicy statement) fun _ _ => True := by
  unfold addToPolicy
  refine obeys_bind (ensure_policy_obeys valid declares) fun id s₁ grows _ => ?_
  refine obeys_get ?_
  split
  · exact obeys_throw
  · next policy there =>
    split
    · next grown found =>
      refine obeys_built fun built => ?_
      refine obeys_forget (obeys_edit fun d present => ?_)
      have same : policy = d.resource := by
        rw [Stack.resource?, present] at there
        cases there
        rfl
      subst same
      have fits := (built_sound built).fits id d present
      exact with_statement_grows fits.tidy
        (fun v member => (late v member).imp fun _ admits => admits.grows grows) found
    · exact obeys_throw

theorem grant_obeys {kind : GrantKind} {target : String} {statements : List PolicyStatement}
    (valid : role.Valid s) (declares : t.declares role.policyPath "AWS::IAM::Policy")
    (late : ∀ statement ∈ statements, ∀ v ∈ statement.resources,
      Json.Within (AdmitsLate t s) v.toJson) :
    Obeys t s (role.grant kind target statements) fun _ _ => True := by
  unfold grant
  refine obeys_bind (Q := fun _ _ => True) ?_ fun recorded s₁ grows _ => ?_
  · refine obeys_keep ?_ ?_ ?_ trivial
    · split <;> rfl
    · split <;> rfl
    · split <;> rfl
  · have each : Obeys t s₁ (statements.forM role.addToPolicy) fun _ _ => True := by
      refine obeys_forM trivial fun s₂ more _ statement member => ?_
      have all := Stack.grows_trans grows more
      exact add_to_policy_obeys (valid.grows all) declares fun v listed =>
        (late statement member v listed).imp fun _ admits => admits.grows all
    split
    · exact obeys_bind each fun _ _ _ _ => obeys_pure trivial
    · exact obeys_pure trivial

end Role

end StackSynth
