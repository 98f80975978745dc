import StackSynth.Data.Bucket
import StackSynth.Data.Table
import StackSynth.Proofs.Constructs.Permissions

/-!
Buckets and tables as steps of a stack. The function that empties buckets is found by its id, so a
bucket may take another resource for it; nothing else can be taken for what it is not.
-/
namespace StackSynth

variable {t : Terms} {s s' : Stack} {id : String}

namespace AutoDelete

def roleId : String := LogicalId.numbered rolePath
def handlerId : String := LogicalId.numbered handlerPath

theorem role_id : LogicalId.ofPath rolePath = .ok roleId := rfl
theorem handler_id : LogicalId.ofPath handlerPath = .ok handlerId := rfl

/-- Already what can be read of the two ids differs. -/
theorem role_not_handler : roleId ≠ handlerId := by
  intro same
  have starts : ∀ path, LogicalId.readable path <+: (LogicalId.numbered path).toList := by
    intro path
    rw [LogicalId.numbered, String.toList_ofList]
    exact List.prefix_append _ _
  have role : LogicalId.readable rolePath <+: handlerId.toList := same ▸ starts rolePath
  have apart : ¬ LogicalId.readable rolePath <+: LogicalId.readable handlerPath ∧
      ¬ LogicalId.readable handlerPath <+: LogicalId.readable rolePath := by decide
  exact (List.prefix_or_prefix_of_prefix role (starts handlerPath)).elim apart.1 apart.2

theorem role_resource_within (P : String → Prop) : roleResource.Within P := by
  have text : "arn:$\x7bAWS::Partition\x7d:iam::aws:policy/service-role/AWSLambdaBasicExecutionRole".toList =
      "arn:".toList ++ '$' :: '{' :: ("AWS::Partition".toList ++ '}' ::
        ":iam::aws:policy/service-role/AWSLambdaBasicExecutionRole".toList) := by rfl
  have managed : Json.Within P (Value.sub
      "arn:$\x7bAWS::Partition\x7d:iam::aws:policy/service-role/AWSLambdaBasicExecutionRole").toJson := by
    rw [Value.within_sub, text, Reference.in_substitution_pseudo (by decide) (by decide) (by decide),
      Reference.in_substitution_plain (by decide)]
    simp
  rw [Resource.within_iff]
  simp [roleResource, within_assumed_by, managed]

theorem handler_resource_within {P : String → Prop} {roleId : String} (role : P roleId) :
    (handlerResource roleId).Within P := by
  rw [Resource.within_iff]
  simp [handlerResource, role]

/-- The ids stand for the role and the function, unless another resource has the latter. -/
def Provided (s : Stack) (roleId handlerId : String) : Prop :=
  LogicalId.ofPath rolePath = .ok roleId ∧
  ((s.At roleId rolePath "AWS::IAM::Role" ∧ s.At handlerId handlerPath "AWS::Lambda::Function") ∨
    (s.HandlerTaken ∧ s.contains handlerId = true))

theorem Provided.grows {roleId handlerId : String} (provided : Provided s roleId handlerId)
    (grows : s.Grows s') : Provided s' roleId handlerId :=
  ⟨provided.1, provided.2.imp (fun both => ⟨grows.at_ both.1, grows.at_ both.2⟩)
    fun both => ⟨grows.handlerTaken both.1, grows.contains both.2⟩⟩

theorem provided_of_known (built : Built t s) {roleId handlerId : String}
    (role : LogicalId.ofPath rolePath = .ok roleId)
    (handler : LogicalId.ofPath handlerPath = .ok handlerId)
    (known : s.contains handlerId = true) : Provided s roleId handlerId := by
  refine ⟨role, ?_⟩
  obtain ⟨d, found⟩ := Option.isSome_iff_exists.mp known
  by_cases own : d.path = handlerPath
  · obtain ⟨type, role', named, there⟩ := ((built_sound built).fits handlerId d found).handler own
    rw [role] at named
    cases named
    exact .inl ⟨there, d, found, own, type⟩
  · exact .inr ⟨⟨handlerId, d.path, d.resource.type, handler, ⟨d, found, rfl, rfl⟩, own⟩, known⟩

theorem provider_obeys (role_declares : t.declares rolePath "AWS::IAM::Role")
    (handler_declares : t.declares handlerPath "AWS::Lambda::Function") :
    Obeys t s provider fun ids s' => Provided s' ids.1 ids.2 := by
  unfold provider
  refine obeys_lift fun roleId role => obeys_lift fun handlerId handler => obeys_get ?_
  split
  · have role_fits : Fits t s rolePath roleResource :=
      fits_plain _ rfl role_declares (role_resource_within _) (absurd rfl) (by decide) (by decide)
    refine obeys_bind (obeys_declare role_fits) fun declared s₁ _ first => ?_
    cases role.symm.trans first.named
    have handler_fits : Fits t s₁ handlerPath (handlerResource roleId) := by
      have other : (handlerResource roleId).type ∉ inspectedTypes := by
        simp [handlerResource, inspectedTypes]
      refine ⟨handler_declares, ?_, tidy_of_type (absurd rfl) other,
        fun _ => ⟨rfl, roleId, role, first.there⟩, fun same => ?_⟩
      · have below : layer "AWS::IAM::Role" < layer "AWS::Lambda::Function" := by decide
        exact handler_resource_within (.below first.there (.inl below))
      · simp [handlerResource] at same
    refine obeys_bind (obeys_declare handler_fits) fun declared' s₂ more second => obeys_pure ?_
    cases handler.symm.trans second.named
    exact ⟨role, .inl ⟨more.at_ first.there, second.there⟩⟩
  · next known =>
    refine obeys_built fun built => obeys_pure ?_
    exact provided_of_known built role handler (by simpa using known)

end AutoDelete

namespace Bucket

variable {b : Bucket} {role : Role}

def Valid (b : Bucket) (s : Stack) : Prop := b.toConstruct.Stands s "Resource" "AWS::S3::Bucket"

theorem Valid.grows (valid : b.Valid s) (grows : s.Grows s') : b.Valid s' := grows.at_ valid

theorem resource_for_within (P : String → Prop) (settings : BucketSettings) :
    (resourceFor settings).Within P := by
  rw [Resource.within_iff]
  unfold resourceFor Resource.withRemovalPolicy
  cases settings.autoDelete <;> cases settings.versioned <;> simp

theorem resource_for_document (settings : BucketSettings) :
    (resourceFor settings).property? "PolicyDocument" = none := by
  unfold resourceFor Resource.withRemovalPolicy Resource.property?
  cases settings.autoDelete <;> cases settings.versioned <;> simp [Fields.get?]

theorem emptying_policy_within {P : String → Prop} {roleId : String} (bucket : P b.logicalId)
    (role : P roleId) : (b.emptyingPolicy roleId).Within P := by
  rw [Resource.within_iff]
  simp [emptyingPolicy, name, arn, objectsArn, bucket, role]

theorem emptying_trigger_within {P : String → Prop} {handlerId policyId : String}
    (bucket : P b.logicalId) (handler : P handlerId) (policy : P policyId) :
    (b.emptyingTrigger handlerId policyId).Within P := by
  rw [Resource.within_iff]
  simp [emptyingTrigger, Resource.withRemovalPolicy, name, bucket, handler, policy]

/-- The paths that a bucket to be emptied is declared with. -/
structure Emptied (t : Terms) (path : List String) : Prop where
  role : t.declares AutoDelete.rolePath "AWS::IAM::Role"
  handler : t.declares AutoDelete.handlerPath "AWS::Lambda::Function"
  policy : t.declares (path ++ ["Policy", "Resource"]) "AWS::S3::BucketPolicy"
  trigger : t.declares (path ++ ["AutoDeleteObjectsCustomResource", "Default"])
    "Custom::S3AutoDeleteObjects"

theorem admits_provided {roleId handlerId : String}
    (provided : AutoDelete.Provided s roleId handlerId) :
    Admits t s "AWS::S3::BucketPolicy" roleId ∧
      Admits t s "Custom::S3AutoDeleteObjects" handlerId := by
  obtain ⟨role, ⟨role_there, handler_there⟩ | ⟨taken, known⟩⟩ := provided
  · exact ⟨.below role_there (.inl (by decide)), .below handler_there (.inl (by decide))⟩
  · exact ⟨.taken taken (.inr role), .taken taken (.inl known)⟩

theorem declare_emptying_obeys (valid : b.Valid s) (declares : Emptied t b.path) :
    Obeys t s b.declareEmptying fun _ _ => True := by
  unfold declareEmptying
  refine obeys_bind (AutoDelete.provider_obeys declares.role declares.handler)
    fun ids s₁ first provided => ?_
  have bucket := valid.grows first
  have policy_fits : Fits t s₁ (b.path ++ ["Policy", "Resource"]) (b.emptyingPolicy ids.1) :=
    fits_plain "AWS::S3::BucketPolicy" rfl declares.policy
      (emptying_policy_within (.below bucket (.inl (by decide))) (admits_provided provided).1)
      (fun _ => by decide) (by simp) (by decide)
  refine obeys_bind (obeys_declare policy_fits) fun policyId s₂ second declared => ?_
  have policy : s₂.At policyId _ "AWS::S3::BucketPolicy" := declared.there
  have trigger_fits : Fits t s₂ (b.path ++ ["AutoDeleteObjectsCustomResource", "Default"])
      (b.emptyingTrigger ids.2 policyId) :=
    fits_plain "Custom::S3AutoDeleteObjects" rfl declares.trigger
      (emptying_trigger_within (.below (bucket.grows second) (.inl (by decide)))
        (admits_provided (provided.grows second)).2 (.below policy (.inl (by decide))))
      (absurd rfl) (by simp) (by decide)
  exact obeys_bind (obeys_declare trigger_fits) fun _ _ _ _ => obeys_pure trivial

theorem declare_obeys {settings : BucketSettings}
    (declares : t.declares [id, "Resource"] "AWS::S3::Bucket")
    (emptied : settings.autoDelete = true → Emptied t [id]) :
    Obeys t s (declare id settings) fun b s' => b.Valid s' ∧ b.path = [id] := by
  unfold declare
  refine obeys_unless fun _ => ?_
  have fits : Fits t s [id, "Resource"] (resourceFor settings) :=
    fits_plain "AWS::S3::Bucket" rfl declares (resource_for_within _ settings)
      (absurd (resource_for_document settings)) (by simp) (by decide)
  refine obeys_bind (obeys_declare fits) fun logicalId s₁ _ declared => ?_
  have valid : Valid { path := [id], logicalId } s₁ := declared.there
  split
  · next auto =>
    exact obeys_bind (declare_emptying_obeys valid (emptied auto)) fun _ s₂ more _ =>
      obeys_pure ⟨valid.grows more, rfl⟩
  · exact obeys_pure ⟨valid, rfl⟩

theorem grant_read_write_obeys (valid : b.Valid s) (grantee : role.Valid s)
    (declares : t.declares role.policyPath "AWS::IAM::Policy") :
    Obeys t s (b.grantReadWrite role) fun _ _ => True := by
  have late : AdmitsLate t s b.logicalId := admits_late_at valid (by decide)
  refine Role.grant_obeys grantee declares ?_
  simp [arn, objectsArn, late]

end Bucket

namespace Table

variable {table : Table} {role : Role}

def Valid (table : Table) (s : Stack) : Prop :=
  table.toConstruct.Stands s "Resource" "AWS::DynamoDB::Table"

theorem Valid.grows (valid : table.Valid s) (grows : s.Grows s') : table.Valid s' :=
  grows.at_ valid

theorem resource_for_within (P : String → Prop) (settings : TableSettings) :
    (resourceFor settings).Within P := by
  rw [Resource.within_iff]
  unfold resourceFor Resource.withRemovalPolicy
  cases settings.provisioned <;> simp [definition, keyPart]

theorem resource_for_document (settings : TableSettings) :
    (resourceFor settings).property? "PolicyDocument" = none := by
  unfold resourceFor Resource.withRemovalPolicy Resource.property?
  cases settings.provisioned <;> simp [Fields.get?]

theorem declare_obeys {settings : TableSettings}
    (declares : t.declares [id, "Resource"] "AWS::DynamoDB::Table") :
    Obeys t s (declare id settings) fun table s' => table.Valid s' ∧ table.path = [id] := by
  unfold declare
  refine obeys_lift fun _ _ => ?_
  have fits : Fits t s [id, "Resource"] (resourceFor settings) :=
    fits_plain "AWS::DynamoDB::Table" rfl declares (resource_for_within _ settings)
      (absurd (resource_for_document settings)) (by simp) (by decide)
  exact obeys_bind (obeys_declare fits) fun _ _ _ declared => obeys_pure ⟨declared.there, rfl⟩

theorem grant_read_write_obeys (valid : table.Valid s) (grantee : role.Valid s)
    (declares : t.declares role.policyPath "AWS::IAM::Policy") :
    Obeys t s (table.grantReadWrite role) fun _ _ => True := by
  have late : AdmitsLate t s table.logicalId := admits_late_at valid (by decide)
  refine Role.grant_obeys grantee declares ?_
  simp [arn, late]

end Table

end StackSynth
