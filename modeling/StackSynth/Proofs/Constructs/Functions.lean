import StackSynth.Compute.Cluster
import StackSynth.Compute.Function
import StackSynth.Proofs.Constructs.Permissions

/-!
Log groups, clusters, images and the functions made from images, as steps of a stack. An image is
named by a digest, so that its name refers to nothing of the stack.
-/
namespace StackSynth

variable {t : Terms} {s s' : Stack} {id : String}

/-- A resource below the path that is waited for answers the wait. -/
theorem resolves_of_at {w : Wait} {path : List String} {type : String} (there : s.At id path type)
    (other : id ≠ w.dependent) (below : w.path <+: path) (known : s.contains w.dependent = true) :
    s.Resolves w := by
  refine ⟨List.ne_nil_of_mem (a := id) ?_, known⟩
  obtain ⟨d, found, rfl, _⟩ := there
  exact (Stack.mem_waited_for w id).mpr ⟨other, d, found, below⟩

/-- What was there before a declaration has another id. -/
theorem Declared.other {path below : List String} {type logicalId : String} {r : Resource}
    (declared : Declared s path r logicalId s') (there : s.At id below type) : id ≠ logicalId := by
  rintro rfl
  have free := declared.free
  rw [there.contains] at free
  cases free

namespace LogGroup

variable {group : LogGroup} {role : Role}

def Valid (group : LogGroup) (s : Stack) : Prop :=
  group.toConstruct.Stands s "Resource" "AWS::Logs::LogGroup"

theorem Valid.grows (valid : group.Valid s) (grows : s.Grows s') : group.Valid s' :=
  grows.at_ valid

theorem declare_obeys {scope : List String} {retention : Retention} {removal : RemovalPolicy}
    (declares : t.declares (scope ++ [id] ++ ["Resource"]) "AWS::Logs::LogGroup") :
    Obeys t s (declare scope id retention removal) fun group s' =>
      group.Valid s' ∧ group.path = scope ++ [id] := by
  have fits : Fits t s (scope ++ [id] ++ ["Resource"]) (resourceFor retention removal) := by
    refine fits_plain "AWS::Logs::LogGroup" rfl declares ?_ ?_ (by simp) (by decide)
    · rw [Resource.within_iff]
      cases retention <;> simp [resourceFor, Resource.withRemovalPolicy, Retention.days]
    · cases retention <;> exact absurd rfl
  exact obeys_bind (obeys_declare fits) fun _ _ _ declared => obeys_pure ⟨declared.there, rfl⟩

theorem grant_write_obeys (valid : group.Valid s) (grantee : role.Valid s)
    (declares : t.declares role.policyPath "AWS::IAM::Policy") :
    Obeys t s (group.grantWrite role) fun _ _ => True := by
  have late : AdmitsLate t s group.logicalId := admits_late_at valid (by decide)
  refine Role.grant_obeys grantee declares ?_
  simp [arn, late]

end LogGroup

namespace Cluster

variable {cluster : Cluster}

def Valid (cluster : Cluster) (s : Stack) : Prop :=
  cluster.toConstruct.Stands s "Resource" "AWS::ECS::Cluster"

theorem Valid.grows (valid : cluster.Valid s) (grows : s.Grows s') : cluster.Valid s' :=
  grows.at_ valid

theorem declare_obeys (declares : t.declares [id, "Resource"] "AWS::ECS::Cluster") :
    Obeys t s (declare id) fun cluster s' => cluster.Valid s' := by
  have fits : Fits t s [id, "Resource"] { type := "AWS::ECS::Cluster" } :=
    fits_plain "AWS::ECS::Cluster" rfl declares (by simp [Resource.within_iff]) (absurd rfl)
      (by simp) (by decide)
  exact obeys_bind (obeys_declare fits) fun _ _ _ declared => obeys_pure declared.there

end Cluster

namespace Digest

theorem hex_plain (bytes : Bytes) : '$' ∉ (hex bytes).toList := by
  have digits : ∀ n < 16, '$' ≠ Nat.digitChar n := by decide
  simp only [hex, String.toList_ofList, List.mem_flatMap, hexByte, List.mem_cons,
    List.not_mem_nil, or_false, not_exists, not_and, not_or]
  intro byte _
  have bound := byte.toNat_lt
  exact ⟨digits _ (by omega), digits _ (by omega)⟩

end Digest

namespace ImageAsset

variable {image : ImageAsset} {role : Role}

/-- The name of the image refers to nothing. -/
def Plain (image : ImageAsset) : Prop := '$' ∉ image.hash.toList

theorem pattern_text : Bootstrap.repositoryPattern.toList =
    "cdk-hnb659fds-container-assets-$\x7bAWS::AccountId\x7d-$\x7bAWS::Region\x7d".toList := by
  rfl

/-- The pieces of the name that an image is pulled under, placeholder by placeholder. -/
theorem uri_text (image : ImageAsset) :
    ("$\x7bAWS::AccountId\x7d.dkr.ecr.$\x7bAWS::Region\x7d.$\x7bAWS::URLSuffix\x7d/"
      ++ s!"{Bootstrap.repositoryPattern}:{image.hash}").toList =
      [] ++ '$' :: '{' :: ("AWS::AccountId".toList ++ '}' ::
      (".dkr.ecr.".toList ++ '$' :: '{' :: ("AWS::Region".toList ++ '}' ::
      (".".toList ++ '$' :: '{' :: ("AWS::URLSuffix".toList ++ '}' ::
      ("/cdk-hnb659fds-container-assets-".toList ++ '$' :: '{' :: ("AWS::AccountId".toList ++ '}' ::
      ("-".toList ++ '$' :: '{' :: ("AWS::Region".toList ++ '}' ::
      (':' :: image.hash.toList)))))))))) := by
  have name : (s!"{Bootstrap.repositoryPattern}:{image.hash}").toList =
      Bootstrap.repositoryPattern.toList ++ ':' :: image.hash.toList := by
    simp [toString, String.toList_append]
  rw [String.toList_append, name, pattern_text]
  simp

/-- The digits of a hash are no placeholder. -/
theorem Plain.behind_colon (plain : image.Plain) : '$' ∉ ':' :: image.hash.toList := by
  rw [List.mem_cons, not_or]
  exact ⟨by decide, plain⟩

theorem uri_within (P : String → Prop) (plain : image.Plain) : Json.Within P image.uri.toJson := by
  rw [uri, Value.within_sub, uri_text]
  rw [Reference.in_substitution_pseudo (by decide) (by decide) (by decide),
    Reference.in_substitution_pseudo (by decide) (by decide) (by decide),
    Reference.in_substitution_pseudo (by decide) (by decide) (by decide),
    Reference.in_substitution_pseudo (by decide) (by decide) (by decide),
    Reference.in_substitution_pseudo (by decide) (by decide) (by decide),
    Reference.in_substitution_plain plain.behind_colon]
  simp

theorem repository_within (P : String → Prop) : Json.Within P repositoryArn.toJson := by
  have text : ("arn:$\x7bAWS::Partition\x7d:ecr:$\x7bAWS::Region\x7d:$\x7bAWS::AccountId\x7d:repository/"
      ++ Bootstrap.repositoryPattern).toList =
      "arn:".toList ++ '$' :: '{' :: ("AWS::Partition".toList ++ '}' ::
      (":ecr:".toList ++ '$' :: '{' :: ("AWS::Region".toList ++ '}' ::
      (":".toList ++ '$' :: '{' :: ("AWS::AccountId".toList ++ '}' ::
      (":repository/cdk-hnb659fds-container-assets-".toList ++ '$' :: '{' ::
        ("AWS::AccountId".toList ++ '}' ::
      ("-".toList ++ '$' :: '{' :: ("AWS::Region".toList ++ '}' :: []))))))))) := by
    rw [String.toList_append, pattern_text]
    simp
  rw [repositoryArn, Value.within_sub, text]
  rw [Reference.in_substitution_pseudo (by decide) (by decide) (by decide),
    Reference.in_substitution_pseudo (by decide) (by decide) (by decide),
    Reference.in_substitution_pseudo (by decide) (by decide) (by decide),
    Reference.in_substitution_pseudo (by decide) (by decide) (by decide),
    Reference.in_substitution_pseudo (by decide) (by decide) (by decide),
    Reference.in_substitution_plain (by decide)]
  simp

theorem source_of_plain {files : FileTree} {path : List String} {settings : Settings}
    {source : ImageSource} (made : sourceOf files path settings = .ok source) :
    '$' ∉ source.hash.toList := by
  unfold sourceOf at made
  split at made
  · obtain ⟨directory, _, made⟩ := Outcome.bind_ok made
    obtain ⟨_, made⟩ := Outcome.unless_ok made
    obtain ⟨hash, printed, made⟩ := Outcome.bind_ok made
    cases made
    unfold fingerprint at printed
    obtain ⟨contents, _, printed⟩ := Outcome.bind_ok printed
    cases printed
    exact Digest.hex_plain _
  · cases made

theorem declare_obeys {files : FileTree} {path : List String} {settings : Settings} :
    Obeys t s (declare files path settings) fun image _ => image.Plain := by
  unfold declare
  refine obeys_lift fun source made => ?_
  refine obeys_bind (Q := fun _ _ => True) ?_ fun _ _ _ _ => obeys_pure (source_of_plain made)
  refine obeys_keep ?_ ?_ ?_ trivial
  · split <;> rfl
  · split <;> rfl
  · split <;> rfl

theorem grant_pull_obeys (grantee : role.Valid s)
    (declares : t.declares role.policyPath "AWS::IAM::Policy") :
    Obeys t s (grantPull role) fun _ _ => True := by
  refine Role.grant_obeys grantee declares ?_
  simp [repository_within]

end ImageAsset

namespace LambdaFunction

variable {function : LambdaFunction} {role : Role}

structure Valid (function : LambdaFunction) (s : Stack) : Prop where
  itself : function.toConstruct.Stands s "Resource" "AWS::Lambda::Function"
  role : function.role.Valid s
  image : function.image.Plain

theorem Valid.grows (valid : function.Valid s) (grows : s.Grows s') : function.Valid s' :=
  ⟨grows.at_ valid.itself, valid.role.grows grows, valid.image⟩

/-- The paths that a function is declared with, and the one that it waits for. -/
structure Allowed (t : Terms) (id : String) (logged : Prop) : Prop where
  itself : t.declares [id, "Resource"] "AWS::Lambda::Function"
  role : t.declares [id, "ServiceRole", "Resource"] "AWS::IAM::Role"
  logs : logged → t.declares [id, "LogGroup", "Resource"] "AWS::Logs::LogGroup"
  awaits : t.awaits "AWS::Lambda::Function" [id, "ServiceRole"]

theorem properties_within {P : String → Prop} {settings : FunctionSettings} {image : ImageAsset}
    {logs : Option LogGroup} (plain : image.Plain) (role_member : P role.logicalId)
    (logs_member : ∀ group ∈ logs, P group.logicalId) :
    ∀ entry ∈ properties settings image role logs, Json.Within P entry.2 := by
  simp only [properties, List.forall_mem_append]
  refine ⟨⟨⟨?_, ?_⟩, ?_⟩, ?_⟩
  · simp [ImageAsset.uri_within P plain]
  · cases settings.ephemeralStorage <;> simp
  · cases logs with
    | none => simp
    | some group => simp [LogGroup.reference, logs_member group rfl]
  · simp [Role.arn, role_member]

theorem properties_document (settings : FunctionSettings) (image : ImageAsset) (role : Role)
    (logs : Option LogGroup) :
    Fields.get? "PolicyDocument" (properties settings image role logs) = none := by
  rw [Fields.get?_eq_none_iff]
  simp only [properties, List.forall_mem_append]
  refine ⟨⟨⟨by simp, ?_⟩, ?_⟩, by simp⟩
  · cases settings.ephemeralStorage <;> simp
  · cases logs <;> simp

theorem declare_obeys {files : FileTree} {settings : FunctionSettings}
    (allowed : Allowed t id (settings.retention ≠ none)) :
    Obeys t s (declare files id settings) fun function s' =>
      function.Valid s' ∧ function.path = [id] := by
  unfold declare
  refine obeys_lift fun _ _ => ?_
  refine obeys_bind ImageAsset.declare_obeys fun image s₁ _ plain => ?_
  refine obeys_bind (Role.declare_obeys allowed.role) fun role s₂ _ ⟨role_valid, role_path⟩ => ?_
  extract_lets finish
  have finished : ∀ (s₃ : Stack) (logs : Option LogGroup), s₂.Grows s₃ →
      (∀ group ∈ logs, group.Valid s₃) → Obeys t s₃ (finish logs) fun function s' =>
        function.Valid s' ∧ function.path = [id] := by
    intro s₃ logs more logs_valid
    have role_there := role_valid.grows more
    have fits : Fits t s₃ [id, "Resource"] {
        type := "AWS::Lambda::Function"
        properties := properties settings image role logs } := by
      refine fits_plain "AWS::Lambda::Function" rfl allowed.itself ?_
        (absurd (properties_document settings image role logs)) (by simp) (by decide)
      refine Resource.within_iff.mpr ⟨by simp, properties_within plain ?_ fun group listed => ?_⟩
      · exact .below role_there (by decide)
      · exact .below (logs_valid group listed) (by decide)
    refine obeys_bind (obeys_declare fits) fun logicalId s₄ last declared => ?_
    have itself : s₄.At logicalId [id, "Resource"] "AWS::Lambda::Function" := declared.there
    have resolves : s₄.Resolves ⟨logicalId, role.path⟩ :=
      resolves_of_at (last.at_ role_there) (declared.other role_there)
        (List.prefix_append _ _) itself.contains
    refine obeys_bind (obeys_wait_for_path itself (role_path ▸ allowed.awaits) resolves)
      fun _ s₅ end_ _ => obeys_pure ⟨?_, rfl⟩
    exact ⟨end_.at_ itself, (role_there.grows last).grows end_, plain⟩
  split
  · next retention kept =>
    refine obeys_bind (obeys_map (R := fun logs s' => ∀ group ∈ logs, group.Valid s')
      (LogGroup.declare_obeys (allowed.logs (by simp [kept])))
      fun group s₃ _ ⟨valid, _⟩ other same => ?_)
      fun logs s₃ more valid => finished s₃ logs more valid
    cases same
    exact valid
  · rw [pure_bind]
    exact finished s₂ none (Stack.grows_refl s₂) (by simp)

theorem grant_invoke_obeys (valid : function.Valid s) (grantee : role.Valid s)
    (declares : t.declares role.policyPath "AWS::IAM::Policy") :
    Obeys t s (function.grantInvoke role) fun _ _ => True := by
  have late : AdmitsLate t s function.logicalId := admits_late_at valid.itself (by decide)
  refine Role.grant_obeys grantee declares ?_
  simp [arn, late]

end LambdaFunction

end StackSynth
