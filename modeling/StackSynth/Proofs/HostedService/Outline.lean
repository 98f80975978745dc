import StackSynth.HostedService
import StackSynth.Proofs.Constructs.Data
import StackSynth.Proofs.Constructs.Network
import StackSynth.Proofs.Stack.Closed

/-!
The terms of the hosted service: under which paths it declares resources of which types, and what
waits for what. They do not depend on the settings.
-/
namespace StackSynth

namespace LogicalId

theorem readable_starts {first : String} (rest : List String) (shown : first ≠ hiddenFromReader)
    (short : (alphanumerics first).length ≤ readableLimit) :
    alphanumerics first <+: readable (first :: rest) := by
  have starts : ∃ more, dropRepeats none (first :: rest) = first :: more := ⟨_, rfl⟩
  obtain ⟨more, kept⟩ := starts
  rw [readable, kept, List.filter_cons_of_pos (by simpa using shown), List.flatMap_cons]
  exact List.prefix_take_iff.mpr ⟨List.prefix_append _ _, short⟩

/-- An id starts with what can be read of the first component of its path. -/
theorem of_path_starts {first id : String} {rest : List String} (visible : first ≠ hidden)
    (shown : first ≠ hiddenFromReader) (short : (alphanumerics first).length ≤ readableLimit)
    (named : ofPath (first :: rest) = .ok id) : alphanumerics first <+: id.toList := by
  have kept : LogicalId.visible (first :: rest) = first :: LogicalId.visible rest :=
    List.filter_cons_of_pos (by simpa using visible)
  rw [ofPath, kept] at named
  cases inner : LogicalId.visible rest with
  | nil =>
    simp only [inner, if_pos short] at named
    split at named
    · cases named
    · cases named
      simp
  | cons second more =>
    simp only [inner] at named
    cases named
    rw [numbered, String.toList_ofList]
    exact (readable_starts _ shown short).trans (List.prefix_append _ _)

end LogicalId

namespace HostedService

/-- The resources that are declared under paths of their own. -/
def outline : List (List String × String) := [
  (["Certificate", "Resource"], "AWS::CertificateManager::Certificate"),
  (["ZkcirUserPool", "Resource"], "AWS::Cognito::UserPool"),
  (["ZkcirGoogleProvider", "Resource"], "AWS::Cognito::UserPoolIdentityProvider"),
  (["ZkcirUserPoolDomain", "Resource"], "AWS::Cognito::UserPoolDomain"),
  (["Cluster", "Resource"], "AWS::ECS::Cluster"),
  (["ExecutionRole", "Resource"], "AWS::IAM::Role"),
  (["ExecutionRole", "DefaultPolicy", "Resource"], "AWS::IAM::Policy"),
  (["TaskDef", "TaskRole", "Resource"], "AWS::IAM::Role"),
  (["TaskDef", "TaskRole", "DefaultPolicy", "Resource"], "AWS::IAM::Policy"),
  (["TaskDef", "Resource"], "AWS::ECS::TaskDefinition"),
  (["TaskDef", "AxumContainer", "LogGroup", "Resource"], "AWS::Logs::LogGroup"),
  (["CompileLambda", "ServiceRole", "Resource"], "AWS::IAM::Role"),
  (["CompileLambda", "LogGroup", "Resource"], "AWS::Logs::LogGroup"),
  (["CompileLambda", "Resource"], "AWS::Lambda::Function"),
  (["Service", "SecurityGroup", "Resource"], "AWS::EC2::SecurityGroup"),
  (["Service", "Service"], "AWS::ECS::Service"),
  (["ALB", "SecurityGroup", "Resource"], "AWS::EC2::SecurityGroup"),
  (["ALB", "Resource"], "AWS::ElasticLoadBalancingV2::LoadBalancer"),
  (["ALB", "HttpsListener", "Resource"], "AWS::ElasticLoadBalancingV2::Listener"),
  (["ALB", "HttpsListener", "ECSHttpsGroup", "Resource"],
    "AWS::ElasticLoadBalancingV2::TargetGroup"),
  (["ZkcirUserPoolClient", "Resource"], "AWS::Cognito::UserPoolClient"),
  (["Users", "Resource"], "AWS::DynamoDB::Table"),
  (["Circuits", "Resource"], "AWS::S3::Bucket"),
  (["Circuits", "Policy", "Resource"], "AWS::S3::BucketPolicy"),
  (["Circuits", "AutoDeleteObjectsCustomResource", "Default"], "Custom::S3AutoDeleteObjects"),
  (AutoDelete.rolePath, "AWS::IAM::Role"),
  (AutoDelete.handlerPath, "AWS::Lambda::Function")]

/-- The parts below which any number of resources of some types may be declared. -/
def openParts : List (List String × List String) := [
  (["Vpc"], Vpc.types),
  (["Service", "SecurityGroup"], ["AWS::EC2::SecurityGroupIngress"]),
  (["ALB", "SecurityGroup"], ["AWS::EC2::SecurityGroupEgress"])]

def awaited : List (String × List String) := [
  ("AWS::Lambda::Function", ["CompileLambda", "ServiceRole"]),
  ("AWS::ECS::Service", ["TaskDef", "TaskRole"]),
  ("AWS::ECS::Service", ["ALB", "HttpsListener"]),
  ("AWS::Cognito::UserPoolClient", ["ZkcirGoogleProvider"])]

/-- Whether the outline has room for a resource of a type under a path. -/
def Outlined (path : List String) (type : String) : Prop :=
  (path, type) ∈ outline ∨ ∃ part ∈ openParts, part.1 <+: path ∧ type ∈ part.2

def terms : Terms where
  refers := fun s id => ∃ path type, s.At id path type ∧ layer type < 2
  declares := Outlined
  opens := fun port => port = httpsPort
  awaits := fun type path => (type, path) ∈ awaited
  refers_grows := fun grows ⟨path, type, there, low⟩ => ⟨path, type, grows.at_ there, low⟩

/-- What is declared below the awaited paths is of lower layers than what waits. -/
theorem awaited_below {type lower : String} {path below : List String}
    (awaits : (type, path) ∈ awaited) (inside : path <+: below) (outlined : Outlined below lower) :
    layer lower < layer type := by
  rcases outlined with listed | ⟨part, listed, under, _⟩
  · have every : ∀ wait ∈ awaited, ∀ entry ∈ outline, wait.2 <+: entry.1 →
        layer entry.2 < layer wait.1 := by decide
    exact every _ awaits _ listed inside
  · have apart : ∀ wait ∈ awaited, ∀ part ∈ openParts,
        ¬ wait.2 <+: part.1 ∧ ¬ part.1 <+: wait.2 := by decide
    obtain ⟨above, beneath⟩ := apart _ awaits _ listed
    rcases List.prefix_or_prefix_of_prefix inside under with first | second
    · exact absurd first above
    · exact absurd second beneath

/-! The id of the function that empties buckets is told from all others by what can be read. -/

def providerText : List Char := LogicalId.alphanumerics AutoDelete.providerId

/-- Whether the ids of paths that start with a component differ from those of the provider. -/
def isToldApart (first : String) : Bool :=
  first != LogicalId.hidden && first != LogicalId.hiddenFromReader
    && decide ((LogicalId.alphanumerics first).length ≤ LogicalId.readableLimit)
    && !(LogicalId.alphanumerics first).isPrefixOf providerText
    && !providerText.isPrefixOf (LogicalId.alphanumerics first)

theorem told_apart {path : List String} {first id : String}
    (starts : path.head? = some first) (apart : isToldApart first = true)
    (named : LogicalId.ofPath path = .ok id) : ¬ providerText <+: id.toList := by
  intro provider
  obtain ⟨rest, rfl⟩ := List.head?_eq_some_iff.mp starts
  simp only [isToldApart, Bool.and_eq_true, bne_iff_ne, decide_eq_true_eq, Bool.not_eq_true',
    ← Bool.not_eq_true, List.isPrefixOf_iff_prefix] at apart
  obtain ⟨⟨⟨⟨visible, shown⟩, short⟩, below⟩, above⟩ := apart
  have own := LogicalId.of_path_starts visible shown short named
  exact (List.prefix_or_prefix_of_prefix own provider).elim below above

theorem handler_alone {path : List String} {type : String} (outlined : Outlined path type)
    (same : LogicalId.ofPath path = LogicalId.ofPath AutoDelete.handlerPath) :
    path = AutoDelete.handlerPath := by
  rw [AutoDelete.handler_id] at same
  have provider : providerText <+: AutoDelete.handlerId.toList :=
    LogicalId.of_path_starts (by decide) (by decide) (by decide) AutoDelete.handler_id
  have foreign : ∀ first, path.head? = some first → isToldApart first = true →
      path = AutoDelete.handlerPath := fun first starts apart =>
    absurd provider (told_apart starts apart same)
  rcases outlined with listed | ⟨part, listed, under, _⟩
  · have every : ∀ entry ∈ outline, entry.1 = AutoDelete.handlerPath ∨
        entry.1 = AutoDelete.rolePath ∨ ∃ first ∈ entry.1.head?, isToldApart first = true := by
      decide
    rcases every _ listed with own | role | ⟨first, starts, apart⟩
    · exact own
    · rw [show path = AutoDelete.rolePath from role, AutoDelete.role_id] at same
      exact absurd (Except.ok.inj same) AutoDelete.role_not_handler
    · exact foreign first starts apart
  · have every : ∀ part ∈ openParts, ∃ first ∈ part.1.head?, isToldApart first = true := by decide
    obtain ⟨first, starts, apart⟩ := every part listed
    obtain ⟨rest, rfl⟩ := under
    exact foreign first (by rw [List.head?_append, Option.mem_def.mp starts, Option.some_or]) apart

theorem terms_layered : terms.Layered where
  refers := fun _ _ refers => refers
  awaits := fun _ _ awaits _ _ inside outlined => awaited_below awaits inside outlined
  handler := fun _ _ outlined same => handler_alone outlined same

end HostedService

end StackSynth
