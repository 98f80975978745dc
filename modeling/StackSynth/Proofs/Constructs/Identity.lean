import StackSynth.Identity.Certificate
import StackSynth.Identity.SignInClient
import StackSynth.Identity.SignInDomain
import StackSynth.Proofs.Constructs.Permissions

/-!
Certificates, and what users sign in with, as steps of a stack.
-/
namespace StackSynth

variable {t : Terms} {s s' : Stack} {id : String}

namespace Certificate

variable {c : Certificate}

def Valid (c : Certificate) (s : Stack) : Prop :=
  c.toConstruct.Stands s "Resource" "AWS::CertificateManager::Certificate"

theorem Valid.grows (valid : c.Valid s) (grows : s.Grows s') : c.Valid s' := grows.at_ valid

theorem declare_obeys {domainName : String} {validation : CertificateValidation}
    (declares : t.declares [id, "Resource"] "AWS::CertificateManager::Certificate") :
    Obeys t s (declare id domainName validation) fun c s' => c.Valid s' := by
  unfold declare
  refine obeys_unless fun _ => ?_
  have fits : Fits t s [id, "Resource"] {
      type := "AWS::CertificateManager::Certificate"
      properties := [
        ("DomainName", .str (Text.trim domainName)),
        ("ValidationMethod", .str validation.method)] } :=
    fits_plain "AWS::CertificateManager::Certificate" rfl declares (by simp [Resource.within_iff])
      (absurd rfl) (by simp) (by decide)
  exact obeys_bind (obeys_declare fits) fun _ _ _ declared => obeys_pure declared.there

end Certificate

namespace UserPool

variable {pool : UserPool}

def Valid (pool : UserPool) (s : Stack) : Prop :=
  pool.toConstruct.Stands s "Resource" "AWS::Cognito::UserPool"

theorem Valid.grows (valid : pool.Valid s) (grows : s.Grows s') : pool.Valid s' :=
  grows.at_ valid

/-- The user pool with the attributes that are verified, or without any. -/
theorem resource_for_cases (settings : UserPoolSettings) : ∃ fields : Fields,
    (fields = baseProperties settings.selfSignUp ∨ fields = Fields.insert "AutoVerifiedAttributes"
      (.strs (verifiedAttributes settings)) (baseProperties settings.selfSignUp)) ∧
    resourceFor settings = ({ type := "AWS::Cognito::UserPool", properties := fields } :
      Resource).withRemovalPolicy settings.removal.deletionPolicy := by
  unfold resourceFor
  by_cases none : (verifiedAttributes settings).isEmpty = true
  · exact ⟨_, .inl rfl, by simp only [none, if_true]⟩
  · exact ⟨_, .inr rfl, by simp only [none]; rfl⟩

theorem base_within (P : String → Prop) (selfSignUp : Bool) :
    ∀ entry ∈ baseProperties selfSignUp, Json.Within P entry.2 := by
  simp [baseProperties, recoveryMechanism]

theorem declare_obeys {settings : UserPoolSettings}
    (declares : t.declares [id, "Resource"] "AWS::Cognito::UserPool") :
    Obeys t s (declare id settings) fun pool s' => pool.Valid s' ∧ pool.path = [id] := by
  obtain ⟨fields, cases, same⟩ := resource_for_cases settings
  have within : (resourceFor settings).Within (Admits t s "AWS::Cognito::UserPool") := by
    rw [same, Resource.within_iff]
    refine ⟨by simp [Resource.withRemovalPolicy], ?_⟩
    rcases cases with rfl | rfl
    · exact base_within _ _
    · intro entry member
      rcases Fields.mem_insert member with rfl | before
      · simp
      · exact base_within _ _ entry before
  have document : (resourceFor settings).property? "PolicyDocument" = none := by
    rw [same]
    unfold Resource.property? Resource.withRemovalPolicy
    rcases cases with rfl | rfl
    · simp [baseProperties, Fields.get?]
    · simp [baseProperties, Fields.get?]
  have type : (resourceFor settings).type = "AWS::Cognito::UserPool" := by rw [same]; rfl
  have fits : Fits t s [id, "Resource"] (resourceFor settings) :=
    fits_plain "AWS::Cognito::UserPool" type declares within (absurd document) (by simp) (by decide)
  exact obeys_bind (obeys_declare fits) fun _ _ _ declared => obeys_pure ⟨declared.at_ type, rfl⟩

end UserPool

namespace GoogleProvider

variable {provider : GoogleProvider} {pool : UserPool}

def Valid (provider : GoogleProvider) (s : Stack) : Prop :=
  provider.toConstruct.Stands s "Resource" "AWS::Cognito::UserPoolIdentityProvider"

theorem Valid.grows (valid : provider.Valid s) (grows : s.Grows s') : provider.Valid s' :=
  grows.at_ valid

/-- What holds of the resource of every provider; the secret in it is looked up. -/
structure Shape (P : String → Prop) (r : Resource) : Prop where
  type : r.type = "AWS::Cognito::UserPoolIdentityProvider"
  document : r.property? "PolicyDocument" = none
  secret : clientSecret? r = none
  within : r.Within P

theorem within_mapping (P : String → Prop) (m : AttributeMapping) :
    Json.Within P (.obj m.fields) := by
  have plain : ∀ entry ∈ m.fields, ∃ text, entry.2 = Json.str text ∧
      entry.1 ∉ Json.intrinsics := by
    intro entry member
    simp only [AttributeMapping.fields, AttributeMapping.field, List.mem_append] at member
    rcases member with (((member | member) | member) | member) | member
    all_goals
      split at member
      · cases List.mem_singleton.mp member
        exact ⟨_, rfl, by simp [Json.intrinsics]⟩
      · cases member
  cases fields : m.fields with
  | nil => simp [Json.Within, Json.references]
  | cons first rest =>
    rw [fields] at plain
    obtain ⟨_, _, field⟩ := plain first List.mem_cons_self
    have head : (first.1, first.2) ∈ first :: rest := List.mem_cons_self
    rw [Json.within_obj_of_field head field]
    intro entry member
    obtain ⟨text, same, _⟩ := plain entry member
    rw [same]
    exact Json.within_str text

theorem within_secret (P : String → Prop) (secret : Secret) :
    Json.Within P secret.value.toJson := by
  simp [Secret.value, Secret.arn]

theorem resource_for_shape {P : String → Prop} {settings : GoogleProviderSettings}
    (member : P pool.logicalId) : Shape P (resourceFor pool settings) := by
  have base : Shape P {
      type := "AWS::Cognito::UserPoolIdentityProvider"
      properties := [
        ("ProviderDetails", .obj [
          ("authorize_scopes", .str (Text.join " " (allScopes settings.scopes))),
          ("client_id", .str settings.clientId),
          ("client_secret", settings.clientSecret.value.toJson)]),
        ("ProviderName", .str providerName),
        ("ProviderType", .str "Google"),
        ("UserPoolId", pool.poolId.toJson)] } := by
    refine ⟨rfl, rfl, rfl, ?_⟩
    rw [Resource.within_iff]
    simp [within_secret, UserPool.poolId, member]
  unfold resourceFor
  by_cases unmapped : settings.mapping.fields.isEmpty = true
  · simp only [unmapped, if_true]
    exact base
  · simp only [unmapped]
    exact ⟨rfl, rfl, rfl, Resource.within_with_property base.within (within_mapping P _)⟩

theorem declare_obeys {settings : GoogleProviderSettings} (valid : pool.Valid s)
    (declares : t.declares [id, "Resource"] "AWS::Cognito::UserPoolIdentityProvider") :
    Obeys t s (declare id pool settings) fun provider s' =>
      provider.Valid s' ∧ provider.path = [id] := by
  unfold declare
  refine obeys_unless fun _ => ?_
  have admitted : Admits t s "AWS::Cognito::UserPoolIdentityProvider" pool.logicalId :=
    .below valid (by decide)
  have shape : Shape (Admits t s "AWS::Cognito::UserPoolIdentityProvider")
      (resourceFor pool settings) := resource_for_shape admitted
  obtain ⟨type, document, secret, within⟩ := shape
  have tidy : Tidy t (resourceFor pool settings) := by
    refine ⟨absurd document, fun same => ?_, fun _ => secret, fun same => ?_, fun same => ?_,
      fun same => ?_⟩
    all_goals rw [type] at same; exact absurd same (by decide)
  have fits : Fits t s [id, "Resource"] (resourceFor pool settings) :=
    fits_tidy _ type declares within tidy (by simp) (by decide)
  exact obeys_bind (obeys_declare fits) fun _ _ _ declared => obeys_pure ⟨declared.at_ type, rfl⟩

end GoogleProvider

namespace SignInDomain

variable {domain : SignInDomain} {pool : UserPool}

def Valid (domain : SignInDomain) (s : Stack) : Prop :=
  domain.toConstruct.Stands s "Resource" "AWS::Cognito::UserPoolDomain"

theorem Valid.grows (valid : domain.Valid s) (grows : s.Grows s') : domain.Valid s' :=
  grows.at_ valid

theorem declare_obeys {label : String} (valid : pool.Valid s)
    (declares : t.declares [id, "Resource"] "AWS::Cognito::UserPoolDomain") :
    Obeys t s (declare id pool label) fun domain s' => domain.Valid s' := by
  unfold declare
  refine obeys_unless fun _ => obeys_unless fun _ => ?_
  have admitted : Admits t s "AWS::Cognito::UserPoolDomain" pool.logicalId :=
    .below valid (by decide)
  have fits : Fits t s [id, "Resource"] {
      type := "AWS::Cognito::UserPoolDomain"
      properties := [("Domain", .str label), ("UserPoolId", pool.poolId.toJson)] } :=
    fits_plain "AWS::Cognito::UserPoolDomain" rfl declares
      (by simp [Resource.within_iff, UserPool.poolId, admitted]) (absurd rfl) (by simp) (by decide)
  exact obeys_bind (obeys_declare fits) fun _ _ _ declared => obeys_pure declared.there

end SignInDomain

namespace SignInClient

variable {client : SignInClient} {pool : UserPool}

def Valid (client : SignInClient) (s : Stack) : Prop :=
  client.toConstruct.Stands s "Resource" "AWS::Cognito::UserPoolClient"

theorem Valid.grows (valid : client.Valid s) (grows : s.Grows s') : client.Valid s' :=
  grows.at_ valid

theorem properties_within {P : String → Prop} {settings : SignInClientSettings}
    (member : P pool.logicalId) :
    ∀ entry ∈ properties pool settings, Json.Within P entry.2 := by
  have texts : ∀ key items, ∀ entry ∈ optionalTexts key items, Json.Within P entry.2 := by
    intro key items
    unfold optionalTexts
    split <;> simp
  simp only [properties, List.forall_mem_append]
  refine ⟨⟨⟨⟨⟨⟨⟨?_, texts _ _⟩, ?_⟩, texts _ _⟩, texts _ _⟩, texts _ _⟩, ?_⟩, ?_⟩
  · cases settings.tokenValidity <;> simp
  · split <;> simp
  · cases settings.tokenValidity <;> simp
  · simp [UserPool.poolId, member]

theorem properties_document (settings : SignInClientSettings) :
    Fields.get? "PolicyDocument" (properties pool settings) = none := by
  have texts : ∀ key items, key ≠ "PolicyDocument" → ∀ entry ∈ optionalTexts key items,
      entry.1 ≠ "PolicyDocument" := by
    intro key items other
    unfold optionalTexts
    split <;> simp [other]
  rw [Fields.get?_eq_none_iff]
  simp only [properties, List.forall_mem_append]
  refine ⟨⟨⟨⟨⟨⟨⟨?_, texts _ _ (by decide)⟩, ?_⟩, texts _ _ (by decide)⟩, texts _ _ (by decide)⟩,
    texts _ _ (by decide)⟩, ?_⟩, by simp⟩
  · cases settings.tokenValidity <;> simp
  · split <;> simp
  · cases settings.tokenValidity <;> simp

theorem declare_obeys {settings : SignInClientSettings} (valid : pool.Valid s)
    (declares : t.declares [id, "Resource"] "AWS::Cognito::UserPoolClient") :
    Obeys t s (declare id pool settings) fun client s' =>
      client.Valid s' ∧ client.path = [id] := by
  unfold declare
  refine obeys_lift fun _ _ => ?_
  have admitted : Admits t s "AWS::Cognito::UserPoolClient" pool.logicalId :=
    .below valid (by decide)
  have fits : Fits t s [id, "Resource"] {
      type := "AWS::Cognito::UserPoolClient"
      properties := properties pool settings } :=
    fits_plain "AWS::Cognito::UserPoolClient" rfl declares
      (Resource.within_iff.mpr ⟨by simp, properties_within admitted⟩)
      (absurd (properties_document settings)) (by simp) (by decide)
  exact obeys_bind (obeys_declare fits) fun _ _ _ declared => obeys_pure ⟨declared.there, rfl⟩

end SignInClient

end StackSynth
