import StackSynth.Config.Decode
import StackSynth.Config.Load
import StackSynth.Proofs.Json.Merge
import StackSynth.Proofs.Outcome

/-!
The settings one by one: where a document has each, what a value there means for it, and that
reading a document gives each setting the meaning of its value.
-/
namespace StackSynth.Config

/-- A section of the settings, by the type of its values. -/
inductive Part : Type → Type
  | stack : Part StackSettings
  | identity : Part IdentitySettings
  | certificate : Part CertificateSettings
  | build : Part BuildSettings
  | logging : Part LoggingSettings
  | output : Part OutputSettings

/-- A setting of a section, by the type of its value. -/
inductive Key : Type → Type → Type
  | stackName : Key StackSettings String
  | account : Key StackSettings String
  | region : Key StackSettings String
  | description : Key StackSettings (Option String)
  | googleClientId : Key IdentitySettings String
  | googleClientSecretName : Key IdentitySettings String
  | userPoolDomain : Key IdentitySettings String
  | callbackUrls : Key IdentitySettings (Option (List String))
  | accessTokenValidityMinutes : Key IdentitySettings UInt64
  | domainName : Key CertificateSettings String
  | validation : Key CertificateSettings CertificateValidation
  | context : Key BuildSettings String
  | exclude : Key BuildSettings (List String)
  | serviceTarget : Key BuildSettings String
  | lambdaTarget : Key BuildSettings String
  | level : Key LoggingSettings String
  | json : Key LoggingSettings Bool
  | outdir : Key OutputSettings String
  | color : Key OutputSettings Bool

open StackSynth.Decode

namespace Part

variable {σ : Type}

/-- The field of a document that holds the section. -/
def name : Part σ → String
  | stack => "stack"
  | identity => "identity"
  | certificate => "certificate"
  | build => "build"
  | logging => "logging"
  | output => "output"

def decode : Part σ → Json → Decoded σ
  | stack => Decode.stack
  | identity => Decode.identity
  | certificate => Decode.certificate
  | build => Decode.build
  | logging => Decode.logging
  | output => Decode.output

def get : Part σ → Config → σ
  | stack, c => c.stack
  | identity, c => c.identity
  | certificate, c => c.certificate
  | build, c => c.build
  | logging, c => c.logging
  | output, c => c.output

end Part

namespace Key

variable {σ α : Type}

def part : Key σ α → Part σ
  | stackName | account | region | description => .stack
  | googleClientId | googleClientSecretName | userPoolDomain | callbackUrls
  | accessTokenValidityMinutes => .identity
  | domainName | validation => .certificate
  | context | exclude | serviceTarget | lambdaTarget => .build
  | level | json => .logging
  | outdir | color => .output

/-- The field of the section that holds the setting. -/
def name : Key σ α → String
  | stackName => "name"
  | account => "account"
  | region => "region"
  | description => "description"
  | googleClientId => "google_client_id"
  | googleClientSecretName => "google_client_secret_name"
  | userPoolDomain => "user_pool_domain"
  | callbackUrls => "callback_urls"
  | accessTokenValidityMinutes => "access_token_validity_minutes"
  | domainName => "domain_name"
  | validation => "validation"
  | context => "context"
  | exclude => "exclude"
  | serviceTarget => "service_target"
  | lambdaTarget => "lambda_target"
  | level => "level"
  | json => "json"
  | outdir => "outdir"
  | color => "color"

/-- What a value in a document means for the setting. -/
def decode : Key σ α → Json → Decoded α
  | stackName | account | region | googleClientId | googleClientSecretName | userPoolDomain
  | domainName | serviceTarget | lambdaTarget | level => text
  | context | outdir => path
  | json | color => flag
  | description => optional text
  | callbackUrls => optional texts
  | exclude => texts
  | accessTokenValidityMinutes => word
  | validation => Decode.validation

def get : Key σ α → σ → α
  | stackName, s => s.name
  | account, s => s.account
  | region, s => s.region
  | description, s => s.description
  | googleClientId, s => s.googleClientId
  | googleClientSecretName, s => s.googleClientSecretName
  | userPoolDomain, s => s.userPoolDomain
  | callbackUrls, s => s.callbackUrls
  | accessTokenValidityMinutes, s => s.accessTokenValidityMinutes
  | domainName, s => s.domainName
  | validation, s => s.validation
  | context, s => s.context
  | exclude, s => s.exclude
  | serviceTarget, s => s.serviceTarget
  | lambdaTarget, s => s.lambdaTarget
  | level, s => s.level
  | json, s => s.json
  | outdir, s => s.outdir
  | color, s => s.color

def read (k : Key σ α) (c : Config) : α := k.get (k.part.get c)

/-- What the environment says, for the settings that it may override. -/
def override? : Key σ α → Variables → Option α
  | account, env => env.lookup "ZKCIR_ACCOUNT"
  | region, env => env.lookup "ZKCIR_REGION"
  | stackName, env => env.lookup "ZKCIR_STACK_NAME"
  | domainName, env => env.lookup "ZKCIR_DOMAIN_NAME"
  | context, env => env.lookup "ZKCIR_BUILD_CONTEXT"
  | color, env => (env.lookup "NO_COLOR").map fun _ => false
  | _, _ => none

theorem read_override (k : Key σ α) (env : Variables) (c : Config) :
    k.read (Config.override env c) = (k.override? env).getD (k.read c) := by
  cases k <;> try rfl
  simp only [read, get, part, Part.get, Config.override, override?]
  cases env.lookup "NO_COLOR" <;> simp

end Key

/-- The settings are all there is to a configuration. -/
theorem eq_of_read {c c' : Config}
    (same : ∀ {σ α : Type} (k : Key σ α), k.read c = k.read c') : c = c' := by
  obtain ⟨⟨⟩, ⟨⟩, ⟨⟩, ⟨⟩, ⟨⟩, ⟨⟩⟩ := c
  obtain ⟨⟨⟩, ⟨⟩, ⟨⟩, ⟨⟩, ⟨⟩, ⟨⟩⟩ := c'
  simp only [mk.injEq, StackSettings.mk.injEq, IdentitySettings.mk.injEq,
    CertificateSettings.mk.injEq, BuildSettings.mk.injEq, LoggingSettings.mk.injEq,
    OutputSettings.mk.injEq]
  exact ⟨⟨same .stackName, same .account, same .region, same .description⟩,
    ⟨same .googleClientId, same .googleClientSecretName, same .userPoolDomain, same .callbackUrls,
      same .accessTokenValidityMinutes⟩,
    ⟨same .domainName, same .validation⟩,
    ⟨same .context, same .exclude, same .serviceTarget, same .lambdaTarget⟩,
    ⟨same .level, same .json⟩, ⟨same .outdir, same .color⟩⟩

/-! How a section is read: each of its settings from the field of its name. -/

section Fields

variable {σ α : Type} {name : String} {decode : Json → Decoded α} {get : σ → α}
  {settings : List (Setting σ)} {fields : Fields} {start result : σ} {value : Json}

/-- Each setting of the list either is the one of the name, and then leaves what its value means, or
leaves alone what is looked at. -/
def Settles (name : String) (decode : Json → Decoded α) (get : σ → α)
    (settings : List (Setting σ)) : Prop :=
  ∀ s ∈ settings, ∀ value before after, s.apply value before = .ok after →
    if s.name = name then decode value = .ok (get after) else get after = get before

theorem map_ok_iff {α β : Type} {o : Decoded α} {f : α → β} {b : β} :
    o.map f = .ok b ↔ ∃ a, o = .ok a ∧ f a = b := by
  cases o <;> simp [Except.map]

theorem apply_fields_kept (settles : Settles name decode get settings)
    (absent : Fields.get? name fields = none)
    (made : applyFields settings fields start = .ok result) : get result = get start := by
  induction fields generalizing start with
  | nil =>
    cases made
    rfl
  | cons field rest ih =>
    obtain ⟨key, other⟩ := field
    rw [Fields.get?_eq_none_iff, List.forall_mem_cons] at absent
    have later := Fields.get?_eq_none_iff.mpr absent.2
    rw [applyFields] at made
    split at made
    · next s found =>
      obtain ⟨between, applied, made⟩ := Outcome.bind_ok made
      have own : s.name ≠ name := by
        have same := List.find?_some found
        rw [beq_iff_eq] at same
        rw [same]
        exact absent.1
      have kept := settles s (List.mem_of_find?_eq_some found) other start between applied
      rw [if_neg own] at kept
      exact (ih later made).trans kept
    · exact ih later made

/-- A setting that is there has the value of its field, wherever that stands. -/
theorem apply_fields_set (settles : Settles name decode get settings)
    (listed : name ∈ settings.map (·.name)) (ascending : fields.Ascending)
    (found : Fields.get? name fields = some value)
    (made : applyFields settings fields start = .ok result) : decode value = .ok (get result) := by
  induction fields generalizing start with
  | nil => cases found
  | cons field rest ih =>
    obtain ⟨key, other⟩ := field
    rw [applyFields] at made
    split at made
    · next s there =>
      obtain ⟨between, applied, onward⟩ := Outcome.bind_ok made
      have same : s.name = key := by
        have same := List.find?_some there
        rwa [beq_iff_eq] at same
      have set := settles s (List.mem_of_find?_eq_some there) other start between applied
      rw [Fields.get?] at found
      by_cases own : key = name
      · rw [if_pos own] at found
        cases found
        rw [if_pos (same.trans own)] at set
        have kept := apply_fields_kept settles (own ▸ ascending.get?_head) onward
        rw [set, kept]
      · rw [if_neg own] at found
        exact ih (List.pairwise_cons.mp ascending).2 found onward
    · next missing =>
      rw [Fields.get?] at found
      by_cases own : key = name
      · obtain ⟨s, there, same⟩ := List.mem_map.mp listed
        have unnamed := List.find?_eq_none.mp missing s there
        simp [same, own] at unnamed
      · rw [if_neg own] at found
        exact ih (List.pairwise_cons.mp ascending).2 found made

end Fields

theorem part_decoded {σ : Type} (p : Part σ) {fields : Fields} {value : Json} {c : Config}
    (ascending : fields.Ascending) (found : Fields.get? p.name fields = some value)
    (made : Decode.config (.obj fields) = .ok c) : p.decode value = .ok (p.get c) := by
  refine apply_fields_set ?_ ?_ ascending found made
  · cases p <;> simp [Settles, setting, map_ok_iff, Part.name, Part.decode, Part.get]
  · cases p <;> decide

theorem key_decoded {σ α : Type} (k : Key σ α) {fields : Fields} {value : Json} {section_ : σ}
    (ascending : fields.Ascending) (found : Fields.get? k.name fields = some value)
    (made : k.part.decode (.obj fields) = .ok section_) : k.decode value = .ok (k.get section_) := by
  cases k
  all_goals
    refine apply_fields_set ?_ ?_ ascending found made
    · simp [-Bool.exists_bool, -Bool.forall_bool, Settles, setting, map_ok_iff, Key.name,
        Key.decode, Key.get]
    · decide

end StackSynth.Config
