import StackSynth.Config.Basic
import StackSynth.Decimal.Shortest
import StackSynth.Text.Quoted

/-!
Reading settings from a JSON document. A section is an object, whose unknown fields are skipped, or
a list of its settings in order; what is absent keeps its default. Fields of an object are looked at
in the order of their keys, and the first one that does not fit decides.
-/
namespace StackSynth

inductive DecodeError
  /-- A value of another kind than expected. -/
  | wrongKind (found : Json) (expected : String)
  | wrongValue (found expected : String)
  | unknownChoice (found : String)
  | tooLong (length : Nat)
  deriving Inhabited

namespace DecodeError

/-- What kind of value a message says it has found. -/
def describe : Json → String
  | .null => "null"
  | .bool b => s!"boolean `{b}`"
  | .int n => s!"integer `{n.val}`"
  | .float bits => s!"floating point `{String.ofList (Binary64.generalText true bits)}`"
  | .str s => s!"string {Text.quoted s}"
  | .arr _ => "sequence"
  | .obj _ => "map"

def message : DecodeError → String
  | wrongKind found expected => s!"invalid type: {describe found}, expected {expected}"
  | wrongValue found expected => s!"invalid value: {found}, expected {expected}"
  | unknownChoice found => s!"unknown variant `{found}`, expected `email` or `dns`"
  | tooLong length => s!"invalid length {length}, expected fewer elements in array"

end DecodeError

namespace Decode

abbrev Decoded := Except DecodeError

variable {α : Type}

def text : Json → Decoded String
  | .str s => .ok s
  | other => .error (.wrongKind other "a string")

def path : Json → Decoded String
  | .str s => .ok s
  | other => .error (.wrongKind other "path string")

def flag : Json → Decoded Bool
  | .bool b => .ok b
  | other => .error (.wrongKind other "a boolean")

def word : Json → Decoded UInt64
  | .int n =>
    if 0 ≤ n.val then .ok (UInt64.ofNat n.val.toNat)
    else .error (.wrongValue s!"integer `{n.val}`" "u64")
  | other => .error (.wrongKind other "u64")

def optional (decode : Json → Decoded α) : Json → Decoded (Option α)
  | .null => .ok none
  | other => (decode other).map some

def texts : Json → Decoded (List String)
  | .arr items => items.mapM text
  | other => .error (.wrongKind other "a sequence")

def choice (name : String) : Decoded CertificateValidation :=
  match CertificateValidation.ofName? name with
  | some validation => .ok validation
  | none => .error (.unknownChoice name)

/-- A choice is its name, or an object with the name as its only field and null as its value. -/
def validation : Json → Decoded CertificateValidation
  | .str name => choice name
  | .obj [(name, value)] => do
    let chosen ← choice name
    match value with
    | .null => .ok chosen
    | other => .error (.wrongKind other "unit")
  | .obj _ => .error (.wrongValue "map" "map with a single key")
  | other => .error (.wrongKind other "string or map")

/-- A setting: the name of its field, and how its value changes a section. -/
structure Setting (α : Type) where
  name : String
  apply : Json → α → Decoded α

def setting {β : Type} (name : String) (decode : Json → Decoded β) (set : β → α → α) : Setting α :=
  ⟨name, fun value section_ => (decode value).map fun b => set b section_⟩

def applyFields (settings : List (Setting α)) : Fields → α → Decoded α
  | [], done => .ok done
  | (key, value) :: rest, done =>
    match settings.find? (·.name == key) with
    | some s => do applyFields settings rest (← s.apply value done)
    | none => applyFields settings rest done

def applyItems : List (Setting α) → List Json → α → Decoded α
  | s :: settings, value :: rest, done => do applyItems settings rest (← s.apply value done)
  | _, _, done => .ok done

/-- A section with the given settings, called `name` in messages. -/
def group (name : String) (settings : List (Setting α)) (default : α) : Json → Decoded α
  | .obj fields => applyFields settings fields default
  | .arr items => do
    let done ← applyItems settings items default
    if items.length ≤ settings.length then .ok done else .error (.tooLong items.length)
  | other => .error (.wrongKind other s!"struct {name}")

def stack : Json → Decoded StackSettings := group "StackConfig" [
  setting "name" text fun v s => { s with name := v },
  setting "account" text fun v s => { s with account := v },
  setting "region" text fun v s => { s with region := v },
  setting "description" (optional text) fun v s => { s with description := v }] {}

def identity : Json → Decoded IdentitySettings := group "IdentityConfig" [
  setting "google_client_id" text fun v s => { s with googleClientId := v },
  setting "google_client_secret_name" text fun v s => { s with googleClientSecretName := v },
  setting "user_pool_domain" text fun v s => { s with userPoolDomain := v },
  setting "callback_urls" (optional texts) fun v s => { s with callbackUrls := v },
  setting "access_token_validity_minutes" word fun v s =>
    { s with accessTokenValidityMinutes := v }] {}

def certificate : Json → Decoded CertificateSettings := group "CertificateConfig" [
  setting "domain_name" text fun v s => { s with domainName := v },
  setting "validation" validation fun v s => { s with validation := v }] {}

def build : Json → Decoded BuildSettings := group "BuildConfig" [
  setting "context" path fun v s => { s with context := v },
  setting "exclude" texts fun v s => { s with exclude := v },
  setting "service_target" text fun v s => { s with serviceTarget := v },
  setting "lambda_target" text fun v s => { s with lambdaTarget := v }] {}

def logging : Json → Decoded LoggingSettings := group "LoggingConfig" [
  setting "level" text fun v s => { s with level := v },
  setting "json" flag fun v s => { s with json := v }] {}

def output : Json → Decoded OutputSettings := group "OutputConfig" [
  setting "outdir" path fun v s => { s with outdir := v },
  setting "color" flag fun v s => { s with color := v }] {}

def config : Json → Decoded Config := group "Config" [
  setting "stack" stack fun v c => { c with stack := v },
  setting "identity" identity fun v c => { c with identity := v },
  setting "certificate" certificate fun v c => { c with certificate := v },
  setting "build" build fun v c => { c with build := v },
  setting "logging" logging fun v c => { c with logging := v },
  setting "output" output fun v c => { c with output := v }] {}

end Decode

end StackSynth
