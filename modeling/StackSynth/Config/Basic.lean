import StackSynth.Environment
import StackSynth.Identity.Validation
import StackSynth.Json.Basic
import StackSynth.Text.Blank

/-!
The settings of a deployment, their defaults, and the conditions they have to meet.
-/
namespace StackSynth

structure StackSettings where
  name : String := "ZkcirCdkStack"
  account : String := "388179654007"
  region : String := "us-east-1"
  description : Option String := none
  deriving DecidableEq, Repr, Inhabited

structure IdentitySettings where
  googleClientId : String := "585833256001-k7otn8at0hvvttmug2le7nm0mm4ehfvb.apps.googleusercontent.com"
  googleClientSecretName : String := "GoogleClientSecret"
  userPoolDomain : String := "zkcir"
  callbackUrls : Option (List String) := none
  accessTokenValidityMinutes : UInt64 := 1440
  deriving DecidableEq, Repr, Inhabited

structure CertificateSettings where
  domainName : String := "zkcir.chrisc.dev"
  validation : CertificateValidation := .email
  deriving DecidableEq, Repr, Inhabited

structure BuildSettings where
  context : String := ".."
  exclude : List String := ["cdk"]
  serviceTarget : String := "core-ecs"
  lambdaTarget : String := "compile-lambda"
  deriving DecidableEq, Repr, Inhabited

structure LoggingSettings where
  level : String := "warn"
  json : Bool := false
  deriving DecidableEq, Repr, Inhabited

structure OutputSettings where
  outdir : String := "cdk.out"
  color : Bool := true
  deriving DecidableEq, Repr, Inhabited

structure Config where
  stack : StackSettings := {}
  identity : IdentitySettings := {}
  certificate : CertificateSettings := {}
  build : BuildSettings := {}
  logging : LoggingSettings := {}
  output : OutputSettings := {}
  deriving DecidableEq, Repr, Inhabited

namespace Config

def textOrNull : Option String → Json
  | some s => .str s
  | none => .null

/-- The settings as a JSON document with all of them. -/
def toJson (c : Config) : Json := .object [
  ("stack", .object [
    ("name", .str c.stack.name),
    ("account", .str c.stack.account),
    ("region", .str c.stack.region),
    ("description", textOrNull c.stack.description)]),
  ("identity", .object [
    ("google_client_id", .str c.identity.googleClientId),
    ("google_client_secret_name", .str c.identity.googleClientSecretName),
    ("user_pool_domain", .str c.identity.userPoolDomain),
    ("callback_urls", match c.identity.callbackUrls with
      | some urls => .strs urls
      | none => .null),
    ("access_token_validity_minutes", .nat c.identity.accessTokenValidityMinutes)]),
  ("certificate", .object [
    ("domain_name", .str c.certificate.domainName),
    ("validation", .str c.certificate.validation.name)]),
  ("build", .object [
    ("context", .str c.build.context),
    ("exclude", .strs c.build.exclude),
    ("service_target", .str c.build.serviceTarget),
    ("lambda_target", .str c.build.lambdaTarget)]),
  ("logging", .object [
    ("level", .str c.logging.level),
    ("json", .bool c.logging.json)]),
  ("output", .object [
    ("outdir", .str c.output.outdir),
    ("color", .bool c.output.color)])]

def environment (c : Config) : Outcome Environment :=
  Environment.make c.stack.account c.stack.region

/-- Where the sign-in may return to; unless it is set, the service itself and two local servers. -/
def callbackUrls (c : Config) : List String :=
  c.identity.callbackUrls.getD [
    s!"https://{c.certificate.domainName}/auth/callback",
    "http://localhost:3000/auth/callback",
    "http://localhost:8000/auth/callback"]

def leastTokenMinutes : UInt64 := 5
def mostTokenMinutes : UInt64 := 1440

/-- The first condition that is not met decides. -/
def validate (c : Config) : Outcome Unit := do
  let _ ← c.environment
  if Text.isBlank c.certificate.domainName then
    throw (.invalidConfig "certificate.domain_name" "must not be empty")
  if Text.isBlank c.identity.googleClientId then
    throw (.invalidConfig "identity.google_client_id" "must not be empty")
  if c.build.serviceTarget = c.build.lambdaTarget then
    throw (.invalidConfig "build.lambda_target" "must differ from build.service_target")
  let minutes := c.identity.accessTokenValidityMinutes
  if minutes < leastTokenMinutes ∨ mostTokenMinutes < minutes then
    throw (.invalidConfig "identity.access_token_validity_minutes" "must be between 5 and 1440")

end Config

end StackSynth
