import StackSynth.Identity.Secret
import StackSynth.Identity.UserPool
import StackSynth.Text.Blank

/-!
Signing in to a user pool with an account at Google.
-/
namespace StackSynth

/-- What the provider knows of a user. -/
inductive GoogleAttribute
  | email
  | name
  | givenName
  | familyName
  | picture
  deriving DecidableEq, Repr, Inhabited

namespace GoogleAttribute

def text : GoogleAttribute → String
  | email => "email"
  | name => "name"
  | givenName => "given_name"
  | familyName => "family_name"
  | picture => "picture"

def all : List GoogleAttribute := [email, name, givenName, familyName, picture]

end GoogleAttribute

/-- What fills the attributes of a user of the pool. -/
structure AttributeMapping where
  email : Option GoogleAttribute := none
  fullName : Option GoogleAttribute := none
  givenName : Option GoogleAttribute := none
  familyName : Option GoogleAttribute := none
  profilePicture : Option GoogleAttribute := none
  deriving DecidableEq, Repr, Inhabited

namespace AttributeMapping

def field (name : String) (source : Option GoogleAttribute) : Fields :=
  match source with
  | some a => [(name, .str a.text)]
  | none => []

/-- The mapped attributes in the order of their names. -/
def fields (m : AttributeMapping) : Fields :=
  field "email" m.email ++ field "family_name" m.familyName ++ field "given_name" m.givenName
    ++ field "name" m.fullName ++ field "picture" m.profilePicture

end AttributeMapping

structure GoogleProviderSettings where
  clientId : String
  clientSecret : Secret
  mapping : AttributeMapping := {}
  scopes : List String := []
  deriving Inhabited

structure GoogleProvider extends Construct
  deriving DecidableEq, Repr, Inhabited

namespace GoogleProvider

def providerName : String := "Google"

/-- The scopes to ask for, each once; the profile always comes first. -/
def allScopes (scopes : List String) : List String :=
  scopes.foldl (fun all scope => if all.contains scope then all else all ++ [scope]) ["profile"]

def resourceFor (pool : UserPool) (settings : GoogleProviderSettings) : Resource :=
  let base : Resource := {
    type := "AWS::Cognito::UserPoolIdentityProvider"
    properties := [
      ("ProviderDetails", .obj [
        ("authorize_scopes", .str (Text.join " " (allScopes settings.scopes))),
        ("client_id", .str settings.clientId),
        ("client_secret", settings.clientSecret.value.toJson)]),
      ("ProviderName", .str providerName),
      ("ProviderType", .str "Google"),
      ("UserPoolId", pool.poolId.toJson)] }
  if settings.mapping.fields.isEmpty then base
  else base.withProperty "AttributeMapping" (.obj settings.mapping.fields)

def declare (id : String) (pool : UserPool) (settings : GoogleProviderSettings) :
    Declaring GoogleProvider := do
  if Text.isBlank settings.clientId then
    throw (.invalidProps id "Google client id is empty")
  let logicalId ← Stack.declare [id, "Resource"] (resourceFor pool settings)
  return { path := [id], logicalId }

def name (p : GoogleProvider) : Value := .ref p.logicalId

end GoogleProvider

end StackSynth
