import StackSynth.Identity.GoogleProvider
import StackSynth.Units

/-!
Applications that users of a pool sign in to: how tokens are asked for, where they may be sent, and
how long they are valid.
-/
namespace StackSynth

inductive SignInProvider
  | cognito
  | google
  deriving DecidableEq, Repr, Inhabited

def SignInProvider.text : SignInProvider → String
  | cognito => "COGNITO"
  | google => GoogleProvider.providerName

inductive OAuthScope
  | email
  | openId
  | phone
  | profile
  | admin
  deriving DecidableEq, Repr, Inhabited

namespace OAuthScope

def text : OAuthScope → String
  | email => "email"
  | openId => "openid"
  | phone => "phone"
  | profile => "profile"
  | admin => "aws.cognito.signin.user.admin"

def all : List OAuthScope := [email, openId, phone, profile, admin]

end OAuthScope

structure SignInClientSettings where
  providers : List SignInProvider := []
  codeFlow : Bool := true
  implicitFlow : Bool := true
  callbackUrls : List String := []
  scopes : List OAuthScope := []
  tokenValidity : Option Duration := none
  deriving DecidableEq, Repr, Inhabited

structure SignInClient extends Construct
  deriving DecidableEq, Repr, Inhabited

namespace SignInClient

def flows (settings : SignInClientSettings) : List String :=
  (if settings.implicitFlow then ["implicit"] else [])
    ++ (if settings.codeFlow then ["code"] else [])

/-- Tokens travel encrypted, unless they stay on the machine of the user. -/
def isSafeUrl (url : String) : Bool :=
  Text.startsWith "https://" url || Text.startsWith "http://localhost" url

def isTokenValidity (d : Duration) : Bool :=
  decide (¬ (Duration.ofMinutes 5).Longer d) && decide (¬ d.Longer (.ofDays 1))

/-- The first setting that is not allowed decides. -/
def check (id : String) (settings : SignInClientSettings) : Outcome Unit := do
  if !(flows settings).isEmpty && settings.callbackUrls.isEmpty then
    throw (.invalidProps id "OAuth flows need at least one callback URL")
  match settings.callbackUrls.find? (!isSafeUrl ·) with
  | some url =>
    throw (.invalidProps id s!"callback URL '{url}' must use https unless it is localhost")
  | none => pure ()
  if !(settings.tokenValidity.map isTokenValidity).getD true then
    throw (.invalidProps id "access token validity must be between 5 minutes and 1 day")

/-- A list of texts that is left out where it is empty. -/
def optionalTexts (key : String) (items : List String) : Fields :=
  if items.isEmpty then [] else [(key, .strs items)]

def properties (pool : UserPool) (settings : SignInClientSettings) : Fields :=
  (match settings.tokenValidity with
    | some d => [("AccessTokenValidity", .nat d.minutes)]
    | none => [])
  ++ optionalTexts "AllowedOAuthFlows" (flows settings)
  ++ (if (flows settings).isEmpty then [] else [("AllowedOAuthFlowsUserPoolClient", .bool true)])
  ++ optionalTexts "AllowedOAuthScopes" (settings.scopes.map OAuthScope.text)
  ++ optionalTexts "CallbackURLs" settings.callbackUrls
  ++ optionalTexts "SupportedIdentityProviders" (settings.providers.map SignInProvider.text)
  ++ (match settings.tokenValidity with
    | some _ => [("TokenValidityUnits", .obj [("AccessToken", .str "minutes")])]
    | none => [])
  ++ [("UserPoolId", pool.poolId.toJson)]

def declare (id : String) (pool : UserPool) (settings : SignInClientSettings) :
    Declaring SignInClient := do
  Stack.lift (check id settings)
  let logicalId ← Stack.declare [id, "Resource"] {
    type := "AWS::Cognito::UserPoolClient"
    properties := properties pool settings }
  return { path := [id], logicalId }

def clientId (c : SignInClient) : Value := .ref c.logicalId

end SignInClient

end StackSynth
