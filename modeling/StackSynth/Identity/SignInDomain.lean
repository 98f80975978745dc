import StackSynth.Identity.UserPool

/-!
Domains under which the sign-in pages of a user pool are hosted.
-/
namespace StackSynth

structure SignInDomain extends Construct where
  /-- The first label of the domain. -/
  label : String
  deriving DecidableEq, Repr, Inhabited

namespace SignInDomain

def isLabel (label : String) : Bool :=
  !label.isEmpty && decide (Text.byteLength label ≤ 63)
    && !Text.startsWith "-" label && !Text.endsWith "-" label
    && label.toList.all fun c => Text.isAsciiLower c || Text.isAsciiDigit c || c == '-'

def reservedWords : List String := ["aws", "amazon", "cognito"]

def declare (id : String) (pool : UserPool) (label : String) : Declaring SignInDomain := do
  if !isLabel label then
    throw (.invalidProps id
      s!"domain prefix '{label}' may only contain lowercase letters, digits and hyphens")
  if reservedWords.any fun word => Text.contains word label then
    throw (.invalidProps id s!"domain prefix '{label}' contains a reserved word")
  let logicalId ← Stack.declare [id, "Resource"] {
    type := "AWS::Cognito::UserPoolDomain"
    properties := [("Domain", .str label), ("UserPoolId", pool.poolId.toJson)] }
  return { path := [id], logicalId, label }

def baseUrl (d : SignInDomain) : Value :=
  .join "" [.str s!"https://{d.label}.auth.", .region, .str ".amazoncognito.com"]

end SignInDomain

end StackSynth
