import StackSynth.Stack.Basic

/-!
Directories of the users that can sign in.
-/
namespace StackSynth

structure UserPoolSettings where
  selfSignUp : Bool := false
  verifyEmail : Bool := false
  verifyPhone : Bool := false
  removal : RemovalPolicy := .retain
  deriving DecidableEq, Repr, Inhabited

structure UserPool extends Construct
  deriving DecidableEq, Repr, Inhabited

namespace UserPool

def verificationMessage : String := "The verification code to your new account is \x7b####\x7d"
def verificationSubject : String := "Verify your new account"

def recoveryMechanism (name : String) (priority : UInt64) : Json :=
  .obj [("Name", .str name), ("Priority", .nat priority)]

def baseProperties (selfSignUp : Bool) : Fields := [
  ("AccountRecoverySetting", .obj [("RecoveryMechanisms", .arr [
    recoveryMechanism "verified_phone_number" 1, recoveryMechanism "verified_email" 2])]),
  ("AdminCreateUserConfig", .obj [("AllowAdminCreateUserOnly", .bool !selfSignUp)]),
  ("EmailVerificationMessage", .str verificationMessage),
  ("EmailVerificationSubject", .str verificationSubject),
  ("SmsVerificationMessage", .str verificationMessage),
  ("VerificationMessageTemplate", .obj [
    ("DefaultEmailOption", .str "CONFIRM_WITH_CODE"),
    ("EmailMessage", .str verificationMessage),
    ("EmailSubject", .str verificationSubject),
    ("SmsMessage", .str verificationMessage)])]

def verifiedAttributes (settings : UserPoolSettings) : List String :=
  (if settings.verifyEmail then ["email"] else [])
    ++ (if settings.verifyPhone then ["phone_number"] else [])

def resourceFor (settings : UserPoolSettings) : Resource :=
  let base : Resource := {
    type := "AWS::Cognito::UserPool"
    properties := baseProperties settings.selfSignUp }
  let verified := verifiedAttributes settings
  (if verified.isEmpty then base
    else base.withProperty "AutoVerifiedAttributes" (.strs verified)).withRemovalPolicy
      settings.removal.deletionPolicy

def declare (id : String) (settings : UserPoolSettings) : Declaring UserPool := do
  let logicalId ← Stack.declare [id, "Resource"] (resourceFor settings)
  return { path := [id], logicalId }

def poolId (p : UserPool) : Value := .ref p.logicalId
def arn (p : UserPool) : Value := .getAtt p.logicalId "Arn"

end UserPool

end StackSynth
