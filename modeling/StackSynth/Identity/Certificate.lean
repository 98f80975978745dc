import StackSynth.Identity.Validation
import StackSynth.Stack.Basic
import StackSynth.Text.Blank

/-!
Certificates for domain names.
-/
namespace StackSynth

def CertificateValidation.method : CertificateValidation → String
  | email => "EMAIL"
  | dns => "DNS"

structure Certificate extends Construct where
  domainName : String
  deriving DecidableEq, Repr, Inhabited

namespace Certificate

def isDomainName (domain : String) : Bool :=
  !domain.isEmpty && Text.contains "." domain && decide (Text.byteLength domain ≤ 253)

/-- Declares a certificate; white space around the domain name does not count. -/
def declare (id domainName : String) (validation : CertificateValidation) :
    Declaring Certificate := do
  let domain := Text.trim domainName
  if !isDomainName domain then
    throw (.invalidProps id s!"'{domainName}' is not a fully qualified domain name")
  let logicalId ← Stack.declare [id, "Resource"] {
    type := "AWS::CertificateManager::Certificate"
    properties := [
      ("DomainName", .str domain),
      ("ValidationMethod", .str validation.method)] }
  return { path := [id], logicalId, domainName := domain }

def arn (c : Certificate) : Value := .ref c.logicalId

end Certificate

end StackSynth
