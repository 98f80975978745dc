/-!
How the owner of a domain proves that it is theirs.
-/
namespace StackSynth

inductive CertificateValidation
  | email
  | dns
  deriving DecidableEq, Repr, Inhabited

namespace CertificateValidation

/-- The name in configuration files. -/
def name : CertificateValidation → String
  | email => "email"
  | dns => "dns"

def ofName? : String → Option CertificateValidation
  | "email" => some email
  | "dns" => some dns
  | _ => none

end CertificateValidation

end StackSynth
