import StackSynth.Failure
import StackSynth.Template.Value
import StackSynth.Text.Split

/-!
Secrets that are kept outside the stack. The stack only refers to them by name.
-/
namespace StackSynth

structure Secret where
  name : String
  deriving DecidableEq, Repr, Inhabited

namespace Secret

def isNameChar (c : Char) : Bool :=
  Text.isAsciiAlphanumeric c || ['/', '_', '+', '=', '.', '@', '-'].contains c

def isName (name : String) : Bool :=
  !name.isEmpty && decide (Text.byteLength name ≤ 512) && name.toList.all isNameChar

def ofName (name : String) : Outcome Secret :=
  if isName name then .ok ⟨name⟩
  else .error (.invalidProps "Secret" s!"'{name}' is not a valid secret name")

def arn (s : Secret) : Value :=
  .join "" [.str "arn:", .partition, .str ":secretsmanager:", .region, .str ":", .accountId,
    .str s!":secret:{s.name}"]

/-- The text of the secret, looked up when the stack is deployed. -/
def value (s : Secret) : Value :=
  .join "" [.str "\x7b\x7bresolve:secretsmanager:", s.arn, .str ":SecretString:::\x7d\x7d"]

end Secret

end StackSynth
