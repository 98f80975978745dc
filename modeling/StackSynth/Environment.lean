import StackSynth.Failure
import StackSynth.Text.Split

/-!
The account and region that a stack is deployed to.
-/
namespace StackSynth

structure Environment where
  account : String
  region : String
  deriving DecidableEq, Repr, Inhabited

namespace Environment

def isAccount (s : String) : Bool := Text.byteLength s == 12 && s.toList.all Text.isAsciiDigit

def isRegion (s : String) : Bool :=
  !s.toList.isEmpty
    && s.toList.all fun c => Text.isAsciiLower c || Text.isAsciiDigit c || c == '-'

/-- The account is looked at before the region. -/
def make (account region : String) : Outcome Environment :=
  if !isAccount account then
    .error (.invalidConfig "stack.account" s!"'{account}' is not a 12-digit account id")
  else if !isRegion region then
    .error (.invalidConfig "stack.region" s!"'{region}' is not a region name")
  else .ok ⟨account, region⟩

def descriptor (e : Environment) : String := s!"aws://{e.account}/{e.region}"

end Environment

end StackSynth
