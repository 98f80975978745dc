/-!
Permissions that roles have been given, as a stack keeps them on record.
-/
namespace StackSynth

inductive GrantKind
  | pull
  | invoke
  | readWriteData
  | readWrite
  | logWrite
  deriving DecidableEq, Repr, Inhabited

namespace GrantKind

def name : GrantKind → String
  | pull => "Pull"
  | invoke => "Invoke"
  | readWriteData => "ReadWriteData"
  | readWrite => "ReadWrite"
  | logWrite => "LogWrite"

def all : List GrantKind := [pull, invoke, readWriteData, readWrite, logWrite]

end GrantKind

structure Grant where
  /-- The logical id of the role. -/
  grantee : String
  kind : GrantKind
  target : String
  actions : List String
  deriving DecidableEq, Repr, Inhabited

end StackSynth
