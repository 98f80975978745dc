/-!
What can go wrong while a stack is declared, synthesized, checked or written, with the text and the
process exit code of each cause.
-/
namespace StackSynth

inductive Failure
  | invalidProps (construct message : String)
  | duplicateLogicalId (id : String)
  | resourceNotFound (id : String)
  | danglingReference (source target : String)
  | dependencyCycle (description : String)
  | assetNotFound (path : String)
  | assetFingerprint (path message : String)
  | config (message : String)
  | invalidConfig (key message : String)
  | io (cause : String)
  | yaml
  | json
  | toml
  | internal (message : String)
  /-- A step that failed because of something outside the program, with the text of that cause. -/
  | during (step : String) (cause : Option String)
  deriving DecidableEq, Repr, Inhabited

namespace Failure

def message : Failure → String
  | invalidProps construct text => s!"Invalid properties for '{construct}': {text}"
  | duplicateLogicalId id => s!"Duplicate logical id '{id}' in stack"
  | resourceNotFound id => s!"Resource '{id}' not found in stack"
  | danglingReference source target =>
    s!"Resource '{source}' references unknown logical id '{target}'"
  | dependencyCycle description => s!"Dependency cycle between resources: {description}"
  | assetNotFound path => s!"Asset directory not found: {path}"
  | assetFingerprint path text => s!"Failed to fingerprint asset '{path}': {text}"
  | config text => s!"Configuration error: {text}"
  | invalidConfig key text => s!"Invalid configuration value for '{key}': {text}"
  | io cause => s!"IO error: {cause}"
  | yaml => "YAML error"
  | json => "JSON error"
  | toml => "TOML parse error"
  | internal text => s!"Internal error: {text}"
  | during step _ => step

/-- What lies behind the failure, when it is not told in full by its own message. -/
def cause : Failure → Option String
  | io text => some text
  | during _ text => text
  | _ => none

/-- 2: the stack is wrong, 3: an asset is, 4: the configuration is, 1: anything else. -/
def exitCode : Failure → Nat
  | invalidProps .. | duplicateLogicalId _ | resourceNotFound _ | danglingReference ..
  | dependencyCycle _ => 2
  | assetNotFound _ | assetFingerprint .. => 3
  | config _ | invalidConfig .. | toml => 4
  | _ => 1

end Failure

/-- The result of a step that can fail. -/
abbrev Outcome := Except Failure

end StackSynth
