/-!
What a command line can ask for.
-/
namespace StackSynth.CommandLine

/-- How results are shown: for people, or as one document for programs. -/
inductive OutputFormat
  | human
  | json
  | yaml
  deriving DecidableEq, Repr, Inhabited

namespace OutputFormat

def ofName? : String → Option OutputFormat
  | "human" => some human
  | "json" => some json
  | "yaml" => some yaml
  | _ => none

def isStructured : OutputFormat → Bool
  | human => false
  | json | yaml => true

end OutputFormat

inductive TemplateFormat
  | json
  | yaml
  deriving DecidableEq, Repr, Inhabited

namespace TemplateFormat

def ofName? : String → Option TemplateFormat
  | "json" => some json
  | "yaml" => some yaml
  | _ => none

end TemplateFormat

inductive Shell
  | bash
  | elvish
  | fish
  | powershell
  | zsh
  deriving DecidableEq, Repr, Inhabited

def Shell.ofName? : String → Option Shell
  | "bash" => some .bash
  | "elvish" => some .elvish
  | "fish" => some .fish
  | "powershell" => some .powershell
  | "zsh" => some .zsh
  | _ => none

inductive Command
  /-- Writes the assembly. -/
  | synth (out : Option String)
  /-- Shows the template. -/
  | print (format : Option TemplateFormat)
  /-- Shows the resources, or those of one type, in the order in which they can be deployed. -/
  | list (type : Option String)
  /-- Shows what depends on what. -/
  | graph
  /-- Checks the settings and the template. -/
  | validate (strict : Bool)
  | completions (shell : Shell) (instructions : Bool)
  deriving DecidableEq, Repr, Inhabited

structure Invocation where
  command : Command
  verbosity : Nat := 0
  format : OutputFormat := .human
  config : Option String := none
  noColor : Bool := false
  deriving DecidableEq, Repr, Inhabited

/-- Why no command is run. -/
inductive Stop
  | help
  | version
  | misuse
  deriving DecidableEq, Repr, Inhabited

def Stop.exitCode : Stop → Nat
  | help | version => 0
  | misuse => 2

end StackSynth.CommandLine
