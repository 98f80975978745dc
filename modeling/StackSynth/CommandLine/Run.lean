import StackSynth.Assembly.Writing
import StackSynth.CommandLine.Completion
import StackSynth.CommandLine.Console
import StackSynth.Graph.Dot
import StackSynth.HostedService

/-!
Running a command: what it shows, what it writes, and the exit code it ends with. What was shown
before a failure stays shown.
-/
namespace StackSynth.CommandLine

/-- A failure, with what was going on when it happened. -/
structure Trouble where
  during : Option String := none
  failure : Failure
  deriving DecidableEq, Repr, Inhabited

/-- What was going on, what went wrong, and what lies behind it. -/
def Trouble.message (t : Trouble) : String :=
  Text.join ": " (t.during.toList ++ [t.failure.message] ++ t.failure.cause.toList)

/-- What a command leaves behind. -/
structure Session where
  files : FileTree
  chunks : List Chunk := []
  /-- The paths of the files that were written. -/
  written : List String := []
  deriving Inhabited

abbrev Running := ExceptT Trouble (StateM Session)

namespace Running

def emit (chunks : List Chunk) : Running Unit :=
  modify fun s => { s with chunks := s.chunks ++ chunks }

def attempt {α : Type} (during : Option String) (outcome : Outcome α) : Running α :=
  match outcome with
  | .ok a => pure a
  | .error failure => throw { during, failure }

end Running

open Running

/-- Declares the service that the settings describe. -/
def buildStack (c : Console) (config : Config) : Running Stack := do
  emit (c.debug s!"Build context: {config.build.context}")
  let (_, stack) ← attempt (some s!"failed to declare stack '{config.stack.name}'")
    (HostedService.build (← get).files config)
  emit (c.info s!"Declared {stack.resourceCount} resources in {stack.name}")
  return stack

def synthSummary (stack : Stack) (directory : String) (written : List String) : Json := .obj [
  ("stack", .str stack.name),
  ("outdir", .str directory),
  ("resources", .nat (UInt64.ofNat stack.resourceCount)),
  ("assets", .nat (UInt64.ofNat stack.assets.length)),
  ("files", .strs written)]

def runSynth (c : Console) (config : Config) (out : Option String) : Running Nat := do
  let directory := out.getD config.output.outdir
  emit (c.banner "ZKCIR-INFRA SYNTH")
  let stack ← buildStack c config
  let (outcome, files) := Assembly.write directory stack (← get).files
  modify fun s => { s with files }
  let written ← attempt none outcome
  modify fun s => { s with written }
  if c.isStructured then emit (c.document (synthSummary stack directory written))
  else
    emit (c.heading "Written")
    emit (written.flatMap fun path => c.text s!"  {path}")
    let counts := s!"({stack.resourceCount} resources, {stack.assets.length} assets)"
    emit (c.success s!"{stack.name} {counts} synthesized to {directory}")
    emit (c.elapsed "Synthesis took")
  return 0

/-- The format that is asked for, or else the one that the output format suggests. -/
def templateFormat (format : Option TemplateFormat) (output : OutputFormat) : TemplateFormat :=
  format.getD (if output = .yaml then .yaml else .json)

def runPrint (c : Console) (config : Config) (format : Option TemplateFormat) : Running Nat := do
  let stack ← buildStack c config
  let template ← attempt none stack.synthesize
  let text := match templateFormat format c.format with
    | .json => template.render
    | .yaml => Yaml.render template.toJson
  emit [Console.line (Text.trimEnd text)]
  return 0

/-- The ids and types of a graph in the order of deployment, those of one type if it is given. -/
def listed (graph : DependencyGraph) (type : Option String) (order : List String) :
    List (String × String) :=
  (order.filterMap fun id => (graph.node? id).map fun node => (id, node.type)).filter fun entry =>
    type.all (· == entry.2)

def listDocument (entries : List (String × String)) : Json :=
  .arr (entries.map fun (id, type) => .obj [("logical_id", .str id), ("type", .str type)])

def listRows (entries : List (String × String)) : List (List String) :=
  entries.zipIdx.map fun ((id, type), i) => [toString (i + 1), id, type]

def runList (c : Console) (config : Config) (type : Option String) : Running Nat := do
  let stack ← buildStack c config
  let graph ← attempt none stack.dependencyGraph
  let entries := listed graph type (← attempt none graph.deployOrder)
  if c.isStructured then emit (c.document (listDocument entries))
  else
    emit (c.heading s!"{stack.name} ({entries.length} resources)")
    emit (c.table ["#", "LOGICAL ID", "TYPE"] (listRows entries))
  return 0

def runGraph (c : Console) (config : Config) : Running Nat := do
  let stack ← buildStack c config
  let graph ← attempt none stack.dependencyGraph
  emit [Console.line (Text.trimEnd graph.dot)]
  return 0

/-- Errors fail a check; warnings do where that is asked for. -/
def isFailed (strict : Bool) (found : List Finding) : Bool :=
  decide (0 < Audit.count .error found) || (strict && decide (0 < Audit.count .warning found))

/-- What is shown of a check to people. -/
def verdict (c : Console) (strict : Bool) (checked : Nat) (found : List Finding) : List Chunk :=
  let errors := Audit.count .error found
  let warnings := Audit.count .warning found
  (if found.isEmpty then [] else c.heading "Findings" ++ found.flatMap c.finding)
    ++ (if isFailed strict found then
      c.error s!"validation failed: {errors} errors, {warnings} warnings"
    else
      (if warnings = 0 then []
        else c.warning s!"{warnings} warnings, rerun with --strict to fail on them")
      ++ c.success s!"{checked} resources checked, {warnings} warnings")

def runValidate (c : Console) (config : Config) (strict : Bool) : Running Nat := do
  emit (c.banner "ZKCIR-INFRA VALIDATE")
  attempt none config.validate
  emit (c.info "Configuration is valid")
  let stack ← buildStack c config
  let template ← attempt none stack.synthesize
  let found := Audit.findings template
  if c.isStructured then emit (c.document (Audit.reportJson found))
  else emit (verdict c strict template.resources.size found)
  return if isFailed strict found then 1 else 0

def runCompletions (shell : Shell) (instructions : Bool) : Running Nat := do
  emit ((if instructions then shell.instructions else [shell.script]).map Console.line)
  return 0

def Command.run (c : Console) (config : Config) : Command → Running Nat
  | synth out => runSynth c config out
  | print format => runPrint c config format
  | list type => runList c config type
  | graph => runGraph c config
  | validate strict => runValidate c config strict
  | completions shell instructions => runCompletions shell instructions

/-- The settings of a run; completions do without any that can be read. -/
def settings (env : Variables) (files : FileTree) (i : Invocation) : Outcome Config :=
  match Config.load files env i.config, i.command with
  | .ok config, _ => .ok config
  | .error _, .completions .. => .ok {}
  | .error e, _ => .error e

/-- How the output of an invocation looks. -/
def console (i : Invocation) (config : Config) (wantsColor showsColor : Bool) : Console := {
  isColored := wantsColor && config.output.color && showsColor
  format := i.format
  verbosity := i.verbosity }

/-- How a run ends. -/
structure Ending where
  exitCode : Nat
  session : Session
  deriving Inhabited

/-- Runs an invocation. -/
def Invocation.run (i : Invocation) (env : Variables) (isTerminal : Bool)
    (files : FileTree) : Ending :=
  let wantsColor := !i.noColor && (env.lookup "NO_COLOR").isNone
  let showsColor := showsColors env isTerminal
  let action : Running Nat := do
    let config ← attempt none (settings env files i)
    i.command.run (console i config wantsColor showsColor) config
  let (result, session) := (ExceptT.run action).run { files }
  match result with
  | .ok exitCode => ⟨exitCode, session⟩
  | .error t => ⟨t.failure.exitCode, { session with
      chunks := session.chunks ++ [Console.errorLine (wantsColor && showsColor) t.message] }⟩

/-- What is shown where no command is run. -/
def Stop.chunk : Stop → Chunk
  | .help => Console.line usage
  | .version => Console.line s!"{programName} 0.1.0"
  | .misuse => .diagnostic (usage ++ "\n")

/-- Runs a command line in a file tree. -/
def run (arguments : List String) (env : Variables) (isTerminal : Bool) (files : FileTree) :
    Ending :=
  match parse env arguments with
  | .ok invocation => invocation.run env isTerminal files
  | .error stop => ⟨stop.exitCode, { files, chunks := [stop.chunk] }⟩

end StackSynth.CommandLine
