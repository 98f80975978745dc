import StackSynth.CommandLine.Invocation
import StackSynth.Config.Load
import StackSynth.Text.Split

/-!
Reading arguments. A command is a verb with options. The options that all commands share can stand
before the verb and after it, and what is said after it prevails. An option keeps its value in wait
until the next option or the end of its part of the line, where the value is checked.
-/
namespace StackSynth.CommandLine

inductive Opt
  | verbose
  | output
  | config
  | noColor
  | help
  | version
  | out
  | format
  | type
  | strict
  | instructions
  /-- The one argument that stands for itself. -/
  | shell
  deriving DecidableEq, Repr, Inhabited

namespace Opt

def takesValue : Opt → Bool
  | output | config | out | format | type | shell => true
  | verbose | noColor | help | version | strict | instructions => false

/-- Whether an option can be given more than once. -/
def isRepeatable (o : Opt) : Bool := o == verbose

def accepts (o : Opt) (value : String) : Bool :=
  match o with
  | output => (OutputFormat.ofName? value).isSome
  | format => (TemplateFormat.ofName? value).isSome
  | shell => (Shell.ofName? value).isSome
  | config | out => !value.isEmpty
  | _ => true

def long? : Opt → Option String
  | verbose => some "verbose"
  | output => some "output"
  | config => some "config"
  | noColor => some "no-color"
  | help => some "help"
  | version => some "version"
  | out => some "out"
  | format => some "format"
  | type => some "type"
  | strict => some "strict"
  | instructions => some "instructions"
  | shell => none

def short? : Opt → Option Char
  | verbose => some 'v'
  | output => some 'o'
  | config => some 'c'
  | help => some 'h'
  | version => some 'V'
  | type => some 't'
  | _ => none

/-- The options of every command. -/
def common : List Opt := [verbose, output, config, noColor, help, version]

end Opt

inductive Verb
  | synth
  | print
  | list
  | graph
  | validate
  | completions
  deriving DecidableEq, Repr, Inhabited

namespace Verb

def ofName? : String → Option Verb
  | "synth" => some synth
  | "print" => some print
  | "list" => some list
  | "graph" => some graph
  | "validate" => some validate
  | "completions" => some completions
  | _ => none

def options : Verb → List Opt
  | synth => .out :: Opt.common
  | print => .format :: Opt.common
  | list => .type :: Opt.common
  | graph => Opt.common
  | validate => .strict :: Opt.common
  | completions => .instructions :: Opt.common

/-- The argument that stands for itself after a verb. -/
def positional? : Verb → Option Opt
  | completions => some .shell
  | _ => none

end Verb

/-- The options that were given in a part of the line, with their values. -/
abbrev Given := List (Opt × String)

/-- A part of the line, as far as it has been read. -/
structure Part where
  given : Given := []
  /-- The last option, while its value is still to come or to be checked. -/
  pending : Option (Opt × Option String) := none
  deriving Repr, Inhabited

namespace Part

def isOpen (p : Part) : Bool :=
  match p.pending with
  | some (_, none) => true
  | _ => false

def record (p : Part) (o : Opt) (value : String) : Except Stop Part :=
  if !o.accepts value then .error .misuse
  else if !o.isRepeatable && p.given.any (·.1 == o) then .error .misuse
  else .ok { p with given := p.given ++ [(o, value)] }

/-- Checks the value that waits. -/
def settle (p : Part) : Except Stop Part :=
  match p.pending with
  | none => .ok p
  | some (_, none) => .error .misuse
  | some (o, some value) => { p with pending := none }.record o value

def await (p : Part) (o : Opt) (value : Option String) : Except Stop Part := do
  return { (← p.settle) with pending := some (o, value) }

/-- Takes an option with the value that is attached to it, if there is one. -/
def take (p : Part) (o : Opt) (attached : Option String) : Except Stop Part := do
  match o, attached with
  | .help, none => let _ ← p.settle; throw .help
  | .version, none => let _ ← p.settle; throw .version
  | o, some value => if o.takesValue then (← p.settle).record o value else throw .misuse
  | o, none => if o.takesValue then p.await o none else (← p.settle).record o ""

def takeLong (options : List Opt) (p : Part) (word : List Char) : Except Stop Part :=
  let (name, attached) := match Text.splitOnce '=' word with
    | some (name, value) => (name, some (String.ofList value))
    | none => (word, none)
  match options.find? (·.long? == some (String.ofList name)) with
  | some o => p.take o attached
  | none => .error .misuse

/-- What is attached to a short option; an equals sign before it does not count. -/
def attachedValue : List Char → Option String
  | [] => none
  | '=' :: value => some (String.ofList value)
  | value => some (String.ofList value)

/-- Several short options can share one dash; the first one with a value takes the rest. -/
def takeShort (options : List Opt) (p : Part) : List Char → Except Stop Part
  | [] => .ok p
  | c :: rest =>
    match options.find? (·.short? == some c) with
    | none => .error .misuse
    | some o =>
      if o.takesValue then p.take o (attachedValue rest)
      else do takeShort options (← p.take o none) rest

/-- Takes a word that is no option. -/
def takeWord (positional : Option Opt) (p : Part) (word : String) : Except Stop Part :=
  match positional with
  | none => .error .misuse
  | some o =>
    if p.given.any (·.1 == o) || (p.pending.map (·.1)) == some o then .error .misuse
    else p.await o (some word)

end Part

/-- How a word reads before the options are ended. -/
inductive Word
  | endOfOptions
  | long (text : List Char)
  | short (text : List Char)
  | plain
  deriving Repr, Inhabited

def Word.ofText (text : String) : Word :=
  match text.toList with
  | ['-', '-'] => endOfOptions
  | '-' :: '-' :: rest => long rest
  | '-' :: c :: rest => short (c :: rest)
  | _ => plain

/-- What is left after the options are ended. -/
def readPlain (positional : Option Opt) : List String → Part → Except Stop Part
  | [], p => .ok p
  | word :: rest, p => do readPlain positional rest (← p.takeWord positional word)

/-- Reads what follows a verb. -/
def readAfterVerb (verb : Verb) : List String → Part → Except Stop Part
  | [], p => .ok p
  | word :: rest, p =>
    match Word.ofText word with
    | .endOfOptions => readPlain verb.positional? rest p
    | .long text => do readAfterVerb verb rest (← p.takeLong verb.options text)
    | .short text => do readAfterVerb verb rest (← p.takeShort verb.options text)
    | .plain =>
      match p.pending with
      | some (o, none) => readAfterVerb verb rest { p with pending := some (o, some word) }
      | _ => do readAfterVerb verb rest (← p.takeWord verb.positional? word)

/-- Asking for help by its verb; at most one verb can be named. -/
def helpOn : List String → Stop
  | [] => .help
  | [word] => if word == "help" || (Verb.ofName? word).isSome then .help else .misuse
  | _ => .misuse

/-- Reads up to the verb, and gives the verb with the words after it. -/
def readToVerb : List String → Part → Except Stop (Part × Verb × List String)
  | [], _ => .error .misuse
  | word :: rest, p =>
    match Word.ofText word with
    | .endOfOptions => .error .misuse
    | .long text => do readToVerb rest (← p.takeLong Opt.common text)
    | .short text => do readToVerb rest (← p.takeShort Opt.common text)
    | .plain =>
      match p.pending with
      | some (o, none) => readToVerb rest { p with pending := some (o, some word) }
      | _ =>
        if word == "help" then .error (helpOn rest)
        else match Verb.ofName? word with
          | some verb => .ok (p, verb, rest)
          | none => .error .misuse

/-- Settles a part of the line. A configuration file that only the environment names has to have a
name. -/
def finish (env : Variables) (p : Part) : Except Stop Given := do
  let given := (← p.settle).given
  if given.all (·.1 != .config) && env.lookup "ZKCIR_INFRA_CONFIG" == some "" then
    throw .misuse
  return given

def Verb.command (verb : Verb) (given : Given) : Except Stop Command :=
  match verb with
  | synth => .ok (.synth (given.lookup .out))
  | print => .ok (.print ((given.lookup .format).bind TemplateFormat.ofName?))
  | list => .ok (.list (given.lookup .type))
  | graph => .ok .graph
  | validate => .ok (.validate (given.lookup .strict).isSome)
  | completions =>
    match (given.lookup .shell).bind Shell.ofName? with
    | some shell => .ok (.completions shell (given.lookup .instructions).isSome)
    | none => .error .misuse

/-- The number of times that more words were asked for, after the verb or else before it. -/
def verbosity (before after : Given) : Nat :=
  let count (given : Given) : Nat := (given.filter (·.1 == .verbose)).length
  if count after = 0 then count before else count after

/-- The value of a common option. -/
def common? (before after : Given) (o : Opt) : Option String :=
  (after.lookup o).orElse fun _ => before.lookup o

/-- What a command line asks for. -/
def parse (env : Variables) (arguments : List String) : Except Stop Invocation := do
  let (start, verb, rest) ← readToVerb arguments {}
  let after ← finish env (← readAfterVerb verb rest {})
  let command ← verb.command after
  let before ← finish env start
  return {
    command
    verbosity := verbosity before after
    format := ((common? before after .output).bind OutputFormat.ofName?).getD .human
    config := Config.requestedFile? env (common? before after .config)
    noColor := (common? before after .noColor).isSome }

end StackSynth.CommandLine
