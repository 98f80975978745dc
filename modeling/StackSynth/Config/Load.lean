import StackSynth.Config.Decode
import StackSynth.Config.Merge
import StackSynth.Files.Tree
import StackSynth.Json.Tree
import StackSynth.Toml.Reader
import StackSynth.Yaml.Reader

/-!
Where settings come from: the defaults, then configuration files laid over them in order, then
environment variables for single settings.
-/
namespace StackSynth

/-- The environment variables that are set. -/
abbrev Variables := List (String × String)

namespace Config

/-- The document in a file, read as the ending of its name tells. -/
def document (path content : String) : Outcome Json :=
  let orElse (value : Option Json) (f : Failure) : Outcome Json := value.elim (.error f) .ok
  match Path.extension path with
  | "yml" | "yaml" => orElse (Yaml.parse? content) .yaml
  | "json" => orElse (Json.ofText? content) .json
  | "toml" => orElse (Toml.parse? content) .toml
  | _ => orElse ((Toml.parse? content).orElse fun _ => Yaml.parse? content)
      (.config s!"Failed to parse config file {path}")

def readDocument (files : FileTree) (path : String) : Outcome Json :=
  match files.readText path with
  | .ok content => document path content
  | .error e => .error (.during s!"Failed to read config file: {path}" (some e.message))

def ofDocument (value : Json) : Outcome Config :=
  match Decode.config value with
  | .ok c => .ok c
  | .error e => .error (.config s!"invalid configuration: {e.message}")

/-- The defaults with one file laid over them. -/
def ofFile (files : FileTree) (path : String) : Outcome Config := do
  ofDocument (({} : Config).toJson.merge (← readDocument files path))

def projectFiles : List String :=
  ["zkcir-infra.toml", "zkcir-infra.yaml", "zkcir-infra.yml", "zkcir-infra.json"]

/-- The directory with the settings of the user. -/
def userDirectory? (env : Variables) : Option String :=
  match (env.lookup "XDG_CONFIG_HOME").filter Path.isAbsolute with
  | some directory => some directory
  | none =>
    ((env.lookup "HOME").filter (!·.isEmpty)).map fun home => Path.join home ".config"

/-- The files that are read where they exist, the settings of the user first. -/
def usualFiles (env : Variables) : List String :=
  let user := (userDirectory? env).map fun directory =>
    Path.join (Path.join directory "zkcir-infra") "config.toml"
  user.toList ++ projectFiles

/-- The file that a run is asked to use, by an argument or else by the environment. -/
def requestedFile? (env : Variables) (path : Option String) : Option String :=
  path.orElse fun _ => env.lookup "ZKCIR_INFRA_CONFIG"

/-- The files to look for. One that is asked for has to be there, and then no other is read. -/
def sources (files : FileTree) (env : Variables) (path : Option String) :
    Outcome (List String) :=
  match requestedFile? env path with
  | some path =>
    if files.isFile path then .ok [path] else .error (.config s!"config file not found: {path}")
  | none => .ok (usualFiles env)

def overlay (files : FileTree) (base : Json) (path : String) : Outcome Json := do
  if files.exists? path then return base.merge (← readDocument files path) else return base

/-- Settings given by environment variables. -/
def override (env : Variables) (c : Config) : Config :=
  let set (name : String) (current : String) : String := (env.lookup name).getD current
  { c with
    stack := { c.stack with
      account := set "ZKCIR_ACCOUNT" c.stack.account
      region := set "ZKCIR_REGION" c.stack.region
      name := set "ZKCIR_STACK_NAME" c.stack.name }
    certificate := { c.certificate with
      domainName := set "ZKCIR_DOMAIN_NAME" c.certificate.domainName }
    build := { c.build with context := set "ZKCIR_BUILD_CONTEXT" c.build.context }
    output := { c.output with
      color := c.output.color && (env.lookup "NO_COLOR").isNone } }

/-- The settings of a run; `path` names a configuration file to use instead of the usual ones. -/
def load (files : FileTree) (env : Variables) (path : Option String) : Outcome Config := do
  let merged ← (← sources files env path).foldlM (overlay files) ({} : Config).toJson
  return override env (← ofDocument merged)

end Config

end StackSynth
