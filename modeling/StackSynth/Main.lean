import StackSynth.CommandLine.Run

/-!
The command line as a program. The files of the build context are named on standard input, one path
to a line and relative to the working directory, as a listing of the files below it gives them.
-/
namespace StackSynth.CommandLine

/-- The variables that a run looks at. -/
def knownVariables : List String := [
  "HOME", "XDG_CONFIG_HOME", "ZKCIR_INFRA_CONFIG", "ZKCIR_ACCOUNT", "ZKCIR_REGION",
  "ZKCIR_STACK_NAME", "ZKCIR_DOMAIN_NAME", "ZKCIR_BUILD_CONTEXT", "NO_COLOR", "CLICOLOR",
  "CLICOLOR_FORCE"]

def readVariables : IO Variables :=
  knownVariables.filterMapM fun name => return (← IO.getEnv name).map (name, ·)

/-- Takes a file over into the tree; one that cannot be read is left out. -/
def takeOver (files : FileTree) (path : String) : IO FileTree := do
  try
    let content ← IO.FS.readBinFile path
    return files.withFile path content.toList
  catch _ => return files

def readLines (input : IO.FS.Stream) : IO (List String) := do
  let mut lines := []
  repeat
    let line ← input.getLine
    if line.isEmpty then break
    lines := String.ofList (line.toList.filter (· != '\n')) :: lines
  return lines.reverse

/-- The files that an invocation can look at. -/
def pathsFor (env : Variables) (i : Invocation) : IO (List String) := do
  let settings := i.config.elim (Config.usualFiles env) fun path => [path]
  match i.command with
  | .completions .. => return settings
  | _ => return settings ++ (← readLines (← IO.getStdin))

/-- Writes a file of the tree; its own name never stands for a part of it. -/
def publishFile (files : FileTree) (path : String) : IO Unit := do
  match files.read path with
  | .ok content =>
    let directory := (Path.parent? path).getD ""
    if !directory.isEmpty then IO.FS.createDirAll directory
    IO.FS.writeBinFile (Assembly.temporary path) ⟨content.toArray⟩
    IO.FS.rename (Assembly.temporary path) path
  | .error _ => return

/-- Runs a command line in the working directory and gives the exit code. -/
def execute (arguments : List String) : IO UInt32 := do
  let start ← IO.monoMsNow
  let env ← readVariables
  let stdout ← IO.getStdout
  let stderr ← IO.getStderr
  let paths ← match parse env arguments with
    | .ok invocation => pathsFor env invocation
    | .error _ => pure []
  let files ← paths.foldlM takeOver (FileTree.empty (toString (← IO.currentDir)))
  let ending := run arguments env (← stdout.isTty) files
  ending.session.written.forM (publishFile ending.session.files)
  let elapsed := (← IO.monoMsNow) - start
  for chunk in ending.session.chunks do
    stdout.putStr (chunk.outputText elapsed)
    stderr.putStr chunk.diagnosticText
  return UInt32.ofNat ending.exitCode

end StackSynth.CommandLine

def main (arguments : List String) : IO UInt32 := StackSynth.CommandLine.execute arguments
