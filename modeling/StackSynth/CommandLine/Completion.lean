import StackSynth.CommandLine.Arguments

/-!
Completion of command lines in shells: what a shell runs, and how to install it.
-/
namespace StackSynth.CommandLine

def programName : String := "zkcir-infra"

def verbNames : List String :=
  ["synth", "print", "list", "graph", "validate", "completions", "help"]

namespace Shell

/-- The lines that tell how completion is set up. -/
def instructions : Shell → List String
  | bash => [
    "# Add to ~/.bashrc:",
    "eval \"$(zkcir-infra completions bash)\"",
    "",
    "# Or save to a file:",
    "zkcir-infra completions bash > ~/.local/share/bash-completion/completions/zkcir-infra"]
  | zsh => [
    "# Save into a directory on your fpath:",
    "mkdir -p ~/.zsh/completions",
    "zkcir-infra completions zsh > ~/.zsh/completions/_zkcir-infra"]
  | fish => ["zkcir-infra completions fish > ~/.config/fish/completions/zkcir-infra.fish"]
  | powershell => [
    "# Add to your PowerShell profile:",
    "Invoke-Expression (& zkcir-infra completions powershell | Out-String)"]
  | elvish => [
    "# Add to ~/.elvish/rc.elv:",
    "eval (zkcir-infra completions elvish | slurp)"]

/-- A program that completes the verbs. -/
def script (shell : Shell) : String :=
  let verbs := Text.join " " verbNames
  match shell with
  | bash => s!"complete -W \"{verbs}\" {programName}"
  | zsh => s!"#compdef {programName}\n_arguments \"1:command:({verbs})\""
  | fish => s!"complete -c {programName} -f -n __fish_use_subcommand -a \"{verbs}\""
  | powershell =>
    s!"Register-ArgumentCompleter -Native -CommandName {programName} -ScriptBlock \x7b -split \"{verbs}\" \x7d"
  | elvish =>
    s!"set edit:completion:arg-completer[{programName}] = \x7b|@words| put {verbs} \x7d"

end Shell

def usage : String :=
  s!"Usage: {programName} [OPTIONS] <COMMAND>\n\nCommands: " ++ Text.join ", " verbNames

end StackSynth.CommandLine
