import StackSynth.Audit
import StackSynth.CommandLine.Invocation
import StackSynth.Config.Load
import StackSynth.Json.Text
import StackSynth.Yaml.Writer

/-!
How results look on a console. Text for people can be colored; a structured format shows one
document and nothing else on standard output.
-/
namespace StackSynth.CommandLine

/-- A piece of output. How long a run took is known only when it is over. -/
inductive Chunk
  | output (text : String)
  | diagnostic (text : String)
  | elapsed (before after : String)
  deriving DecidableEq, Repr, Inhabited

/-- Milliseconds below a second, then seconds with two places. -/
def durationText (milliseconds : Nat) : String :=
  if milliseconds < 1000 then s!"{milliseconds}ms"
  else
    let hundredths := (milliseconds + 5) / 10
    let places := hundredths % 100
    let zero := if places < 10 then "0" else ""
    s!"{hundredths / 100}.{zero}{places}s"

/-- What a piece adds to standard output when the run has taken some milliseconds. -/
def Chunk.outputText (milliseconds : Nat) : Chunk → String
  | output text => text
  | diagnostic _ => ""
  | elapsed before after => before ++ durationText milliseconds ++ after

/-- What a piece adds to the diagnostics. -/
def Chunk.diagnosticText : Chunk → String
  | diagnostic text => text
  | _ => ""

inductive Color
  | red
  | green
  | yellow
  | blue
  | magenta
  | cyan
  | brightBlack
  | brightBlue
  | brightWhite
  deriving DecidableEq, Repr, Inhabited

def Color.code : Color → Nat
  | red => 31
  | green => 32
  | yellow => 33
  | blue => 34
  | magenta => 35
  | cyan => 36
  | brightBlack => 90
  | brightBlue => 94
  | brightWhite => 97

def paint (isColored : Bool) (color : Color) (text : String) : String :=
  if isColored then s!"\x1b[{color.code}m{text}\x1b[0m" else text

def paintBold (isColored : Bool) (color : Color) (text : String) : String :=
  if isColored then s!"\x1b[1;{color.code}m{text}\x1b[0m" else text

/-- Whether colors that are wanted are shown: where they are forced, or on a terminal. -/
def showsColors (env : Variables) (isTerminal : Bool) : Bool :=
  match env.lookup "CLICOLOR_FORCE", env.lookup "CLICOLOR" with
  | some force, switch => force != "0" || (isTerminal && switch != some "0")
  | none, switch => isTerminal && switch != some "0"

structure Console where
  isColored : Bool
  format : OutputFormat
  verbosity : Nat
  deriving DecidableEq, Repr, Inhabited

namespace Console

def isStructured (c : Console) : Bool := c.format.isStructured

def line (text : String) : Chunk := .output (text ++ "\n")

def dashes (n : Nat) : String := String.ofList (List.replicate n '-')

/-- Output that a structured format leaves out. -/
def forPeople (c : Console) (chunks : List Chunk) : List Chunk :=
  if c.isStructured then [] else chunks

def banner (c : Console) (title : String) : List Chunk :=
  let rule := paint c.isColored .brightBlue
    (String.ofList (List.replicate (Text.byteLength title + 4) '='))
  c.forPeople [line ("\n" ++ rule), line (paintBold c.isColored .brightBlue s!"  {title}  "),
    line (rule ++ "\n")]

/-- A heading, underlined. -/
def heading (c : Console) (title : String) : List Chunk :=
  c.forPeople [line ("\n" ++ paintBold c.isColored .cyan title),
    line (paint c.isColored .cyan (dashes (Text.byteLength title)))]

def text (c : Console) (words : String) : List Chunk := c.forPeople [line words]

def info (c : Console) (message : String) : List Chunk :=
  if c.verbosity < 1 then []
  else c.text (paint c.isColored .blue "INFO:" ++ " " ++ message)

def debug (c : Console) (message : String) : List Chunk :=
  if c.verbosity < 2 then []
  else c.text (paint c.isColored .magenta "DEBUG:" ++ " " ++ message)

def success (c : Console) (message : String) : List Chunk :=
  c.text (paintBold c.isColored .green "OK:" ++ " " ++ message)

def errorLine (isColored : Bool) (message : String) : Chunk :=
  .diagnostic (paintBold isColored .red "ERROR:" ++ " " ++ message ++ "\n")

def error (c : Console) (message : String) : List Chunk := [errorLine c.isColored message]

def warning (c : Console) (message : String) : List Chunk :=
  [.diagnostic (paintBold c.isColored .yellow "WARNING:" ++ " " ++ message ++ "\n")]

def finding (c : Console) (f : Finding) : List Chunk :=
  let words := s!"[{f.rule}] {f.severity.name}"
  let label := match f.severity with
    | .error => paintBold c.isColored .red words
    | .warning => paint c.isColored .yellow words
  c.text s!"  {label} {paintBold c.isColored .brightWhite f.logicalId}: {f.message}"

/-- Fills a cell with blanks at its end. -/
def padded (width : Nat) (cell : String) : String :=
  cell ++ String.ofList (List.replicate (width - cell.length) ' ')

/-- The widest cell of each column. -/
def widths (headers : List String) (rows : List (List String)) : List Nat :=
  rows.foldl (fun ws row =>
    ws.zipIdx.map fun (w, i) => max w ((row[i]?).elim 0 Text.byteLength))
    (headers.map Text.byteLength)

def cells (ws : List Nat) (row : List String) : String :=
  Text.join " | " ((row.zip ws).map fun (cell, w) => padded w cell)

def table (c : Console) (headers : List String) (rows : List (List String)) : List Chunk :=
  let ws := widths headers rows
  c.text (paintBold c.isColored .brightWhite (cells ws headers))
    ++ c.text (paint c.isColored .brightBlack (Text.join "-+-" (ws.map dashes)))
    ++ rows.flatMap fun row => c.text (Text.trimEnd (cells ws row))

/-- A result as one document. -/
def document (c : Console) (value : Json) : List Chunk :=
  match c.format with
  | .yaml => [.output (Yaml.render value)]
  | .json | .human => [line value.pretty]

/-- How long the run took. -/
def elapsed (c : Console) (label : String) : List Chunk :=
  let start := s!"\n{paint c.isColored .brightBlack label} "
  c.forPeople [
    if c.isColored then .elapsed s!"{start}\x1b[{Color.brightWhite.code}m" "\x1b[0m\n"
    else .elapsed start "\n"]

end Console

end StackSynth.CommandLine
