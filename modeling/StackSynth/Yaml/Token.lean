import StackSynth.Yaml.Tag
import StackSynth.Yaml.Text

/-!
YAML texts as tokens. Indentation becomes tokens that open and close blocks. A scalar turns out to
be a key only when its colon comes, so a key token may be put in front of tokens that are there
already.
-/
namespace StackSynth.Yaml

inductive Token
  | directive (d : Directive)
  | documentStart
  | documentEnd
  | blockSequence
  | blockMapping
  | blockEnd
  | flowSequence
  | flowSequenceEnd
  | flowMapping
  | flowMappingEnd
  | entry
  | flowEntry
  | key
  | value
  | alias_ (name : String)
  | anchor (name : String)
  /-- A tag with its handle, which is empty where the tag is written out. -/
  | tag (handle : String) (suffix : Tag)
  | scalar (isPlain : Bool) (text : String)
  deriving DecidableEq, Repr, Inhabited

/-- A scalar that a colon may still make a key. -/
structure KeyCandidate where
  possible : Bool := false
  required : Bool := false
  tokenNumber : Nat := 0
  line : Nat := 0
  column : Nat := 0
  index : Nat := 0
  deriving Inhabited

structure Lexer where
  cursor : Cursor
  /-- The column of the innermost block, or a negative number outside of all. -/
  indent : Int := -1
  indents : List Int := []
  /-- Candidates, one for each level of brackets, the innermost first. -/
  candidates : List KeyCandidate := [{}]
  keyAllowed : Bool := true
  tokens : Array Token := #[]
  deriving Inhabited

namespace Lexer

/-- Whether there are brackets around this place. -/
def inFlow (s : Lexer) : Bool :=
  match s.candidates with
  | _ :: _ :: _ => true
  | _ => false

def emit (s : Lexer) (t : Token) : Lexer := { s with tokens := s.tokens.push t }

def skip (n : Nat) (s : Lexer) : Lexer := { s with cursor := Cursor.skipMany n s.cursor }

def top (s : Lexer) : KeyCandidate := s.candidates.headD {}

def setTop (s : Lexer) (k : KeyCandidate) : Lexer :=
  { s with candidates := k :: s.candidates.drop 1 }

/-- Gives up the current candidate; a scalar that had to be a key is an error. -/
def dropCandidate (s : Lexer) : Option Lexer :=
  if s.top.possible && s.top.required then none
  else some (s.setTop { s.top with possible := false })

/-- Notes that what comes next may be a key. -/
def noteCandidate (s : Lexer) : Option Lexer :=
  if s.keyAllowed then do
    let s ← s.dropCandidate
    return s.setTop ⟨true, !s.inFlow && s.indent == (s.cursor.column : Int), s.tokens.size,
      s.cursor.line, s.cursor.column, s.cursor.index⟩
  else some s

/-- Opens a block if the column is right of the current one. -/
def roll (s : Lexer) (column : Nat) (place : Nat) (t : Token) : Lexer :=
  if !s.inFlow && s.indent < (column : Int) then
    { s with
      indent := column
      indents := s.indent :: s.indents
      tokens := s.tokens.insertIdxIfInBounds place t }
  else s

/-- Closes the blocks that are right of the column. -/
def unrollFrom : Nat → Int → Lexer → Lexer
  | 0, _, s => s
  | fuel + 1, column, s =>
    if column < s.indent then
      unrollFrom fuel column
        { s.emit .blockEnd with indent := s.indents.headD (-1), indents := s.indents.drop 1 }
    else s

def unroll (column : Int) (s : Lexer) : Lexer :=
  if s.inFlow then s else unrollFrom (s.indents.length + 1) column s

/-- Skips blanks, comments and line breaks, and a byte order mark at the start of each line. The mark
takes up a column. -/
def skipToToken : Nat → Lexer → Lexer
  | 0, s => s
  | fuel + 1, s =>
    let blank (x : Char) : Bool := x = ' ' || ((s.inFlow || !s.keyAllowed) && x = '\t')
    let c := if s.cursor.column = 0 && s.cursor.is '\uFEFF' then s.cursor.skip else s.cursor
    let c := c.skipWhile blank
    let c := if c.is '#' then c.skipWhile (!isBreak ·) else c
    match c.takeBreak with
    | some (_, next) =>
      skipToToken fuel { s with cursor := next, keyAllowed := s.keyAllowed || !s.inFlow }
    | none => { s with cursor := c }

/-- The name of an anchor or alias, after its first character. -/
def anchorName (c : Cursor) : Option (String × Cursor) :=
  let (name, next) := Tag.takeName c
  let ends := match next.peek with
    | none => true
    | some x => isBlank x || isBreak x || ['?', ':', ',', ']', '}', '%', '@', '\x60'].contains x
  if name.isEmpty || !ends then none else some (name, next)

/-- Whether an unquoted scalar may start here. -/
def startsPlain (s : Lexer) : Bool :=
  match s.cursor.peek with
  | none => false
  | some x =>
    let blankNext := s.cursor.endsAt 1
    let onlyBlankNext := (s.cursor.peekAt 1).map isBlank |>.getD false
    if x = '-' then !onlyBlankNext
    else if x = '?' || x = ':' then !s.inFlow && !blankNext
    else !(isBlank x || isBreak x || isIndicator x)

def openFlow (s : Lexer) (t : Token) : Option Lexer := do
  let s ← s.noteCandidate
  return { (s.skip 1).emit t with candidates := {} :: s.candidates, keyAllowed := true }

def closeFlow (s : Lexer) (t : Token) : Option Lexer := do
  let s ← s.dropCandidate
  return { (s.skip 1).emit t with
    candidates := if s.inFlow then s.candidates.drop 1 else s.candidates
    keyAllowed := false }

def takeEntry (s : Lexer) : Option Lexer := do
  if !s.inFlow && !s.keyAllowed then none
  else
    let s := s.roll s.cursor.column s.tokens.size .blockSequence
    let s ← s.dropCandidate
    return { (s.skip 1).emit .entry with keyAllowed := true }

def takeKey (s : Lexer) : Option Lexer := do
  if !s.inFlow && !s.keyAllowed then none
  else
    let s := s.roll s.cursor.column s.tokens.size .blockMapping
    let s ← s.dropCandidate
    return { (s.skip 1).emit .key with keyAllowed := !s.inFlow }

/-- Keys are written on one line and are not too long. -/
def isFresh (s : Lexer) (k : KeyCandidate) : Bool :=
  k.line == s.cursor.line && s.cursor.index ≤ k.index + 1024

def takeValue (s : Lexer) : Option Lexer :=
  let k := s.top
  if k.possible && s.isFresh k then
    let s := { s with tokens := s.tokens.insertIdxIfInBounds k.tokenNumber .key }
    let s := s.roll k.column k.tokenNumber .blockMapping
    let s := s.setTop { k with possible := false }
    some { (s.skip 1).emit .value with keyAllowed := false }
  else if k.possible && k.required then none
  else if !s.inFlow && !s.keyAllowed then none
  else
    let s := s.setTop { k with possible := false }
    let s := s.roll s.cursor.column s.tokens.size .blockMapping
    some { (s.skip 1).emit .value with keyAllowed := !s.inFlow }

/-- A token that may be a key and is read by `take`. -/
def takeNode (s : Lexer) (take : Cursor → Option (Token × Cursor)) : Option Lexer := do
  let s ← s.noteCandidate
  let (t, c) ← take s.cursor
  return { s.emit t with cursor := c, keyAllowed := false }

def takePlainToken (s : Lexer) (fuel : Nat) : Option Lexer := do
  let s ← s.noteCandidate
  let (text, c, broken) ← takePlain s.inFlow s.indent fuel {} s.cursor
  return { s.emit (.scalar true (String.ofList text)) with cursor := c, keyAllowed := broken }

def takeBlockToken (s : Lexer) (fuel : Nat) (isLiteral : Bool) : Option Lexer := do
  let s ← s.dropCandidate
  let (text, c) ← takeBlock isLiteral s.indent fuel s.cursor.skip
  return { s.emit (.scalar false (String.ofList text)) with cursor := c, keyAllowed := true }

def takeMarker (s : Lexer) : Option Lexer := do
  let s ← (s.unroll (-1)).dropCandidate
  return { (s.skip 3).emit (if s.cursor.is '-' then .documentStart else .documentEnd) with
    keyAllowed := false }

def quotedToken (single : Bool) (fuel : Nat) (c : Cursor) : Option (Token × Cursor) := do
  let (text, c) ← takeQuoted single fuel c.skip
  return (.scalar false (String.ofList text), c)

/-- Takes the token that starts here; `fuel` has to exceed the number of characters left. -/
def takeToken (s : Lexer) (fuel : Nat) : Option Lexer :=
  let c := s.cursor
  match c.peek with
  | none => none
  | some x =>
    if c.column = 0 && x = '%' then do
      let s ← (s.unroll (-1)).dropCandidate
      let (d, next) ← Directive.take fuel c
      return { s.emit (.directive d) with cursor := next, keyAllowed := false }
    else if c.onMarker then s.takeMarker
    else if x = '[' then s.openFlow .flowSequence
    else if x = '{' then s.openFlow .flowMapping
    else if x = ']' then s.closeFlow .flowSequenceEnd
    else if x = '}' then s.closeFlow .flowMappingEnd
    else if x = ',' then do
      let s ← s.dropCandidate
      return { (s.skip 1).emit .flowEntry with keyAllowed := true }
    else if x = '-' && c.endsAt 1 then s.takeEntry
    else if x = '?' && (s.inFlow || c.endsAt 1) then s.takeKey
    else if x = ':' && (s.inFlow || c.endsAt 1) then s.takeValue
    else if x = '*' then s.takeNode fun c => (anchorName c.skip).map fun (n, c) => (.alias_ n, c)
    else if x = '&' then s.takeNode fun c => (anchorName c.skip).map fun (n, c) => (.anchor n, c)
    else if x = '!' then
      s.takeNode fun c => (Tag.take s.inFlow fuel c).map fun ((h, suffix), c) => (.tag h suffix, c)
    else if x = '|' && !s.inFlow then s.takeBlockToken fuel true
    else if x = '>' && !s.inFlow then s.takeBlockToken fuel false
    else if x = '\'' then s.takeNode (quotedToken true fuel)
    else if x = '"' then s.takeNode (quotedToken false fuel)
    else if s.startsPlain then s.takePlainToken fuel
    else none

/-- Takes token after token. Each takes a character, so that `fuel` exceeds the number of characters
left all along if it does at the start. -/
def run : Nat → Lexer → Option (List Token)
  | 0, _ => none
  | fuel + 1, s =>
    let s := skipToToken (fuel + 1) s
    if s.cursor.atEnd then do
      let s := s.unroll (-1)
      let s ← s.dropCandidate
      return s.tokens.toList
    else do
      let s := s.unroll s.cursor.column
      run fuel (← s.takeToken (fuel + 1))

end Lexer

/-- The tokens of a text, if it has no character that may not occur. -/
def tokens? (text : String) : Option (List Token) :=
  let cs := text.toList
  if cs.all isReadable then Lexer.run (cs.length + 2) { cursor := { rest := cs } } else none

end StackSynth.Yaml
