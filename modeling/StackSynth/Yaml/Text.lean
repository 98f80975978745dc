import StackSynth.Yaml.Cursor
import StackSynth.Decimal.Literal

/-!
The scalars of a YAML text: quoted, unquoted and in blocks. Line breaks inside a scalar are folded
into blanks, except where a style keeps them. The `fuel` of a reader has to exceed the number of
characters that are left.
-/
namespace StackSynth.Yaml

/-- White space between two parts of a scalar: blanks, or breaks once a line has ended. -/
structure Gap where
  blanks : List Char := []
  firstBreak : List Char := []
  moreBreaks : List Char := []
  broken : Bool := false

namespace Gap

/-- One line break becomes a blank, more of them lose the first. -/
def text (g : Gap) : List Char :=
  if g.broken then
    if g.firstBreak = ['\n'] then if g.moreBreaks.isEmpty then [' '] else g.moreBreaks
    else g.firstBreak ++ g.moreBreaks
  else g.blanks

def addBreak (g : Gap) (x : Char) : Gap :=
  if g.broken then { g with moreBreaks := g.moreBreaks ++ [x] }
  else { g with blanks := [], firstBreak := [x], broken := true }

def addBlank (g : Gap) (x : Char) : Gap :=
  if g.broken then g else { g with blanks := g.blanks ++ [x] }

end Gap

/-- Takes blanks and breaks. Within a line of its own a tab may not stand left of `leastColumn`. -/
def takeGap (leastColumn : Int) : Nat → Gap → Cursor → Option (Gap × Cursor)
  | 0, _, _ => none
  | fuel + 1, g, c =>
    match c.takeBreak with
    | some (x, next) => takeGap leastColumn fuel (g.addBreak x) next
    | none =>
      match c.peek with
      | some x =>
        if isBlank x then
          if g.broken && x = '\t' && (c.column : Int) < leastColumn then none
          else takeGap leastColumn fuel (g.addBlank x) c.skip
        else some (g, c)
      | none => some (g, c)

/-- The characters that end an unquoted scalar inside brackets. -/
def isFlowIndicator (x : Char) : Bool := [',', '[', ']', '{', '}'].contains x

/-- Takes the part of an unquoted scalar up to white space or an indicator. -/
def takeWord (inFlow : Bool) : Nat → Cursor → Option (List Char × Cursor)
  | 0, _ => none
  | fuel + 1, c =>
    match c.peek with
    | none => some ([], c)
    | some x =>
      if isBlank x || isBreak x then some ([], c)
      else if inFlow && x = ':'
          && ((c.peekAt 1).map fun y => isFlowIndicator y || y = '?').getD false then none
      else if (x = ':' && c.endsAt 1) || (inFlow && isFlowIndicator x) then some ([], c)
      else do
        let (word, c) ← takeWord inFlow fuel c.skip
        return (x :: word, c)

/-- An unquoted scalar: its text, the place after it, and whether a line has ended there. -/
def takePlain (inFlow : Bool) (indent : Int) : Nat → Gap → Cursor →
    Option (List Char × Cursor × Bool)
  | 0, _, _ => none
  | fuel + 1, g, c =>
    if c.onMarker || c.is '#' then some ([], c, g.broken)
    else do
      let (word, after) ← takeWord inFlow (fuel + 1) c
      let (joined, g) := if word.isEmpty then ([], g) else (g.text ++ word, {})
      if !(after.onBlank || after.onBreak) then return (joined, after, g.broken)
      else
        let (g, next) ← takeGap (indent + 1) (fuel + 1) g after
        if !inFlow && (next.column : Int) < indent + 1 then return (joined, next, g.broken)
        else
          let (more, last, broken) ← takePlain inFlow indent fuel g next
          return (joined ++ more, last, broken)

/-- What an escape stands for, or how many hexadecimal digits tell. -/
def escapeOf : Char → Option (Char ⊕ Nat)
  | '0' => some (.inl '\x00')
  | 'a' => some (.inl '\x07')
  | 'b' => some (.inl '\x08')
  | 't' => some (.inl '\t')
  | '\t' => some (.inl '\t')
  | 'n' => some (.inl '\n')
  | 'v' => some (.inl '\x0b')
  | 'f' => some (.inl '\x0c')
  | 'r' => some (.inl '\r')
  | 'e' => some (.inl '\x1b')
  | ' ' => some (.inl ' ')
  | '"' => some (.inl '"')
  | '/' => some (.inl '/')
  | '\\' => some (.inl '\\')
  | 'N' => some (.inl '\u0085')
  | '_' => some (.inl '\u00A0')
  | 'L' => some (.inl '\u2028')
  | 'P' => some (.inl '\u2029')
  | 'x' => some (.inr 2)
  | 'u' => some (.inr 4)
  | 'U' => some (.inr 8)
  | _ => none

/-- A character written as an escape, after the backslash. -/
def takeEscape (c : Cursor) : Option (Char × Cursor) := do
  match ← escapeOf (← c.peek) with
  | .inl x => return (x, c.skip)
  | .inr count =>
    let digits := (c.skip.rest).take count
    if digits.length < count then none
    else
      let n ← Decimal.natural? 16 digits
      if (0xD800 ≤ n ∧ n < 0xE000) ∨ 0x10FFFF < n then none
      else return (Char.ofNat n, Cursor.skipMany count c.skip)

/-- Takes the part of a quoted scalar up to white space or the closing quote. A backslash at the end
of a line takes the break with it, which the flag tells. -/
def takeQuotedWord (single : Bool) : Nat → Cursor → Option (List Char × Bool × Cursor)
  | 0, _ => none
  | fuel + 1, c =>
    match c.peek with
    | none => some ([], false, c)
    | some x =>
      if isBlank x || isBreak x then some ([], false, c)
      else if single && x = '\'' then
        if c.isAt 1 '\'' then do
          let (word, joined, c) ← takeQuotedWord single fuel c.skip.skip
          return ('\'' :: word, joined, c)
        else some ([], false, c)
      else if !single && x = '"' then some ([], false, c)
      else if !single && x = '\\' then
        match c.skip.takeBreak with
        | some (_, next) => some ([], true, next)
        | none => do
          let (e, c) ← takeEscape c.skip
          let (word, joined, c) ← takeQuotedWord single fuel c
          return (e :: word, joined, c)
      else do
        let (word, joined, c) ← takeQuotedWord single fuel c.skip
        return (x :: word, joined, c)

/-- The rest of a quoted scalar after its opening quote. -/
def takeQuoted (single : Bool) : Nat → Cursor → Option (List Char × Cursor)
  | 0, _ => none
  | fuel + 1, c =>
    if c.onMarker || c.atEnd then none
    else do
      let (word, joined, c) ← takeQuotedWord single (fuel + 1) c
      if c.is (if single then '\'' else '"') then return (word, c.skip)
      else
        let (g, c) ← takeGap 0 (fuel + 1) { broken := joined } c
        let (more, c) ← takeQuoted single fuel c
        return (word ++ g.text ++ more, c)

/-- Which breaks at the end of a block stay. -/
inductive Chomping
  | strip
  | clip
  | keep
  deriving DecidableEq

def chomping? : Cursor → Option (Chomping × Cursor)
  | c => if c.is '+' then some (.keep, c.skip) else if c.is '-' then some (.strip, c.skip) else none

/-- A digit for the indentation; none if it is zero, which is not allowed. -/
def indentDigit (c : Cursor) : Option (Nat × Cursor) :=
  match c.peek with
  | some x =>
    if Text.isAsciiDigit x then
      if x = '0' then none else some (x.toNat - '0'.toNat, c.skip)
    else some (0, c)
  | none => some (0, c)

/-- The header of a block after its first character: breaks to keep, and the indentation or zero. -/
def blockHeader (c : Cursor) : Option (Chomping × Nat × Cursor) :=
  match chomping? c with
  | some (chomping, c) => do
    let (n, c) ← indentDigit c
    return (chomping, n, c)
  | none => do
    let (n, c) ← indentDigit c
    if n = 0 then return (.clip, 0, c)
    else match chomping? c with
      | some (chomping, c) => return (chomping, n, c)
      | none => return (.clip, n, c)

/-- Takes empty lines of a block; an indentation of zero is still unknown. -/
def takeEmptyLines (indent : Nat) : Nat → Nat → List Char → Cursor →
    Option (Nat × List Char × Cursor)
  | 0, _, _, _ => none
  | fuel + 1, widest, breaks, c =>
    let room := indent - c.column
    let blanks := (c.rest.takeWhile isSpace).length
    let c := Cursor.skipMany (if indent = 0 then blanks else min blanks room) c
    let widest := max widest c.column
    if (indent = 0 || c.column < indent) && c.is '\t' then none
    else match c.takeBreak with
      | some (x, next) => takeEmptyLines indent fuel widest (breaks ++ [x]) next
      | none => some (widest, breaks, c)

/-- The lines of a block after the first break, with what has to be put in front of the next one. -/
def takeBlockLines (isLiteral : Bool) (chomping : Chomping) (indent : Nat) :
    Nat → List Char → List Char → Bool → Cursor → Option (List Char × Cursor)
  | 0, _, _, _, _ => none
  | fuel + 1, lastBreak, emptyLines, blankBefore, c =>
    if c.column = indent && !c.atEnd then do
      let blankHere := c.onBlank
      let joint :=
        if !isLiteral && lastBreak = ['\n'] && !blankBefore && !blankHere then
          if emptyLines.isEmpty then [' '] else []
        else lastBreak
      let line := c.rest.takeWhile (!isBreak ·)
      let after := c.skipWhile (!isBreak ·)
      let (lastBreak, next) := match after.takeBreak with
        | some (x, next) => ([x], next)
        | none => ([], after)
      let (_, breaks, next) ← takeEmptyLines indent (fuel + 1) 0 [] next
      let (more, last) ←
        takeBlockLines isLiteral chomping indent fuel lastBreak breaks blankHere next
      return (joint ++ emptyLines ++ line ++ more, last)
    else
      let kept := match chomping with
        | .strip => []
        | .clip => lastBreak
        | .keep => lastBreak ++ emptyLines
      some (kept, c)

/-- A block after its first character, inside a block of the given indentation. -/
def takeBlock (isLiteral : Bool) (outer : Int) (fuel : Nat) (c : Cursor) :
    Option (List Char × Cursor) := do
  let (chomping, digit, c) ← blockHeader c
  let c := c.skipWhile isBlank
  let c := if c.is '#' then c.skipWhile (!isBreak ·) else c
  let c ← if c.atEnd then some c else (c.takeBreak).map (·.2)
  let fixed := if digit = 0 then 0 else (max outer 0).toNat + digit
  let (widest, breaks, c) ← takeEmptyLines fixed fuel 0 [] c
  let indent := if fixed = 0 then max (max widest (outer + 1).toNat) 1 else fixed
  takeBlockLines isLiteral chomping indent fuel [] breaks false c

end StackSynth.Yaml
