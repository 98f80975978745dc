import StackSynth.Yaml.Plain

/-!
How a text is written as a YAML scalar: which of the four styles it takes, and its spelling in each.
-/
namespace StackSynth.Yaml

inductive Style
  | unquoted
  | single
  | double
  | literal
  deriving DecidableEq, Repr

def isBreak (c : Char) : Bool :=
  c = '\n' || c = '\r' || c = '\u0085' || c = '\u2028' || c = '\u2029'

def isBlankOrEnd (c : Char) : Bool := c = ' ' || c = '\t' || c = '\x00' || isBreak c

/-- Characters that stand for themselves in every style. -/
def isPrintable (c : Char) : Bool :=
  c = '\n' || (0x20 ≤ c.toNat && c.toNat ≤ 0x7E)
    || (0xA0 ≤ c.toNat && c.toNat ≠ 0xFEFF && c.toNat ≠ 0xFFFE && c.toNat ≠ 0xFFFF)

/-- Characters that may not begin an unquoted scalar. -/
def isIndicator (c : Char) : Bool :=
  ['#', ',', '[', ']', '{', '}', '&', '*', '!', '|', '>', '\'', '"', '%', '@', '\x60'].contains c

/-- Whether a blank or the end follows a place. -/
def endsHere : List Char → Bool
  | [] => true
  | c :: _ => isBlankOrEnd c

/-- Whether a character further on would be taken for an indicator. -/
def hasInnerIndicator : Char → List Char → Bool
  | _, [] => false
  | before, c :: rest =>
    (c = ':' && endsHere rest) || (c = '#' && isBlankOrEnd before) || hasInnerIndicator c rest

/-- Whether the text would be read as something else than an unquoted scalar. -/
def hasIndicator (cs : List Char) : Bool :=
  match cs with
  | [] => false
  | c :: rest =>
    ['-', '-', '-'].isPrefixOf cs || ['.', '.', '.'].isPrefixOf cs || isIndicator c
      || ((c = '?' || c = ':' || c = '-') && endsHere rest) || hasInnerIndicator c rest

/-- Whether a character of the first kind is followed by one of the second. -/
def hasPair (first second : Char → Bool) : List Char → Bool
  | a :: b :: rest => (first a && second b) || hasPair first second (b :: rest)
  | _ => false

def isSpace (c : Char) : Bool := c = ' '

def isMultiline (cs : List Char) : Bool := cs.any isBreak

/-- No style but the double quoted can hold these. -/
def needsEscapes (cs : List Char) : Bool :=
  cs.any (fun c => !isPrintable c) || hasPair isSpace isBreak cs

def mayBeUnquoted (cs : List Char) : Bool :=
  let margin (c : Option Char) := match c with
    | some c => isSpace c || isBreak c
    | none => false
  !(margin cs.head? || margin cs.getLast? || isMultiline cs || hasIndicator cs || needsEscapes cs)

def mayBeSingle (cs : List Char) : Bool := !(hasPair isBreak isSpace cs || needsEscapes cs)

def mayBeLiteral (cs : List Char) : Bool :=
  !(cs.isEmpty || cs.getLast? = some ' ' || needsEscapes cs)

/-- A text that would be read as another kind of value has to be quoted. -/
def isAmbiguous (text : String) : Bool :=
  plain text ≠ .text || Plain.isZeroPadded text.toList

/-- A key on a line of its own may not spread over several. -/
def style (isInlineKey : Bool) (text : String) : Style :=
  let cs := text.toList
  if cs.contains '\n' then
    if isInlineKey || !mayBeLiteral cs then .double else .literal
  else if isInlineKey && isMultiline cs then .double
  else if !isAmbiguous text && mayBeUnquoted cs then .unquoted
  else if mayBeSingle cs then .single
  else .double

def spaces (n : Nat) : List Char := List.replicate n ' '

/-- Writes lines, each after a break starting at `indent`. -/
def indentLines (indent : Nat) : Bool → List Char → List Char
  | _, [] => []
  | afterBreak, c :: rest =>
    if isBreak c then c :: indentLines indent true rest
    else if afterBreak then spaces indent ++ c :: indentLines indent false rest
    else c :: indentLines indent false rest

def doubleQuotes (cs : List Char) : List Char :=
  cs.flatMap fun c => if c = '\'' then ['\'', '\''] else [c]

def singleQuoted (indent : Nat) (cs : List Char) : List Char :=
  let closing := match cs.getLast? with
    | some c => if isBreak c then spaces indent else []
    | none => []
  '\'' :: indentLines indent false (doubleQuotes cs) ++ closing ++ ['\'']

def upperHex (width n : Nat) : List Char :=
  let digits := (Nat.toDigits 16 n).map Char.toUpper
  List.replicate (width - digits.length) '0' ++ digits

def escape (c : Char) : List Char :=
  if c = '\x00' then ['\\', '0']
  else if c = '\x07' then ['\\', 'a']
  else if c = '\x08' then ['\\', 'b']
  else if c = '\t' then ['\\', 't']
  else if c = '\n' then ['\\', 'n']
  else if c = '\x0b' then ['\\', 'v']
  else if c = '\x0c' then ['\\', 'f']
  else if c = '\r' then ['\\', 'r']
  else if c = '\x1b' then ['\\', 'e']
  else if c = '"' then ['\\', '"']
  else if c = '\\' then ['\\', '\\']
  else if c = '\u0085' then ['\\', 'N']
  else if c = '\u2028' then ['\\', 'L']
  else if c = '\u2029' then ['\\', 'P']
  else if c.toNat ≤ 0xFF then '\\' :: 'x' :: upperHex 2 c.toNat
  else if c.toNat ≤ 0xFFFF then '\\' :: 'u' :: upperHex 4 c.toNat
  else '\\' :: 'U' :: upperHex 8 c.toNat

def doubleQuoted (cs : List Char) : List Char :=
  '"' :: (cs.flatMap fun c =>
    if !isPrintable c || isBreak c || c = '"' || c = '\\' then escape c else [c]) ++ ['"']

/-- What a literal block says of its indentation and of the breaks at its end. -/
def literalHeader (cs : List Char) : List Char :=
  let indentation := match cs.head? with
    | some c => if isSpace c || isBreak c then ['2'] else []
    | none => []
  let chomping := match cs.reverse with
    | a :: b :: _ => if !isBreak a then ['-'] else if isBreak b then ['+'] else []
    | [a] => if isBreak a then ['+'] else ['-']
    | [] => ['-']
  '|' :: indentation ++ chomping

/-- Ends with a break exactly where the text does. -/
def literalBlock (indent : Nat) (cs : List Char) : List Char :=
  literalHeader cs ++ '\n' :: indentLines indent true cs

/-- A scalar, and whether a break is still to be written after it. -/
def scalar (isInlineKey : Bool) (indent : Nat) (text : String) : List Char × Bool :=
  let cs := text.toList
  match style isInlineKey text with
  | .unquoted => (cs, true)
  | .single => (singleQuoted indent cs, true)
  | .double => (doubleQuoted cs, true)
  | .literal => (literalBlock indent cs, !(cs.getLast?.map isBreak).getD false)

/-- A key that stands on the line of its value. -/
def isInlineKey (key : String) : Bool :=
  !isMultiline key.toList && Text.byteLength key ≤ 128

end StackSynth.Yaml
