import StackSynth.Asset.Glob
import StackSynth.Text.Split

/-!
Patterns as regular expressions over bytes. Most patterns can be matched by comparing texts; for the
others the expression is what has to be compiled, and its parts may only be nested so deeply.
-/
namespace StackSynth.Glob

/-! How deeply an expression is nested. A group, a choice, a repetition, a sequence and a class of
characters are a level each; a sequence or choice of one part is that part. -/

def deepest (depths : List Nat) : Nat := depths.foldl max 0

/-- The depth of parts that stand side by side. -/
def joined : List Nat → Nat
  | [] => 0
  | [depth] => depth
  | depths => deepest depths + 1

/-- How many members a range adds to a class: one for each byte of its ends, and one for the range
between the two bytes that meet. -/
def memberCount (range : Char × Char) : Nat :=
  if range.1 = range.2 then range.1.utf8Size else range.1.utf8Size + range.2.utf8Size - 1

def classDepth (ranges : List (Char × Char)) : Nat :=
  if ranges.foldl (fun n range => n + memberCount range) 0 = 1 then 1 else 2

mutual

/-- The depths of the parts that a token adds to the expression. -/
def partDepths : Token → List Nat
  | .literal c => List.replicate c.utf8Size 0
  | .any => [0]
  | .star => [1]
  | .leading => [4]
  | .trailing => [0, 1]
  | .between => [4]
  | .oneOf _ ranges => [classDepth ranges]
  | .choice branches =>
    if allVoid branches then [] else [joined (branchDepths branches) + 1]

def partDepthsOf : List Token → List Nat
  | [] => []
  | t :: more => partDepths t ++ partDepthsOf more

/-- The depths of the branches that are not empty. -/
def branchDepths : List (List Token) → List Nat
  | [] => []
  | branch :: more =>
    if isVoidBranch branch then branchDepths more
    else joined (partDepthsOf branch) :: branchDepths more

end

/-- The depth of the whole expression, which begins and ends with parts of its own. -/
def depth (tokens : List Token) : Nat := joined ([0, 0] ++ partDepthsOf tokens ++ [0])

def depthLimit : Nat := 250

def isTooDeep (tokens : List Token) : Bool := depthLimit < depth tokens

/-! The text of an expression. -/

def isSpecial (c : Char) : Bool :=
  ['\\', '.', '+', '*', '?', '(', ')', '|', '[', ']', '{', '}', '^', '$', '#', '&', '-',
    '~'].contains c

/-- Two hexadecimal digits. -/
def hexByte (b : UInt8) : String :=
  let digit (n : Nat) : Char := Nat.digitChar n
  String.ofList [digit (b.toNat / 16), digit (b.toNat % 16)]

def literalText (c : Char) : String :=
  if c.toNat < 0x80 then
    if isSpecial c then String.ofList ['\\', c] else String.singleton c
  else String.join ((utf8 c).map fun b => "\\x" ++ hexByte b)

def rangeText (range : Char × Char) : String :=
  if range.1 = range.2 then literalText range.1
  else literalText range.1 ++ "-" ++ literalText range.2

mutual

def tokenText : Token → String
  | .literal c => literalText c
  | .any => "."
  | .star => ".*"
  | .leading => "(?:/?|.*/)"
  | .trailing => "/.*"
  | .between => "(?:/|/.*/)"
  | .oneOf negated ranges =>
    "[" ++ (if negated then "^" else "") ++ String.join (ranges.map rangeText) ++ "]"
  | .choice branches =>
    if allVoid branches then "" else "(?:" ++ Text.join "|" (branchTexts branches) ++ ")"

def tokensText : List Token → String
  | [] => ""
  | t :: more => tokenText t ++ tokensText more

def branchTexts : List (List Token) → List String
  | [] => []
  | branch :: more =>
    if isVoidBranch branch then branchTexts more else tokensText branch :: branchTexts more

end

/-- The expression that a pattern stands for. -/
def expression (tokens : List Token) : String := "(?-u)^" ++ tokensText tokens ++ "$"

/-! Which patterns need their expression. -/

def literal? : Token → Option Char
  | .literal c => some c
  | _ => none

def isLiteral (t : Token) : Bool := (literal? t).isSome

def isLiteralBut (others : List Char) : Token → Bool
  | .literal c => !others.contains c
  | _ => false

/-- Whether the last component alone decides, being a given text. -/
def isBaseName : List Token → Bool
  | .leading :: name => !name.isEmpty && name.all (isLiteralBut ['/'])
  | _ => false

/-- Whether the last component alone decides, having a given extension. -/
def isExtension (tokens : List Token) : Bool :=
  let afterLeading := match tokens with
    | .leading :: rest => rest
    | _ => tokens
  match afterLeading with
  | .star :: .literal '.' :: name => name.all (isLiteralBut ['.', '/'])
  | _ => false

/-- Whether the start of the path alone decides. -/
def isStart (tokens : List Token) : Bool :=
  match tokens.reverse with
  | .star :: before => !before.isEmpty && before.all isLiteral
  | .trailing :: before => before.all isLiteral
  | _ => !tokens.isEmpty && tokens.all isLiteral

/-- Whether the end of the path alone decides. -/
def isEnd (tokens : List Token) : Bool :=
  let (isAfterSlash, rest) := match tokens with
    | .leading :: .literal c :: rest => (true, Token.literal c :: rest)
    | .leading :: rest => (false, rest)
    | _ => (false, tokens)
  let name := match rest with
    | .star :: name => name
    | _ => rest
  name.all isLiteral && !name.isEmpty
    && (isAfterSlash || name.filterMap literal? != ['/'])

/-- Whether the pattern ends with a point and literal characters after it. -/
def hasExtension (tokens : List Token) : Bool :=
  match (tokens.reverse.dropWhile (isLiteralBut ['.', '/'])) with
  | .literal '.' :: _ => true
  | _ => false

/-- How a path is told to match. -/
inductive Matching
  | byText
  /-- By the expression, once the extension fits. -/
  | byExtension
  | byExpression
  deriving DecidableEq, Repr

def matching (tokens : List Token) : Matching :=
  if isBaseName tokens || isStart tokens || isExtension tokens || isEnd tokens then .byText
  else if hasExtension tokens then .byExtension
  else .byExpression

/-- Why some patterns cannot be matched together. Those with an extension are compiled first, each
alone; the others are numbered. -/
def refusal? (patterns : List (List Token)) : Option String :=
  match patterns.find? fun tokens => matching tokens = .byExtension && isTooDeep tokens with
  | some tokens => some s!"error parsing glob '{expression tokens}': error parsing pattern 0"
  | none =>
    ((patterns.filter (matching · = .byExpression)).findIdx? isTooDeep).map fun i =>
      s!"error parsing pattern {i}"

end StackSynth.Glob
