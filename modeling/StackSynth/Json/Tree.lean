import StackSynth.Json.Number

/-!
JSON texts as trees in which nothing is decided yet: fields stay in the order of the text with their
repetitions, numbers stay literals, and a string that names half of a surrogate pair has no value.
A reader that skips a part of the document never asks for its numbers, strings or depth.
-/
namespace StackSynth

inductive JsonTree
  | null
  | bool (b : Bool)
  | number (literal : NumberLiteral)
  | str (s : Option String)
  | arr (items : List JsonTree)
  | obj (fields : List (Option String × JsonTree))
  deriving Inhabited

namespace JsonTree

def isBlank (c : Char) : Bool := c = ' ' || c = '\n' || c = '\t' || c = '\r'

def skipBlanks (cs : List Char) : List Char := cs.dropWhile isBlank

def digitValue? (c : Char) : Option Nat :=
  if '0' ≤ c ∧ c ≤ '9' then some (c.toNat - '0'.toNat) else none

def hexValue? (c : Char) : Option Nat :=
  if '0' ≤ c ∧ c ≤ '9' then some (c.toNat - '0'.toNat)
  else if 'a' ≤ c ∧ c ≤ 'f' then some (c.toNat - 'a'.toNat + 10)
  else if 'A' ≤ c ∧ c ≤ 'F' then some (c.toNat - 'A'.toNat + 10)
  else none

def takeDigits : List Char → List Nat × List Char
  | [] => ([], [])
  | c :: rest =>
    match digitValue? c with
    | some d => let (ds, left) := takeDigits rest; (d :: ds, left)
    | none => ([], c :: rest)

/-- The fraction of a number, if a point stands here. -/
def readFraction : List Char → Option (Option (List Nat) × List Char)
  | '.' :: rest =>
    match takeDigits rest with
    | ([], _) => none
    | (digits, left) => some (some digits, left)
  | cs => some (none, cs)

def readSign : List Char → Bool × List Char
  | '-' :: rest => (true, rest)
  | '+' :: rest => (false, rest)
  | cs => (false, cs)

/-- The exponent of a number, if one stands here. -/
def readPower : List Char → Option (Option (Bool × List Nat) × List Char)
  | [] => some (none, [])
  | c :: rest =>
    if c = 'e' ∨ c = 'E' then
      let (down, rest) := readSign rest
      match takeDigits rest with
      | ([], _) => none
      | (digits, left) => some (some (down, digits), left)
    else some (none, c :: rest)

/-- A number without its sign. A zero that leads is the whole part alone. -/
def readNumber (negative : Bool) (cs : List Char) : Option (NumberLiteral × List Char) := do
  let (whole, rest) ← match takeDigits cs with
    | ([], _) => none
    | (0 :: _ :: _, _) => none
    | digits => some digits
  let (fraction, rest) ← readFraction rest
  let (power, rest) ← readPower rest
  return (⟨negative, whole, fraction, power⟩, rest)

def hexUnit? (a b c d : Char) : Option Nat := do
  let a ← hexValue? a
  let b ← hexValue? b
  let c ← hexValue? c
  let d ← hexValue? d
  return ((a * 16 + b) * 16 + c) * 16 + d

/-- One unit of a string: a character, or a code unit written in hexadecimal. -/
inductive Piece
  | char (c : Char)
  | unit (n : Nat)

def escaped? (c : Char) : Option Char :=
  if c = '"' ∨ c = '\\' ∨ c = '/' then some c
  else if c = 'b' then some '\x08'
  else if c = 'f' then some '\x0c'
  else if c = 'n' then some '\n'
  else if c = 'r' then some '\r'
  else if c = 't' then some '\t'
  else none

/-- The rest of a string after its opening quote. -/
def readPieces : List Char → Option (List Piece × List Char)
  | [] => none
  | '"' :: rest => some ([], rest)
  | '\\' :: 'u' :: a :: b :: c :: d :: rest => do
    let n ← hexUnit? a b c d
    let (pieces, left) ← readPieces rest
    return (.unit n :: pieces, left)
  | '\\' :: e :: rest => do
    let c ← escaped? e
    let (pieces, left) ← readPieces rest
    return (.char c :: pieces, left)
  | c :: rest =>
    if c = '\\' ∨ c.toNat < 32 then none
    else do
      let (pieces, left) ← readPieces rest
      return (.char c :: pieces, left)

/-- Joins surrogate pairs; a half that stands alone has no value. -/
def joinPieces : List Piece → Option (List Char)
  | [] => some []
  | .char c :: rest => (joinPieces rest).map (c :: ·)
  | .unit n :: rest =>
    if 0xD800 ≤ n ∧ n < 0xDC00 then
      match rest with
      | .unit m :: rest =>
        if 0xDC00 ≤ m ∧ m < 0xE000 then
          (joinPieces rest).map (Char.ofNat (0x10000 + (n - 0xD800) * 0x400 + (m - 0xDC00)) :: ·)
        else none
      | _ => none
    else if 0xDC00 ≤ n ∧ n < 0xE000 then none
    else (joinPieces rest).map (Char.ofNat n :: ·)

def readString (cs : List Char) : Option (Option String × List Char) := do
  let (pieces, rest) ← readPieces cs
  return ((joinPieces pieces).map String.ofList, rest)

/-- Consumes exactly the given word. -/
def readWord : List Char → List Char → Option (List Char)
  | [], cs => some cs
  | w :: word, c :: cs => if w = c then readWord word cs else none
  | _ :: _, [] => none

mutual

def readValue : Nat → List Char → Option (JsonTree × List Char)
  | 0, _ => none
  | fuel + 1, cs =>
    match skipBlanks cs with
    | 'n' :: rest => (readWord ['u', 'l', 'l'] rest).map fun left => (null, left)
    | 't' :: rest => (readWord ['r', 'u', 'e'] rest).map fun left => (bool true, left)
    | 'f' :: rest => (readWord ['a', 'l', 's', 'e'] rest).map fun left => (bool false, left)
    | '"' :: rest => (readString rest).map fun (s, left) => (str s, left)
    | '-' :: rest => (readNumber true rest).map fun (n, left) => (number n, left)
    | '[' :: rest =>
      match skipBlanks rest with
      | ']' :: left => some (arr [], left)
      | rest => (readItems fuel rest).map fun (items, left) => (arr items, left)
    | '{' :: rest =>
      match skipBlanks rest with
      | '}' :: left => some (obj [], left)
      | rest => (readFields fuel rest).map fun (fields, left) => (obj fields, left)
    | cs => (readNumber false cs).map fun (n, left) => (number n, left)

/-- At least one item, up to the closing bracket. -/
def readItems : Nat → List Char → Option (List JsonTree × List Char)
  | 0, _ => none
  | fuel + 1, cs => do
    let (item, rest) ← readValue fuel cs
    match skipBlanks rest with
    | ']' :: left => return ([item], left)
    | ',' :: rest =>
      let (items, left) ← readItems fuel rest
      return (item :: items, left)
    | _ => none

/-- At least one field, up to the closing brace. -/
def readFields : Nat → List Char → Option (List (Option String × JsonTree) × List Char)
  | 0, _ => none
  | fuel + 1, cs =>
    match skipBlanks cs with
    | '"' :: rest => do
      let (key, rest) ← readString rest
      match skipBlanks rest with
      | ':' :: rest =>
        let (value, rest) ← readValue fuel rest
        match skipBlanks rest with
        | '}' :: left => return ([(key, value)], left)
        | ',' :: rest =>
          let (fields, left) ← readFields fuel rest
          return ((key, value) :: fields, left)
        | _ => none
      | _ => none
    | _ => none

end

/-- A whole document: one value with blanks around it. -/
def ofText? (text : String) : Option JsonTree := do
  let cs := text.toList
  let (tree, rest) ← readValue (2 * cs.length + 2) cs
  if (skipBlanks rest).isEmpty then some tree else none

mutual

/-- The value of a tree, which may be nested `depth` levels deep at most. -/
def toJson? (depth : Nat) : JsonTree → Option Json
  | null => some .null
  | bool b => some (.bool b)
  | number literal => literal.value
  | str s => s.map .str
  | arr items =>
    match depth with
    | 0 => none
    | depth + 1 => (toJsonItems? depth items).map .arr
  | obj fields =>
    match depth with
    | 0 => none
    | depth + 1 => (toJsonFields? depth [] fields).map .obj

def toJsonItems? (depth : Nat) : List JsonTree → Option (List Json)
  | [] => some []
  | item :: rest => do
    let value ← toJson? depth item
    return value :: (← toJsonItems? depth rest)

/-- Collects fields in ascending key order; of a repeated key the last value stays. -/
def toJsonFields? (depth : Nat) (done : Fields) : List (Option String × JsonTree) → Option Fields
  | [] => some done
  | (key, item) :: rest => do
    let key ← key
    let value ← toJson? depth item
    toJsonFields? depth (Fields.insert key value done) rest

end

/-- How deeply values may be nested in a document. -/
def depthLimit : Nat := 127

end JsonTree

/-- The value of a JSON document, if it is one. -/
def Json.ofText? (text : String) : Option Json := do
  let tree ← JsonTree.ofText? text
  tree.toJson? JsonTree.depthLimit

end StackSynth
