import StackSynth.Decimal.Literal
import StackSynth.Json.Basic

/-!
Keys, strings, numbers and dates of TOML documents. Each reader takes what it reads off the front of
the text and gives back the rest.
-/
namespace StackSynth.Toml

abbrev Reader (α : Type) := List Char → Option (α × List Char)

def isBlank (c : Char) : Bool := c = ' ' || c = '\t'

def skipBlanks (cs : List Char) : List Char := cs.dropWhile isBlank

/-- The rest after a line break, if one stands here. -/
def newline? : List Char → Option (List Char)
  | '\n' :: rest => some rest
  | '\r' :: '\n' :: rest => some rest
  | _ => none

/-- Characters that may stand in comments, and in texts apart from quotes and backslashes. -/
def isPlain (c : Char) : Bool := c = '\t' || (0x20 ≤ c.toNat && c.toNat ≠ 0x7F)

/-- Skips a comment up to the end of its line. -/
def skipComment : List Char → List Char
  | '#' :: rest => rest.dropWhile isPlain
  | cs => cs

/-- Blanks, comments and line breaks. -/
def skipLines : Nat → List Char → List Char
  | 0, cs => cs
  | fuel + 1, cs =>
    let rest := skipComment (skipBlanks cs)
    match newline? rest with
    | some next => skipLines fuel next
    | none => rest

/-- Whether nothing but blanks and a comment is left on the line; the rest after it. -/
def endOfLine (cs : List Char) : Option (List Char) :=
  match skipComment (skipBlanks cs) with
  | [] => some []
  | rest => newline? rest

def isBareKeyChar (c : Char) : Bool := Text.isAsciiAlphanumeric c || c = '_' || c = '-'

def scalarValue? (n : Nat) : Option Char :=
  if n < 0xD800 ∨ (0xE000 ≤ n ∧ n < 0x110000) then some (Char.ofNat n) else none

def hexChar (count : Nat) (cs : List Char) : Option (Char × List Char) :=
  let digits := cs.take count
  if digits.length < count then none
  else do return (← scalarValue? (← Decimal.natural? 16 digits), cs.drop count)

/-- What follows a backslash. -/
def escape : Reader Char
  | 'b' :: rest => some ('\x08', rest)
  | 't' :: rest => some ('\t', rest)
  | 'n' :: rest => some ('\n', rest)
  | 'f' :: rest => some ('\x0c', rest)
  | 'r' :: rest => some ('\r', rest)
  | '"' :: rest => some ('"', rest)
  | '\\' :: rest => some ('\\', rest)
  | 'u' :: rest => hexChar 4 rest
  | 'U' :: rest => hexChar 8 rest
  | _ => none

/-- The rest of a string in double quotes. -/
def basic : Nat → Reader (List Char)
  | 0, _ => none
  | _, [] => none
  | fuel + 1, c :: rest =>
    if c = '"' then some ([], rest)
    else if c = '\\' then do
      let (e, rest) ← escape rest
      let (cs, rest) ← basic fuel rest
      return (e :: cs, rest)
    else if isPlain c then do
      let (cs, rest) ← basic fuel rest
      return (c :: cs, rest)
    else none

/-- The rest of a string in single quotes. -/
def literal : Reader (List Char)
  | [] => none
  | c :: rest =>
    if c = '\'' then some ([], rest)
    else if isPlain c then do
      let (cs, rest) ← literal rest
      return (c :: cs, rest)
    else none

/-- Up to two quotes may stand right before the closing three. -/
def closingQuotes (q : Char) : Reader (List Char)
  | a :: b :: c :: d :: e :: rest =>
    if a = q ∧ b = q ∧ c = q then
      if d = q ∧ e = q then some ([q, q], rest)
      else if d = q then some ([q], e :: rest)
      else some ([], d :: e :: rest)
    else none
  | [a, b, c, d] =>
    if a = q ∧ b = q ∧ c = q then if d = q then some ([q], []) else some ([], [d]) else none
  | [a, b, c] => if a = q ∧ b = q ∧ c = q then some ([], []) else none
  | _ => none

/-- White space that a backslash at the end of a line takes with it. -/
def skipWhite : Nat → List Char → List Char
  | 0, cs => cs
  | fuel + 1, cs =>
    let rest := skipBlanks cs
    match newline? rest with
    | some next => skipWhite fuel next
    | none => rest

/-- The rest of a string over several lines; escapes count only in double quotes. -/
def multiline (q : Char) : Nat → Reader (List Char)
  | 0, _ => none
  | _, [] => none
  | fuel + 1, c :: rest =>
    match closingQuotes q (c :: rest) with
    | some done => some done
    | none =>
      match newline? (c :: rest) with
      | some next => do
        let (cs, rest) ← multiline q fuel next
        return ('\n' :: cs, rest)
      | none =>
        if c = '\\' && q = '"' then
          match newline? (skipBlanks rest) with
          | some next => multiline q fuel (skipWhite fuel next)
          | none => do
            let (e, rest) ← escape rest
            let (cs, rest) ← multiline q fuel rest
            return (e :: cs, rest)
        else if isPlain c then do
          let (cs, rest) ← multiline q fuel rest
          return (c :: cs, rest)
        else none

/-- A line break right after the opening quotes does not count. -/
def openMultiline (q : Char) (cs : List Char) : Option (List Char × List Char) :=
  multiline q (cs.length + 1) ((newline? cs).getD cs)

def string : Reader String
  | '"' :: '"' :: '"' :: rest =>
    (openMultiline '"' rest).map fun (cs, left) => (String.ofList cs, left)
  | '\'' :: '\'' :: '\'' :: rest =>
    (openMultiline '\'' rest).map fun (cs, left) => (String.ofList cs, left)
  | '"' :: rest => (basic (rest.length + 1) rest).map fun (cs, left) => (String.ofList cs, left)
  | '\'' :: rest => (literal rest).map fun (cs, left) => (String.ofList cs, left)
  | _ => none

def simpleKey : Reader String
  | '"' :: rest => (basic (rest.length + 1) rest).map fun (cs, left) => (String.ofList cs, left)
  | '\'' :: rest => (literal rest).map fun (cs, left) => (String.ofList cs, left)
  | cs =>
    match cs.takeWhile isBareKeyChar with
    | [] => none
    | name => some (String.ofList name, cs.dropWhile isBareKeyChar)

/-- Simple keys with points between them. -/
def simpleKeys : Nat → Reader (List String)
  | 0, _ => none
  | fuel + 1, cs => do
    let (key, rest) ← simpleKey cs
    match skipBlanks rest with
    | '.' :: rest =>
      let (keys, rest) ← simpleKeys fuel (skipBlanks rest)
      return (key :: keys, rest)
    | rest => return ([key], rest)

/-- How many simple keys may stand together. -/
def keyLimit : Nat := 79

def dottedKey (cs : List Char) : Option (List String × List Char) := do
  let (keys, rest) ← simpleKeys (cs.length + 1) cs
  if keys.length ≤ keyLimit then return (keys, rest) else none

/-- Digits in which single underscores stand between two of them. -/
def digitsOf (isDigit : Char → Bool) : List Char → List Char × List Char
  | '_' :: c :: rest =>
    if isDigit c then
      let (ds, left) := digitsOf isDigit rest
      (c :: ds, left)
    else ([], '_' :: c :: rest)
  | c :: rest =>
    if isDigit c then
      let (ds, left) := digitsOf isDigit rest
      (c :: ds, left)
    else ([], c :: rest)
  | [] => ([], [])

def groupedDigits (isDigit : Char → Bool) : Reader (List Char)
  | [] => none
  | c :: rest => if isDigit c then some (digitsOf isDigit (c :: rest)) else none

def isDigitIn (base : Nat) (c : Char) : Bool := (Decimal.digitIn base c).isSome

/-- An integer with a sign that fits into sixty-four bits. -/
def integerOf (n : Int) : Option Json :=
  if -9223372036854775808 ≤ n ∧ n < 9223372036854775808 then (JsonInt.ofInt? n).map .int else none

def inBase (base : Nat) (cs : List Char) : Option (Json × List Char) := do
  let (digits, rest) ← groupedDigits (isDigitIn base) cs
  return (← integerOf (← Decimal.natural? base digits), rest)

/-- A whole number without leading zeros. -/
def wholePart : Reader (List Char)
  | '0' :: rest => some (['0'], rest)
  | cs => groupedDigits Text.isAsciiDigit cs

def fraction? : List Char → Option (Option (List Char) × List Char)
  | '.' :: rest =>
    match groupedDigits Text.isAsciiDigit rest with
    | some (digits, left) => some (some digits, left)
    | none => none
  | cs => some (none, cs)

/-- An exponent, with its sign. -/
def power? : List Char → Option (Option (List Char) × List Char)
  | [] => some (none, [])
  | c :: rest =>
    if c = 'e' ∨ c = 'E' then
      let (sign, rest) : List Char × List Char := match rest with
        | '+' :: rest => (['+'], rest)
        | '-' :: rest => (['-'], rest)
        | rest => ([], rest)
      match groupedDigits Text.isAsciiDigit rest with
      | some (digits, left) => some (some (sign ++ digits), left)
      | none => none
    else some (none, c :: rest)

/-- A number that is infinite or none at all has no counterpart. -/
def unrepresentable : Json := .null

def signed : List Char → List Char × List Char
  | '+' :: rest => ([], rest)
  | '-' :: rest => (['-'], rest)
  | cs => ([], cs)

def decimalNumber (sign cs : List Char) : Option (Json × List Char) := do
  let (whole, rest) ← wholePart cs
  let (fraction, rest) ← fraction? rest
  let (power, rest) ← power? rest
  match fraction, power with
  | none, none =>
    let n ← Decimal.natural? 10 whole
    return (← integerOf (if sign.isEmpty then (n : Int) else -(n : Int)), rest)
  | _, _ =>
    let text := sign ++ whole ++ (fraction.map ('.' :: ·)).getD [] ++ (power.map ('e' :: ·)).getD []
    match Decimal.float? text with
    | some (some bits) => return (.float bits, rest)
    | some none => if sign.isEmpty then none else return (unrepresentable, rest)
    | none => none

def number (cs : List Char) : Option (Json × List Char) :=
  match cs with
  | '0' :: 'x' :: rest => inBase 16 rest
  | '0' :: 'o' :: rest => inBase 8 rest
  | '0' :: 'b' :: rest => inBase 2 rest
  | cs =>
    let (sign, rest) := signed cs
    match Text.dropWord ['i', 'n', 'f'] rest with
    | some left => some (unrepresentable, left)
    | none => match Text.dropWord ['n', 'a', 'n'] rest with
      | some left => some (unrepresentable, left)
      | none => decimalNumber sign rest

/-- A number of exactly `count` digits within bounds. -/
def fixedDigits (count least most : Nat) (cs : List Char) : Option (Nat × List Char) :=
  let digits := cs.take count
  if digits.length < count then none
  else do
    let n ← Decimal.natural? 10 digits
    if least ≤ n ∧ n ≤ most then some (n, cs.drop count) else none

def expect (c : Char) : List Char → Option (List Char)
  | x :: rest => if x = c then some rest else none
  | [] => none

def daysIn (year month : Nat) : Nat :=
  if month = 2 then
    if (year % 4 = 0 ∧ year % 100 ≠ 0) ∨ year % 400 = 0 then 29 else 28
  else if month = 4 ∨ month = 6 ∨ month = 9 ∨ month = 11 then 30 else 31

def date (cs : List Char) : Option (List Char) := do
  let (year, rest) ← fixedDigits 4 0 9999 cs
  let (month, rest) ← fixedDigits 2 1 12 (← expect '-' rest)
  let (_, rest) ← fixedDigits 2 1 (daysIn year month) (← expect '-' rest)
  return rest

def time (cs : List Char) : Option (List Char) := do
  let (_, rest) ← fixedDigits 2 0 23 cs
  let (_, rest) ← fixedDigits 2 0 59 (← expect ':' rest)
  let (_, rest) ← fixedDigits 2 0 60 (← expect ':' rest)
  match rest with
  | '.' :: c :: more =>
    if Text.isAsciiDigit c then return (c :: more).dropWhile Text.isAsciiDigit else none
  | rest => return rest

def offset : List Char → Option (List Char)
  | c :: rest =>
    if c = 'Z' ∨ c = 'z' then some rest
    else if c = '+' ∨ c = '-' then do
      let (_, rest) ← fixedDigits 2 0 23 rest
      let (_, rest) ← fixedDigits 2 0 59 (← expect ':' rest)
      return rest
    else some (c :: rest)
  | [] => some []

/-- The rest after a date, a time or both. -/
def dateTime (cs : List Char) : Option (List Char) :=
  match date cs with
  | some rest =>
    match rest with
    | c :: more =>
      if c = 'T' ∨ c = 't' ∨ c = ' ' then
        match time more with
        | some left => offset left
        | none => some rest
      else some rest
    | [] => some []
  | none => time cs

/-- A date becomes an object with one field, which holds its text. -/
def dateValue (cs rest : List Char) : Json :=
  .obj [("$__toml_private_datetime", .str (String.ofList (cs.take (cs.length - rest.length))))]

end StackSynth.Toml
