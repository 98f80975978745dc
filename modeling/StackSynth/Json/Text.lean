import StackSynth.Json.Basic
import StackSynth.Decimal.Shortest

/-!
How JSON values are written: compactly on one line, or over several lines with two blanks of
indentation for each level.
-/
namespace StackSynth

namespace Json

def hexDigit (n : Nat) : Char := (Nat.digitChar n)

/-- Quotes, backslashes and controls are escaped, and nothing else. -/
def escapeChar (c : Char) : List Char :=
  if c = '"' then ['\\', '"']
  else if c = '\\' then ['\\', '\\']
  else if c = '\x08' then ['\\', 'b']
  else if c = '\x0c' then ['\\', 'f']
  else if c = '\n' then ['\\', 'n']
  else if c = '\r' then ['\\', 'r']
  else if c = '\t' then ['\\', 't']
  else if c.toNat < 32 then ['\\', 'u', '0', '0', hexDigit (c.toNat / 16), hexDigit (c.toNat % 16)]
  else [c]

def quote (s : String) : List Char := '"' :: s.toList.flatMap escapeChar ++ ['"']

def intText (n : Int) : List Char :=
  if n < 0 then '-' :: Nat.toDigits 10 n.natAbs else Nat.toDigits 10 n.natAbs

def boolText (b : Bool) : List Char := if b then ['t', 'r', 'u', 'e'] else ['f', 'a', 'l', 's', 'e']

def nullText : List Char := ['n', 'u', 'l', 'l']

mutual

def compactChars : Json → List Char
  | null => nullText
  | bool b => boolText b
  | int n => intText n.val
  | float bits => Binary64.generalText true bits
  | str s => quote s
  | arr items => '[' :: compactItems items ++ [']']
  | obj fields => '{' :: compactFields fields ++ ['}']

def compactItems : List Json → List Char
  | [] => []
  | [item] => compactChars item
  | item :: rest => compactChars item ++ ',' :: compactItems rest

def compactFields : List (String × Json) → List Char
  | [] => []
  | [(key, value)] => quote key ++ ':' :: compactChars value
  | (key, value) :: rest => quote key ++ ':' :: compactChars value ++ ',' :: compactFields rest

end

def indentation (level : Nat) : List Char := List.replicate (2 * level) ' '

mutual

def prettyChars (level : Nat) : Json → List Char
  | null => nullText
  | bool b => boolText b
  | int n => intText n.val
  | float bits => Binary64.generalText true bits
  | str s => quote s
  | arr [] => ['[', ']']
  | arr items => '[' :: prettyItems (level + 1) items ++ '\n' :: indentation level ++ [']']
  | obj [] => ['{', '}']
  | obj fields => '{' :: prettyFields (level + 1) fields ++ '\n' :: indentation level ++ ['}']

def prettyItems (level : Nat) : List Json → List Char
  | [] => []
  | [item] => '\n' :: indentation level ++ prettyChars level item
  | item :: rest =>
    '\n' :: indentation level ++ prettyChars level item ++ ',' :: prettyItems level rest

def prettyFields (level : Nat) : List (String × Json) → List Char
  | [] => []
  | [(key, value)] =>
    '\n' :: indentation level ++ quote key ++ ':' :: ' ' :: prettyChars level value
  | (key, value) :: rest =>
    '\n' :: indentation level ++ quote key ++ ':' :: ' ' :: prettyChars level value
      ++ ',' :: prettyFields level rest

end

def compact (value : Json) : String := String.ofList (compactChars value)
def pretty (value : Json) : String := String.ofList (prettyChars 0 value)

end Json

end StackSynth
