/-!
Cutting texts at characters and at words.
-/
namespace StackSynth.Text

/-- The characters before the first `c`, and those after it. -/
def splitOnce (c : Char) : List Char → Option (List Char × List Char)
  | [] => none
  | x :: rest =>
    if x = c then some ([], rest)
    else (splitOnce c rest).map fun (before, after) => (x :: before, after)

/-- The pieces between the occurrences of `c`; there is always at least one. -/
def splitAll (c : Char) : List Char → List (List Char)
  | [] => [[]]
  | x :: rest =>
    if x = c then [] :: splitAll c rest
    else match splitAll c rest with
      | [] => [[x]]
      | piece :: pieces => (x :: piece) :: pieces

/-- What follows `word`, if the text starts with it. -/
def dropWord : List Char → List Char → Option (List Char)
  | [], cs => some cs
  | w :: word, c :: cs => if w = c then dropWord word cs else none
  | _ :: _, [] => none

def startsWith (word text : String) : Bool := word.toList.isPrefixOf text.toList
def endsWith (word text : String) : Bool := word.toList.isSuffixOf text.toList

def isInfix (word : List Char) : List Char → Bool
  | [] => word.isEmpty
  | c :: rest => word.isPrefixOf (c :: rest) || isInfix word rest

/-- Whether `word` occurs in the text. -/
def contains (word text : String) : Bool := isInfix word.toList text.toList

def isAsciiDigit (c : Char) : Bool := '0' ≤ c && c ≤ '9'
def isAsciiLower (c : Char) : Bool := 'a' ≤ c && c ≤ 'z'
def isAsciiUpper (c : Char) : Bool := 'A' ≤ c && c ≤ 'Z'
def isAsciiLetter (c : Char) : Bool := isAsciiLower c || isAsciiUpper c
def isAsciiAlphanumeric (c : Char) : Bool := isAsciiLetter c || isAsciiDigit c

/-- The number that decimal digits stand for; none without a digit or with anything else. -/
def decimal? (digits : List Char) : Option Nat :=
  if digits = [] then none
  else digits.foldl (fun acc c => do
    let n ← acc
    if isAsciiDigit c then some (n * 10 + (c.toNat - '0'.toNat)) else none) (some 0)

/-- The number of bytes of the text in UTF-8. -/
def byteLength (text : String) : Nat := text.utf8ByteSize

def join (separator : String) (parts : List String) : String := String.intercalate separator parts

end StackSynth.Text
