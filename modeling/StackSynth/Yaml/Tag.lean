import StackSynth.Yaml.Cursor
import StackSynth.Decimal.Literal

/-!
Tags and the directives that abbreviate them. A tag is a sequence of bytes, since its escapes may
spell any that look like a character in UTF-8. It ends before the first zero byte.
-/
namespace StackSynth.Yaml

abbrev Tag := List UInt8

namespace Tag

def ofText (text : String) : Tag := text.toUTF8.toList

def upToZero (bytes : List UInt8) : Tag := bytes.takeWhile (· != 0)

def exclamation : UInt8 := 0x21
def local_ : Tag := [exclamation]
def core : Tag := ofText "tag:yaml.org,2002:"

/-- Whether the tag is of the application's own kind, which begins with an exclamation mark. -/
def isMarked (tag : Tag) : Bool := tag.head? == some exclamation

/-- Whether the tag is of the application's own kind and has a name that is a text. -/
def isNamed : Tag → Bool
  | [] => false
  | b :: name => b == exclamation && (String.fromUTF8? (ByteArray.mk name.toArray)).isSome

def isNameChar (x : Char) : Bool := Text.isAsciiAlphanumeric x || x = '_' || x = '-'

def takeName (c : Cursor) : String × Cursor :=
  (String.ofList (c.rest.takeWhile isNameChar), c.skipWhile isNameChar)

/-- Characters of a tag as it is written, apart from escapes. -/
def isChar (isUri : Bool) (x : Char) : Bool :=
  isNameChar x
    || [';', '/', '?', ':', '@', '&', '=', '+', '$', '.', '!', '~', '*', '\'', '(', ')'].contains x
    || (isUri && (x = ',' || x = '[' || x = ']'))

/-- A byte written as a percent sign and two hexadecimal digits. -/
def takeByte (c : Cursor) : Option (UInt8 × Cursor) :=
  match c.rest with
  | '%' :: high :: low :: _ =>
    (Decimal.natural? 16 [high, low]).map fun n => (UInt8.ofNat n, Cursor.skipMany 3 c)
  | _ => none

/-- How many bytes a character has that begins with this one. -/
def width (first : UInt8) : Option Nat :=
  if first < 0x80 then some 1
  else if first < 0xC0 then none
  else if first < 0xE0 then some 2
  else if first < 0xF0 then some 3
  else if first < 0xF8 then some 4
  else none

/-- The bytes of a character after the first. -/
def takeMore : Nat → Cursor → Option (List UInt8 × Cursor)
  | 0, c => some ([], c)
  | count + 1, c => do
    let (b, c) ← takeByte c
    if b < 0x80 || 0xC0 ≤ b then none
    else
      let (more, c) ← takeMore count c
      return (b :: more, c)

/-- A character written as escapes, byte by byte. -/
def takeEscape (c : Cursor) : Option (List UInt8 × Cursor) := do
  let (first, c) ← takeByte c
  let (more, c) ← takeMore ((← width first) - 1) c
  return (first :: more, c)

/-- The part of a tag that stands here, up to a character that does not belong to it. -/
def takeText (isUri : Bool) : Nat → Cursor → Option (List UInt8 × Cursor)
  | 0, _ => none
  | fuel + 1, c =>
    match c.peek with
    | some x =>
      if isChar isUri x then do
        let (more, c) ← takeText isUri fuel c.skip
        return (UInt8.ofNat x.toNat :: more, c)
      else if x = '%' then do
        let (escaped, c) ← takeEscape c
        let (more, c) ← takeText isUri fuel c
        return (escaped ++ more, c)
      else some ([], c)
    | none => some ([], c)

/-- The text of a tag, which may not be empty. -/
def takeSomeText (isUri : Bool) (fuel : Nat) (c : Cursor) : Option (Tag × Cursor) := do
  let (bytes, next) ← takeText isUri fuel c
  if bytes.isEmpty then none else return (upToZero bytes, next)

/-- A tag with its handle, from its exclamation mark on. The handle is empty where the tag is written
out, and for the mark alone. -/
def take (inFlow : Bool) (fuel : Nat) (c : Cursor) : Option ((String × Tag) × Cursor) := do
  let (tag, next) ←
    if c.isAt 1 '<' then do
      let (uri, next) ← takeSomeText true fuel (Cursor.skipMany 2 c)
      if next.is '>' then some (("", uri), next.skip) else none
    else
      let (name, next) := takeName c.skip
      if next.is '!' then do
        let (suffix, next) ← takeSomeText false fuel next.skip
        some (("!" ++ name ++ "!", suffix), next)
      else do
        let (more, next) ← takeText false fuel next
        let suffix := upToZero (ofText name ++ more)
        some (if suffix.isEmpty then ("", local_) else ("!", suffix), next)
  if next.endsAt 0 || (inFlow && next.is ',') then some (tag, next) else none

end Tag

/-- A line that tells how the document after it is to be read. -/
inductive Directive
  | version (major minor : Nat)
  | handle (name : String) (expansion : Tag)
  deriving DecidableEq, Repr, Inhabited

namespace Directive

/-- A number of a version, with up to nine digits. -/
def takeNumber (c : Cursor) : Option (Nat × Cursor) :=
  let digits := c.rest.takeWhile Text.isAsciiDigit
  if 9 < digits.length then none
  else (Decimal.natural? 10 digits).map (·, c.skipWhile Text.isAsciiDigit)

def takeVersion (c : Cursor) : Option (Directive × Cursor) := do
  let (major, c) ← takeNumber c
  if c.is '.' then
    let (minor, c) ← takeNumber c.skip
    return (version major minor, c)
  else none

/-- The handle that tags begin with: a name between exclamation marks, or one mark. -/
def takeHandleName (c : Cursor) : Option (String × Cursor) :=
  if c.is '!' then
    let (name, next) := Tag.takeName c.skip
    if next.is '!' then some ("!" ++ name ++ "!", next.skip)
    else if name.isEmpty then some ("!", next)
    else none
  else none

def takeHandle (fuel : Nat) (c : Cursor) : Option (Directive × Cursor) := do
  let (name, c) ← takeHandleName c
  if c.onBlank then
    let (expansion, c) ← Tag.takeSomeText true fuel (c.skipWhile isBlank)
    if c.endsAt 0 then return (handle name expansion, c) else none
  else none

/-- A directive line, from its percent sign on. -/
def take (fuel : Nat) (c : Cursor) : Option (Directive × Cursor) := do
  let (name, c) := Tag.takeName c.skip
  if !c.endsAt 0 then none
  else
    let c := c.skipWhile isBlank
    let (directive, c) ← match name with
      | "YAML" => takeVersion c
      | "TAG" => takeHandle fuel c
      | _ => none
    let c := c.skipWhile isBlank
    let c := if c.is '#' then c.skipWhile (!isBreak ·) else c
    match c.takeBreak with
    | some (_, next) => return (directive, next)
    | none => if c.atEnd then return (directive, c) else none

end Directive

end StackSynth.Yaml
