import StackSynth.Yaml.Scalar

/-!
Places in a YAML text, with the line and column that blocks are told apart by.
-/
namespace StackSynth.Yaml

structure Cursor where
  rest : List Char
  /-- The number of bytes before this place. -/
  index : Nat := 0
  line : Nat := 0
  column : Nat := 0
  deriving Inhabited

def isBlank (c : Char) : Bool := c = ' ' || c = '\t'

/-- Whether the text may hold this character at all. -/
def isReadable (c : Char) : Bool :=
  let n := c.toNat
  n = 0x9 || n = 0xA || n = 0xD || (0x20 ≤ n && n ≤ 0x7E) || n = 0x85 || (0xA0 ≤ n && n ≤ 0xFFFD)
    || 0x10000 ≤ n

namespace Cursor

def peek (c : Cursor) : Option Char := c.rest.head?
def peekAt (c : Cursor) (n : Nat) : Option Char := c.rest[n]?
def atEnd (c : Cursor) : Bool := c.rest.isEmpty
def is (c : Cursor) (x : Char) : Bool := c.peek == some x
def isAt (c : Cursor) (n : Nat) (x : Char) : Bool := c.peekAt n == some x

def holds (p : Char → Bool) (c : Cursor) : Bool := (c.peek.map p).getD false

def onBlank (c : Cursor) : Bool := c.holds isBlank
def onBreak (c : Cursor) : Bool := c.holds isBreak
def onBreakOrEnd (c : Cursor) : Bool := c.atEnd || c.onBreak

/-- Whether a blank, a break or the end stands `n` characters on. -/
def endsAt (c : Cursor) (n : Nat) : Bool :=
  match c.peekAt n with
  | none => true
  | some x => isBlank x || isBreak x

def skip (c : Cursor) : Cursor :=
  match c.rest with
  | [] => c
  | x :: rest => { c with rest, index := c.index + x.utf8Size, column := c.column + 1 }

def skipMany : Nat → Cursor → Cursor
  | 0, c => c
  | n + 1, c => skipMany n c.skip

def skipWhile (p : Char → Bool) (c : Cursor) : Cursor :=
  let taken := c.rest.takeWhile p
  { c with
    rest := c.rest.dropWhile p
    index := taken.foldl (fun n x => n + x.utf8Size) c.index
    column := c.column + taken.length }

/-- Steps over a line break and tells how it counts: most kinds as a line feed. -/
def takeBreak (c : Cursor) : Option (Char × Cursor) :=
  match c.rest with
  | '\r' :: '\n' :: rest => some ('\n', ⟨rest, c.index + 2, c.line + 1, 0⟩)
  | x :: rest =>
    if isBreak x then
      let counted := if x = '\u2028' || x = '\u2029' then x else '\n'
      some (counted, ⟨rest, c.index + x.utf8Size, c.line + 1, 0⟩)
    else none
  | [] => none

/-- Whether a marker between documents stands here. -/
def onMarker (c : Cursor) : Bool :=
  c.column = 0 && c.endsAt 3
    && (['-', '-', '-'].isPrefixOf c.rest || ['.', '.', '.'].isPrefixOf c.rest)

end Cursor

end StackSynth.Yaml
