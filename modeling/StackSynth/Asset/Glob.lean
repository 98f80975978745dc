import StackSynth.Digest.Block

/-!
File name patterns. A pattern is read into tokens, and a path matches if the tokens can take up all
of its bytes. Stars and question marks take slashes too; only two stars that fill a component know
where components end.
-/
namespace StackSynth.Glob

open Digest (Bytes)

inductive Token
  | literal (c : Char)
  | any
  | star
  /-- Any number of components at the start. -/
  | leading
  /-- A slash and anything after it. -/
  | trailing
  /-- A slash, with any number of components and another slash after it. -/
  | between
  | oneOf (negated : Bool) (ranges : List (Char × Char))
  | choice (branches : List (List Token))
  deriving Inhabited

inductive Malformed
  | openClass
  | range (first last : Char)
  | unopenedGroup
  | openGroup
  | danglingEscape
  deriving DecidableEq, Repr

def Malformed.message : Malformed → String
  | openClass => "unclosed character class; missing ']'"
  | range first last => s!"invalid range; '{first}' > '{last}'"
  | unopenedGroup =>
    "unopened alternate group; missing '\x7b' (maybe escape '\x7d' with '[\x7d]'?)"
  | openGroup => "unclosed alternate group; missing '\x7d' (maybe escape '\x7b' with '[\x7b]'?)"
  | danglingEscape => "dangling '\\'"

/-! Reading a pattern. -/

/-- A group of alternatives that is still open: its finished branches, and the tokens before it. -/
structure Group where
  branches : List (List Token)
  before : List Token

/-- The tokens of the current branch, the latest first, and the open groups around it. -/
structure Reading where
  tokens : List Token := []
  groups : List Group := []

namespace Reading

def push (t : Token) (s : Reading) : Reading := { s with tokens := t :: s.tokens }

/-- Two stars after a slash take its place; after other such stars they change nothing or extend. -/
def replaceLast (t : Token) (s : Reading) : Reading :=
  match s.tokens with
  | .leading :: _ => s
  | .trailing :: _ => s
  | _ :: before => { s with tokens := t :: before }
  | [] => s.push t

def openBranch (s : Reading) : Reading :=
  { tokens := [], groups := ⟨[], s.tokens⟩ :: s.groups }

def nextBranch (s : Reading) : Reading :=
  match s.groups with
  | [] => s.push (.literal ',')
  | g :: outer =>
    { tokens := [], groups := { g with branches := s.tokens.reverse :: g.branches } :: outer }

def closeGroup (s : Reading) : Except Malformed Reading :=
  match s.groups with
  | [] => .error .unopenedGroup
  | g :: outer =>
    .ok ⟨.choice (s.tokens.reverse :: g.branches).reverse :: g.before, outer⟩

end Reading

/-- A class of characters that is being read; its ranges come latest first. -/
structure ClassReading where
  negated : Bool
  ranges : List (Char × Char) := []
  first : Bool := true
  inRange : Bool := false

namespace ClassReading

/-- Adds a member, or ends the range that a hyphen has begun. -/
def add (c : Char) (k : ClassReading) : Except Malformed ClassReading :=
  match k.inRange, k.ranges with
  | true, (low, _) :: before =>
    if c < low then .error (.range low c)
    else .ok { k with ranges := (low, c) :: before, inRange := false, first := false }
  | _, ranges => .ok { k with ranges := (c, c) :: ranges, inRange := false, first := false }

def token (k : ClassReading) : Token :=
  .oneOf k.negated (if k.inRange then ('-', '-') :: k.ranges else k.ranges).reverse

end ClassReading

mutual

/-- Reads a pattern; `before` is the character in front of the rest. -/
def read (before : Option Char) (s : Reading) : List Char → Except Malformed Reading
  | [] => .ok s
  | '*' :: '*' :: rest =>
    let twice := (s.push .star).push .star
    if s.tokens.isEmpty then
      match rest with
      | [] => .ok (s.push .leading)
      | '/' :: rest => read (some '/') (s.push .leading) rest
      | rest => read (some '*') twice rest
    else if before != some '/'
        && (s.groups.isEmpty || (before != some ',' && before != some '{')) then
      read (some '*') twice rest
    else match rest with
      | [] => .ok (s.replaceLast .trailing)
      | '/' :: rest => read (some '/') (s.replaceLast .between) rest
      | x :: rest =>
        if !s.groups.isEmpty && (x = ',' || x = '}') then
          read (some '*') (s.replaceLast .trailing) (x :: rest)
        else read (some '*') twice (x :: rest)
  | '*' :: rest => read (some '*') (s.push .star) rest
  | '?' :: rest => read (some '?') (s.push .any) rest
  | '[' :: '!' :: rest => readClass { negated := true } s rest
  | '[' :: '^' :: rest => readClass { negated := true } s rest
  | '[' :: rest => readClass { negated := false } s rest
  | '{' :: rest => read (some '{') s.openBranch rest
  | '}' :: rest => do read (some '}') (← s.closeGroup) rest
  | ',' :: rest => read (some ',') s.nextBranch rest
  | '\\' :: c :: rest => read (some c) (s.push (.literal c)) rest
  | '\\' :: [] => .error .danglingEscape
  | c :: rest => read (some c) (s.push (.literal c)) rest

/-- Reads on inside a class of characters. -/
def readClass (k : ClassReading) (s : Reading) : List Char → Except Malformed Reading
  | [] => .error .openClass
  | c :: rest =>
    if c = ']' && !k.first then read (some ']') (s.push k.token) rest
    else if c = '-' && !k.first && !k.inRange then readClass { k with inRange := true } s rest
    else do readClass (← k.add c) s rest

end

/-- The tokens of a pattern. -/
def parse (pattern : String) : Except Malformed (List Token) := do
  let s ← read none {} pattern.toList
  if s.groups.isEmpty then return s.tokens.reverse else throw .openGroup

/-! Matching. A set of rests holds what may be left of a path once some tokens have taken up the
bytes before; no two rests have the same length. -/

def utf8 (c : Char) : Bytes := (String.singleton c).toUTF8.toList

def slash : UInt8 := 0x2F

def dropBytes : Bytes → Bytes → Option Bytes
  | [], rest => some rest
  | _ :: _, [] => none
  | a :: bs, b :: rest => if a = b then dropBytes bs rest else none

def tails : Bytes → List Bytes
  | [] => [[]]
  | b :: rest => (b :: rest) :: tails rest

def longest (rests : List Bytes) : Option Bytes :=
  rests.foldl (fun best r => match best with
    | some b => if b.length < r.length then some r else some b
    | none => some r) none

/-- All that is left after any bytes. -/
def afterAny (rests : List Bytes) : List Bytes := (longest rests).elim [] tails

def afterSlash (rests : List Bytes) : List Bytes := rests.filterMap (dropBytes [slash])

def union (rests more : List Bytes) : List Bytes :=
  more.foldl (fun set r => if set.any (·.length == r.length) then set else r :: set) rests

/-- Whether a byte belongs to a range, whose ends are taken byte by byte. -/
def inRange (b : UInt8) (range : Char × Char) : Bool :=
  if range.1 = range.2 then (utf8 range.1).contains b
  else match (utf8 range.1).reverse, utf8 range.2 with
    | low :: before, high :: after =>
      (decide (low ≤ b) && decide (b ≤ high)) || before.contains b || after.contains b
    | _, _ => false

def afterByte (p : UInt8 → Bool) (rests : List Bytes) : List Bytes :=
  rests.filterMap fun
    | [] => none
    | b :: rest => if p b then some rest else none

mutual

/-- Whether a token can take up nothing but the empty text, so that it counts as absent. -/
def isVoid : Token → Bool
  | .choice branches => allVoid branches
  | _ => false

def allVoid : List (List Token) → Bool
  | [] => true
  | branch :: more => isVoidBranch branch && allVoid more

def isVoidBranch : List Token → Bool
  | [] => true
  | t :: more => isVoid t && isVoidBranch more

end

mutual

/-- What may be left after a token. -/
def after : Token → List Bytes → List Bytes
  | .literal c, rests => rests.filterMap (dropBytes (utf8 c))
  | .any, rests => afterByte (fun _ => true) rests
  | .star, rests => afterAny rests
  | .leading, rests => union rests (afterSlash (afterAny rests))
  | .trailing, rests => afterAny (afterSlash rests)
  | .between, rests =>
    let rests := afterSlash rests
    union rests (afterSlash (afterAny rests))
  | .oneOf negated ranges, rests =>
    afterByte (fun b => (ranges.any (inRange b)) != negated) rests
  | .choice branches, rests => if allVoid branches then rests else afterChoice branches rests

def afterAll : List Token → List Bytes → List Bytes
  | [], rests => rests
  | t :: more, rests => afterAll more (after t rests)

/-- What may be left after one of the branches; empty ones do not count. -/
def afterChoice : List (List Token) → List Bytes → List Bytes
  | [], _ => []
  | branch :: more, rests =>
    if isVoidBranch branch then afterChoice more rests
    else union (afterAll branch rests) (afterChoice more rests)

end

/-- Whether the tokens take up the whole path. -/
def accepts (tokens : List Token) (path : Bytes) : Bool :=
  match tokens with
  | [.leading] => true
  | tokens => (afterAll tokens [path]).any (·.isEmpty)

end StackSynth.Glob
