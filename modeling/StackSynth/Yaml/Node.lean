import StackSynth.Yaml.Token

/-!
The tree of a YAML document. A node may carry an anchor, and an alias stands for the node that has
it: first by the name of the anchor, then by a number once every anchor has got one.
-/
namespace StackSynth.Yaml

/-- What is written in front of a node. -/
structure Label (ι : Type) where
  anchor : Option ι := none
  tag : Option Tag := none
  deriving Inhabited

inductive Node (ι : Type)
  | scalar (label : Label ι) (isPlain : Bool) (text : String)
  | sequence (label : Label ι) (items : List (Node ι))
  | mapping (label : Label ι) (entries : List (Node ι × Node ι))
  | alias_ (anchor : ι)
  deriving Inhabited

namespace Node

/-- Reading tokens: what is read, and the tokens that are left. -/
abbrev Step (α : Type) := List Token → Option (α × List Token)

def empty {ι : Type} : Node ι := .scalar {} true ""

/-- What the handles of a document stand for. -/
abbrev Handles := List (String × Tag)

/-- The full tag for a handle and a suffix. -/
def fullTag (handles : Handles) (handle : String) (suffix : Tag) : Option Tag :=
  if handle.isEmpty then some suffix
  else (handles.lookup handle).map (· ++ suffix)

/-- An anchor and a tag, each at most once and in any order. -/
def label (handles : Handles) : Step (Label String)
  | .anchor a :: .tag h s :: rest => do return (⟨some a, some (← fullTag handles h s)⟩, rest)
  | .tag h s :: .anchor a :: rest => do return (⟨some a, some (← fullTag handles h s)⟩, rest)
  | .anchor a :: rest => some (⟨some a, none⟩, rest)
  | .tag h s :: rest => do return (⟨none, some (← fullTag handles h s)⟩, rest)
  | tokens => some ({}, tokens)

/-- Where a node may stand: in a block that may hold others, under a key, or between brackets. -/
inductive Place
  | block
  | underKey
  | flow
  deriving DecidableEq

/-- Whether a node is left out before the next token. -/
def isLeftOut (ends : List Token) (tokens : List Token) : Bool :=
  match tokens.head? with
  | some t => ends.contains t
  | none => false

def afterEntry : List Token := [.entry, .blockEnd]
def afterLooseEntry : List Token := [.entry, .key, .value, .blockEnd]
def afterKey : List Token := [.key, .value, .blockEnd]
def afterFlowKey : List Token := [.value, .flowEntry, .flowMappingEnd]
def afterFlowValue : List Token := [.flowEntry, .flowMappingEnd]
def afterPairKey : List Token := [.value, .flowEntry, .flowSequenceEnd]
def afterPairValue : List Token := [.flowEntry, .flowSequenceEnd]

/-- A comma between two items, but none before the first. -/
def separator (first : Bool) (close : Token) (tokens : List Token) : Option (List Token) :=
  if first || tokens.head? == some close then some tokens
  else match tokens with
    | .flowEntry :: rest => some rest
    | _ => none

mutual

/-- Reads one node. Each level of reading takes a token or is followed by one that does, so that
twice the number of tokens is enough for `fuel`. -/
def read (handles : Handles) (place : Place) : Nat → Step (Node String)
  | 0, _ => none
  | _ + 1, .alias_ name :: rest => some (.alias_ name, rest)
  | fuel + 1, tokens => do
    let (l, rest) ← label handles tokens
    match rest with
    | .entry :: _ =>
      if place = .underKey then do
        let (items, rest) ← readLooseItems handles fuel rest
        return (.sequence l items, rest)
      else readEmpty l rest
    | .scalar isPlain text :: rest =>
      return (.scalar l isPlain text, rest)
    | .flowSequence :: rest => do
      let (items, rest) ← readFlowItems handles fuel true rest
      return (.sequence l items, rest)
    | .flowMapping :: rest => do
      let (entries, rest) ← readFlowEntries handles fuel true rest
      return (.mapping l entries, rest)
    | .blockSequence :: rest =>
      if place = .flow then readEmpty l (.blockSequence :: rest)
      else do
        let (items, rest) ← readItems handles fuel rest
        return (.sequence l items, rest)
    | .blockMapping :: rest =>
      if place = .flow then readEmpty l (.blockMapping :: rest)
      else do
        let (entries, rest) ← readEntries handles fuel rest
        return (.mapping l entries, rest)
    | rest => readEmpty l rest

/-- A label alone stands for an empty scalar. -/
def readEmpty (l : Label String) : Step (Node String) := fun rest =>
  if l.anchor.isSome || l.tag.isSome then some (.scalar l true "", rest) else none

/-- A node, or an empty scalar where one of `ends` follows. -/
def readUnless (handles : Handles) (place : Place) (ends : List Token) :
    Nat → Step (Node String)
  | 0, _ => none
  | fuel + 1, tokens =>
    if isLeftOut ends tokens then some (empty, tokens) else read handles place fuel tokens

def readItems (handles : Handles) : Nat → Step (List (Node String))
  | 0, _ => none
  | _ + 1, .blockEnd :: rest => some ([], rest)
  | fuel + 1, .entry :: rest => do
    let (item, rest) ← readUnless handles .block afterEntry fuel rest
    let (items, rest) ← readItems handles fuel rest
    return (item :: items, rest)
  | _ + 1, _ => none

/-- Items at the column of the key above them, where nothing but another token ends the list. -/
def readLooseItems (handles : Handles) : Nat → Step (List (Node String))
  | 0, _ => none
  | fuel + 1, .entry :: rest => do
    let (item, rest) ← readUnless handles .block afterLooseEntry fuel rest
    let (items, rest) ← readLooseItems handles fuel rest
    return (item :: items, rest)
  | _ + 1, rest => some ([], rest)

/-- A value after its colon, or an empty one where there is no colon. -/
def readValue (handles : Handles) (place : Place) (ends : List Token) :
    Nat → Step (Node String)
  | 0, _ => none
  | fuel + 1, .value :: rest => readUnless handles place ends fuel rest
  | _ + 1, rest => some (empty, rest)

def readEntries (handles : Handles) : Nat → Step (List (Node String × Node String))
  | 0, _ => none
  | _ + 1, .blockEnd :: rest => some ([], rest)
  | fuel + 1, .key :: rest => do
    let (key, rest) ← readUnless handles .underKey afterKey fuel rest
    let (value, rest) ← readValue handles .underKey afterKey fuel rest
    let (entries, rest) ← readEntries handles fuel rest
    return ((key, value) :: entries, rest)
  | _ + 1, _ => none

/-- Items between brackets. A key makes a mapping of one entry; a token that follows it at once and
is no node is taken together with it. -/
def readFlowItems (handles : Handles) : Nat → Bool → Step (List (Node String))
  | 0, _, _ => none
  | fuel + 1, first, tokens => do
    match ← separator first .flowSequenceEnd tokens with
    | .flowSequenceEnd :: rest => return ([], rest)
    | .key :: rest =>
      let (key, rest) ←
        if isLeftOut afterPairKey rest then some (empty, rest.drop 1)
        else read handles .flow fuel rest
      let (value, rest) ← readValue handles .flow afterPairValue fuel rest
      let (items, rest) ← readFlowItems handles fuel false rest
      return (.mapping {} [(key, value)] :: items, rest)
    | rest =>
      let (item, rest) ← read handles .flow fuel rest
      let (items, rest) ← readFlowItems handles fuel false rest
      return (item :: items, rest)

def readFlowEntries (handles : Handles) :
    Nat → Bool → Step (List (Node String × Node String))
  | 0, _, _ => none
  | fuel + 1, first, tokens => do
    match ← separator first .flowMappingEnd tokens with
    | .flowMappingEnd :: rest => return ([], rest)
    | .key :: rest =>
      let (key, rest) ← readUnless handles .flow afterFlowKey fuel rest
      let (value, rest) ← readValue handles .flow afterFlowValue fuel rest
      let (entries, rest) ← readFlowEntries handles fuel false rest
      return ((key, value) :: entries, rest)
    | rest =>
      let (key, rest) ← read handles .flow fuel rest
      let (entries, rest) ← readFlowEntries handles fuel false rest
      return ((key, empty) :: entries, rest)

end

/-- The directives at the start of a document: at most one version, which is 1.1 or 1.2, and no
handle twice. -/
def directives : Bool → Handles → Step Handles
  | hasVersion, handles, .directive (.version major minor) :: rest =>
    if hasVersion || major != 1 || (minor != 1 && minor != 2) then none
    else directives true handles rest
  | hasVersion, handles, .directive (.handle name expansion) :: rest =>
    if (handles.lookup name).isSome then none
    else directives hasVersion ((name, expansion) :: handles) rest
  | _, handles, tokens => some (handles, tokens)

def defaultHandles : Handles := [("!", Tag.local_), ("!!", Tag.core)]

def isDocumentEdge : Token → Bool
  | .directive _ | .documentStart | .documentEnd => true
  | _ => false

/-- The only document of a text. -/
def ofTokens? (tokens : List Token) : Option (Node String) := do
  let fuel := 2 * tokens.length + 4
  let (node, rest) ← match tokens with
    | [] => some (empty, [])
    | .directive _ :: _ | .documentStart :: _ =>
      match ← directives false [] tokens with
      | (handles, .documentStart :: rest) =>
        if (rest.head?.map isDocumentEdge).getD true then some (empty, rest)
        else read (handles ++ defaultHandles) .block fuel rest
      | _ => none
    | _ => read defaultHandles .block fuel tokens
  if rest.all (· == .documentEnd) then some node else none

/-! Anchors get numbers. A name given anew gets the number that the next new name gets too. -/

abbrev Names := List (String × Nat)

def labelled (l : Label String) (names : Names) : Label Nat × Names :=
  match l.anchor with
  | none => (⟨none, l.tag⟩, names)
  | some name =>
    let id := names.length
    (⟨some id, l.tag⟩, (name, id) :: names.filter (·.1 != name))

mutual

/-- Replaces names by numbers; an alias needs an anchor before it. -/
def number : Node String → Names → Option (Node Nat × Names)
  | .alias_ name, names => do return (.alias_ (← names.lookup name), names)
  | .scalar l isPlain text, names =>
    let (l, names) := labelled l names
    some (.scalar l isPlain text, names)
  | .sequence l items, names => do
    let (l, names) := labelled l names
    let (items, names) ← numberItems items names
    return (.sequence l items, names)
  | .mapping l entries, names => do
    let (l, names) := labelled l names
    let (entries, names) ← numberEntries entries names
    return (.mapping l entries, names)

def numberItems : List (Node String) → Names → Option (List (Node Nat) × Names)
  | [], names => some ([], names)
  | item :: rest, names => do
    let (item, names) ← number item names
    let (rest, names) ← numberItems rest names
    return (item :: rest, names)

def numberEntries : List (Node String × Node String) → Names →
    Option (List (Node Nat × Node Nat) × Names)
  | [], names => some ([], names)
  | (key, value) :: rest, names => do
    let (key, names) ← number key names
    let (value, names) ← number value names
    let (rest, names) ← numberEntries rest names
    return ((key, value) :: rest, names)

end

mutual

/-- The nodes with an anchor, in the order of the text. -/
def anchored : Node Nat → List (Nat × Node Nat)
  | .alias_ _ => []
  | .scalar l isPlain text => (l.anchor.map (·, .scalar l isPlain text)).toList
  | .sequence l items => (l.anchor.map (·, .sequence l items)).toList ++ anchoredItems items
  | .mapping l entries => (l.anchor.map (·, .mapping l entries)).toList ++ anchoredEntries entries

def anchoredItems : List (Node Nat) → List (Nat × Node Nat)
  | [] => []
  | item :: rest => anchored item ++ anchoredItems rest

def anchoredEntries : List (Node Nat × Node Nat) → List (Nat × Node Nat)
  | [] => []
  | (key, value) :: rest => anchored key ++ (anchored value ++ anchoredEntries rest)

end

mutual

/-- How many steps it takes to walk along a node: one for a scalar, two for a collection. -/
def weight {ι : Type} : Node ι → Nat
  | .alias_ _ => 1
  | .scalar .. => 1
  | .sequence _ items => 2 + weightItems items
  | .mapping _ entries => 2 + weightEntries entries

def weightItems {ι : Type} : List (Node ι) → Nat
  | [] => 0
  | item :: rest => weight item + weightItems rest

def weightEntries {ι : Type} : List (Node ι × Node ι) → Nat
  | [] => 0
  | (key, value) :: rest => weight key + weight value + weightEntries rest

end

end Node

end StackSynth.Yaml
