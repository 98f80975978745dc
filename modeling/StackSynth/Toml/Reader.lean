import StackSynth.Toml.Scalar

/-!
TOML documents as JSON values. Tables remember how they came about: a table that a header or a
dotted key only passed through may be opened later, any other is defined once.
-/
namespace StackSynth.Toml

inductive Node
  | leaf (value : Json)
  /-- A table that was only passed through, and whether dotted keys did so. -/
  | table (implicitly dotted : Bool) (entries : List (String × Node))
  /-- A list of tables, the latest first. -/
  | tables (items : List (List (String × Node)))
  deriving Inhabited

abbrev Entries := List (String × Node)

/-- A table on the way of a search: how it came about, and what it holds. -/
structure Table where
  implicitly : Bool
  dotted : Bool
  entries : Entries
  deriving Inhabited

def find? (key : String) (entries : Entries) : Option Node :=
  (entries.find? (·.1 == key)).map (·.2)

def replace (key : String) (node : Node) (entries : Entries) : Entries :=
  if entries.any (·.1 == key) then
    entries.map fun entry => if entry.1 == key then (key, node) else entry
  else entries ++ [(key, node)]

/-- Changes the table at the end of a path, making tables where there are none. -/
def descend (dotted : Bool) (change : Table → Option Table) :
    List String → Table → Option Table
  | [], t => change t
  | key :: path, t =>
    match (find? key t.entries).getD (.table true dotted []) with
    | .leaf _ => none
    | .table implicitly wasDotted entries =>
      if dotted && !implicitly then none
      else do
        let inner ← descend dotted change path ⟨implicitly, wasDotted, entries⟩
        return { t with
          entries := replace key (.table inner.implicitly inner.dotted inner.entries) t.entries }
    | .tables (last :: before) => do
      let inner ← descend dotted change path ⟨false, false, last⟩
      return { t with entries := replace key (.tables (inner.entries :: before)) t.entries }
    | .tables [] => none

/-- Sets a key once. -/
def define (isDirect : Bool) (key : String) (value : Json) (t : Table) : Option Table :=
  if t.dotted = isDirect then none
  else match find? key t.entries with
    | some _ => none
    | none => some { t with entries := t.entries ++ [(key, .leaf value)] }

/-- Sets the value at the end of a dotted key. -/
def assign (keys : List String) (value : Json) (t : Table) : Option Table :=
  match keys.reverse with
  | [] => none
  | last :: before => descend true (define before.isEmpty last value) before.reverse t

/-- Opens the table that a header names. -/
def openTable (key : String) (t : Table) : Option Table :=
  match find? key t.entries with
  | none => some { t with entries := t.entries ++ [(key, .table false false [])] }
  | some (.table true false entries) =>
    some { t with entries := replace key (.table false false entries) t.entries }
  | some _ => none

/-- Adds a table to a list of tables. -/
def openItem (key : String) (t : Table) : Option Table :=
  match find? key t.entries with
  | none => some { t with entries := t.entries ++ [(key, .tables [[]])] }
  | some (.tables items) => some { t with entries := replace key (.tables ([] :: items)) t.entries }
  | some _ => none

mutual

def Node.toJson : Node → Json
  | .leaf value => value
  | .table _ _ entries => .object (entriesJson entries)
  | .tables items => .arr (itemsJson items).reverse

def entriesJson : List (String × Node) → List (String × Json)
  | [] => []
  | (key, node) :: rest => (key, node.toJson) :: entriesJson rest

def itemsJson : List (List (String × Node)) → List Json
  | [] => []
  | entries :: rest => .object (entriesJson entries) :: itemsJson rest

end

/-- How deeply lists and inline tables may be nested. -/
def depthLimit : Nat := 79

mutual

def value : Nat → Nat → Reader Json
  | 0, _, _ => none
  | fuel + 1, depth, cs =>
    match cs with
    | '[' :: rest => if depth = 0 then none else do
      let (items, rest) ← arrayItems fuel (depth - 1) rest
      return (.arr items, rest)
    | '{' :: rest => if depth = 0 then none else do
      match skipBlanks rest with
      | '}' :: rest => return (.obj [], rest)
      | rest =>
        let (t, rest) ← inlineFields fuel (depth - 1) ⟨false, false, []⟩ rest
        return (.object (entriesJson t.entries), rest)
    | '"' :: _ | '\'' :: _ => (string cs).map fun (s, rest) => (.str s, rest)
    | 't' :: _ => (Text.dropWord ['t', 'r', 'u', 'e'] cs).map fun rest => (.bool true, rest)
    | 'f' :: _ => (Text.dropWord ['f', 'a', 'l', 's', 'e'] cs).map fun rest => (.bool false, rest)
    | _ =>
      match dateTime cs with
      | some rest => some (dateValue cs rest, rest)
      | none => number cs

/-- The items of a list, up to and with its closing bracket. -/
def arrayItems : Nat → Nat → Reader (List Json)
  | 0, _, _ => none
  | fuel + 1, depth, cs =>
    match skipLines (cs.length + 1) cs with
    | ']' :: rest => some ([], rest)
    | cs => do
      let (item, rest) ← value fuel depth cs
      match skipLines (rest.length + 1) rest with
      | ']' :: rest => return ([item], rest)
      | ',' :: rest =>
        let (items, rest) ← arrayItems fuel depth rest
        return (item :: items, rest)
      | _ => none

/-- The fields of an inline table, up to and with its closing brace. -/
def inlineFields : Nat → Nat → Table → Reader Table
  | 0, _, _, _ => none
  | fuel + 1, depth, t, cs => do
    let (keys, rest) ← dottedKey (skipBlanks cs)
    match rest with
    | '=' :: rest =>
      let (v, rest) ← value fuel depth (skipBlanks rest)
      let t ← assign keys v t
      match skipBlanks rest with
      | '}' :: rest => return (t, rest)
      | ',' :: rest => inlineFields fuel depth t rest
      | _ => none
    | _ => none

end

/-- A document as far as it is read, and the table that the next lines belong to. -/
structure State where
  root : Table
  header : List String

/-- A header: whether it adds to a list of tables, and its key. -/
def header (cs : List Char) : Option ((Bool × List String) × List Char) :=
  match cs with
  | '[' :: '[' :: rest => do
    let (keys, rest) ← dottedKey (skipBlanks rest)
    match rest with
    | ']' :: ']' :: rest => return ((true, keys), rest)
    | _ => none
  | '[' :: rest => do
    let (keys, rest) ← dottedKey (skipBlanks rest)
    match rest with
    | ']' :: rest => return ((false, keys), rest)
    | _ => none
  | _ => none

def State.open (s : State) (isItem : Bool) (keys : List String) : Option State :=
  match keys.reverse with
  | [] => none
  | last :: before => do
    let opened := if isItem then openItem last else openTable last
    let root ← descend false opened before.reverse s.root
    return ⟨root, keys⟩

def State.assign (s : State) (keys : List String) (v : Json) : Option State := do
  let root ← descend false (Toml.assign keys v) s.header s.root
  return { s with root }

/-- Reads line after line. -/
def lines : Nat → State → List Char → Option State
  | 0, _, _ => none
  | fuel + 1, s, cs =>
    match skipLines (cs.length + 1) cs with
    | [] => some s
    | '[' :: rest => do
      let ((isItem, keys), rest) ← header ('[' :: rest)
      let s ← s.open isItem keys
      lines fuel s (← endOfLine rest)
    | cs => do
      let (keys, rest) ← dottedKey cs
      match rest with
      | '=' :: rest =>
        let rest := skipBlanks rest
        let (v, rest) ← value (rest.length + 1) depthLimit rest
        let s ← s.assign keys v
        lines fuel s (← endOfLine rest)
      | _ => none

/-- The value of a document, if it is one. -/
def parse? (text : String) : Option Json := do
  let cs := match text.toList with
    | '\uFEFF' :: rest => rest
    | cs => cs
  let s ← lines (cs.length + 1) ⟨⟨false, false, []⟩, []⟩ cs
  return .object (entriesJson s.root.entries)

end StackSynth.Toml
