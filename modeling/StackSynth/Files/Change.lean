import StackSynth.Files.Tree

/-!
Changes to a file system: making directories, writing files and renaming them.
-/
namespace StackSynth

namespace Entry

/-- Sets, replaces or removes the entry called `name` of a directory. -/
def setChild (name : String) (value : Option Entry) (entries : List (String × Entry)) :
    List (String × Entry) :=
  match value with
  | none => entries.filter (·.1 != name)
  | some e =>
    if entries.any (·.1 == name) then
      entries.map fun entry => if entry.1 == name then (name, e) else entry
    else entries ++ [(name, e)]

/-- Changes the entry at a place; directories on the way have to exist. -/
def update (value : Option Entry) : List String → Entry → Entry
  | [], e => value.getD e
  | [name], dir entries => dir (setChild name value entries)
  | name :: rest, dir entries =>
    match (dir entries).child? name with
    | some inner => dir (setChild name (some (update value rest inner)) entries)
    | none => dir entries
  | _, e => e

end Entry

namespace FileTree

def set (t : FileTree) (place : List String) (value : Option Entry) : FileTree :=
  { t with top := t.top.update value place }

def isDots (name : String) : Bool := name = "." || name = ".."

/-- Where the last name of a path stands: the directory that the steps before it lead to, the entries
there, and how many links may still be followed. -/
def directoryFrom (t : FileTree) (links : Nat) (here before : List String) :
    Except FileError (List String × List (String × Entry) × Nat) := do
  let (directory, links) ← walk t.top true links here before
  match t.top.at? directory with
  | some (.dir entries) => .ok (directory, entries, links)
  | some _ => .error .notDirectory
  | none => .error .notFound

/-- Makes a directory. Slashes after its name do not count, and no link is followed there. -/
def makeDir (t : FileTree) (path : String) : Except FileError FileTree :=
  match textError? path, (Path.names path).reverse with
  | some e, _ => .error e
  | none, [] => .error .alreadyExists
  | none, name :: before => do
    let (directory, entries, _) ← t.directoryFrom linkLimit (t.start path) before.reverse
    if isDots name then .error .alreadyExists
    else if Path.nameLimit < Text.byteLength name then .error .nameTooLong
    else match (Entry.dir entries).child? name with
      | some _ => .error .alreadyExists
      | none => .ok (t.set (directory ++ [name]) (some (.dir [])))

/-- Makes a directory, or finds it there. -/
def ensureDir (t : FileTree) (path : String) : Except FileError Unit × FileTree :=
  match t.makeDir path with
  | .ok t => (.ok (), t)
  | .error e => (if t.isDir path then .ok () else .error e, t)

/-- Makes a directory and those above it that are missing; `depth` bounds their number. What is made
before a failure stays. -/
def makeDirsFrom : Nat → String → FileTree → Except FileError Unit × FileTree
  | 0, _, t => (.error .notFound, t)
  | depth + 1, path, t =>
    if path.isEmpty then (.ok (), t)
    else match t.makeDir path, Path.parent? path with
      | .error .notFound, some above =>
        match makeDirsFrom depth above t with
        | (.ok (), t) => t.ensureDir path
        | failed => failed
      | .error .notFound, none => (.error .notFound, t)
      | _, _ => t.ensureDir path

def makeDirs (t : FileTree) (path : String) : Except FileError Unit × FileTree :=
  makeDirsFrom ((Path.names path).length + 1) path t

/-- Writes a file anew. A link at the end of the path is followed, also to a file that is missing
yet; `links` tells how many may still be followed and is below `depth`. -/
def writeFrom (content : Bytes) :
    (depth links : Nat) → List String → String → FileTree → Except FileError FileTree
  | 0, _, _, _, _ => .error .tooManyLinks
  | depth + 1, links, here, path, t =>
    match (Path.names path).reverse with
    | [] => .error .isDirectory
    | name :: before => do
      let (directory, entries, links) ← t.directoryFrom links here before.reverse
      if isDots name || Path.endsWithSlash path then .error .isDirectory
      else if Path.nameLimit < Text.byteLength name then .error .nameTooLong
      else match (Entry.dir entries).child? name, links with
        | some (.dir _), _ => .error .isDirectory
        | some (.link _), 0 => .error .tooManyLinks
        | some (.link target), links + 1 =>
          writeFrom content depth links (if Path.isAbsolute target then [] else directory) target t
        | _, _ => .ok (t.set (directory ++ [name]) (some (.file content)))

def write (t : FileTree) (path : String) (content : Bytes) : Except FileError FileTree :=
  match textError? path with
  | some e => .error e
  | none => writeFrom content (linkLimit + 1) linkLimit (t.start path) path t

/-- Gives a file another name; a file that had that name is replaced. -/
def rename (t : FileTree) (source target : String) : Except FileError FileTree := do
  let place ← t.locate source false
  match textError? target, (Path.names target).reverse with
  | some e, _ => .error e
  | none, [] => .error .isDirectory
  | none, name :: before =>
    let (directory, entries, _) ← t.directoryFrom linkLimit (t.start target) before.reverse
    match t.top.at? place, (Entry.dir entries).child? name with
    | none, _ => .error .notFound
    | some _, some (.dir _) => .error .isDirectory
    | some moved, _ => .ok ((t.set place none).set (directory ++ [name]) (some moved))

/-- Puts a symbolic link where nothing stands yet; unchanged where it has no room. -/
def withLink (t : FileTree) (path target : String) : FileTree :=
  match (Path.names path).reverse with
  | [] => t
  | name :: before =>
    match t.directoryFrom linkLimit (t.start path) before.reverse with
    | .ok (directory, _, _) => t.set (directory ++ [name]) (some (.link target))
    | .error _ => t

/-- The tree with a directory in it, and with those above it; unchanged where it has no room. -/
def withDirs (t : FileTree) (path : String) : FileTree :=
  match t.makeDirs path with
  | (.ok (), made) => made
  | (.error _, _) => t

/-- The tree with a file in it, and with the directories above the file; unchanged where it has no
room. -/
def withFile (t : FileTree) (path : String) (content : Bytes) : FileTree :=
  let above := (Path.parent? path).elim t t.withDirs
  (above.write path content).toOption.getD t

/-- The tree of an empty directory, in which the work is done. -/
def empty (directory : String) : FileTree :=
  withDirs ⟨.dir [], Path.names directory⟩ directory

end FileTree

end StackSynth
