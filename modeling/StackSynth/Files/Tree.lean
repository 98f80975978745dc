import StackSynth.Files.Path

/-!
A file system as a value: directories, regular files with their bytes, and symbolic links. Walking
along a path follows links as it comes to them, up to a limit.
-/
namespace StackSynth

inductive FileError
  | notFound
  | alreadyExists
  | notDirectory
  | isDirectory
  | nameTooLong
  | tooManyLinks
  | zeroByte
  | notText
  deriving DecidableEq, Repr, Inhabited

def FileError.message : FileError → String
  | notFound => "No such file or directory (os error 2)"
  | alreadyExists => "File exists (os error 17)"
  | notDirectory => "Not a directory (os error 20)"
  | isDirectory => "Is a directory (os error 21)"
  | nameTooLong => "File name too long (os error 36)"
  | tooManyLinks => "Too many levels of symbolic links (os error 40)"
  | zeroByte => "file name contained an unexpected NUL byte"
  | notText => "stream did not contain valid UTF-8"

abbrev Bytes := List UInt8

inductive Entry
  | file (content : Bytes)
  | dir (entries : List (String × Entry))
  | link (target : String)
  deriving Inhabited

namespace Entry

def child? (name : String) : Entry → Option Entry
  | dir entries => (entries.find? (·.1 == name)).map (·.2)
  | _ => none

/-- The entry at the end of a list of names, without following links. -/
def at? : List String → Entry → Option Entry
  | [], e => some e
  | name :: rest, e => (e.child? name).bind (at? rest)

def isDir : Entry → Bool
  | dir _ => true
  | _ => false

end Entry

structure FileTree where
  /-- The directory at the top. -/
  top : Entry
  /-- The names that lead from the top to the working directory. -/
  workingDirectory : List String
  deriving Inhabited

namespace FileTree

def linkLimit : Nat := 40

/-- Walks on from a directory and gives the place where the walk ends, which has to exist, and how
many links may still be followed. The last step follows a link only if `followLast` is set. -/
def walk (top : Entry) (followLast : Bool) (links : Nat) (here steps : List String) :
    Except FileError (List String × Nat) :=
  match steps with
  | [] => .ok (here, links)
  | step :: rest =>
    match top.at? here with
    | some (.dir entries) =>
      if step = "." then walk top followLast links here rest
      else if step = ".." then walk top followLast links here.dropLast rest
      else if Path.nameLimit < Text.byteLength step then .error .nameTooLong
      else match (Entry.dir entries).child? step with
        | none => .error .notFound
        | some (.link target) =>
          if rest.isEmpty && !followLast then .ok (here ++ [step], links)
          else match links with
            | 0 => .error .tooManyLinks
            | links + 1 =>
              walk top followLast links (if Path.isAbsolute target then [] else here)
                (Path.steps target ++ rest)
        | some _ => walk top followLast links (here ++ [step]) rest
    | some _ => .error .notDirectory
    | none => .error .notFound
termination_by (links, steps.length)

/-- Where a walk along the path starts. -/
def start (t : FileTree) (path : String) : List String :=
  if Path.isAbsolute path then [] else t.workingDirectory

/-- The place that a path leads to, whatever the length of the path. -/
def place (t : FileTree) (path : String) (followLast : Bool) : Except FileError (List String) :=
  (walk t.top followLast linkLimit (t.start path) (Path.steps path)).map (·.1)

/-- What is wrong with the text of a path, before anything is looked up. -/
def textError? (path : String) : Option FileError :=
  if path.toList.contains '\x00' then some .zeroByte
  else if path.isEmpty then some .notFound
  else if Path.lengthLimit ≤ Text.byteLength path then some .nameTooLong
  else none

/-- The place that a path leads to, as the names from the top. -/
def locate (t : FileTree) (path : String) (followLast : Bool) : Except FileError (List String) :=
  match textError? path with
  | some e => .error e
  | none => t.place path followLast

/-- The entry that a path leads to, through links. -/
def entry (t : FileTree) (path : String) : Except FileError Entry := do
  let place ← t.locate path true
  match t.top.at? place with
  | some e => .ok e
  | none => .error .notFound

def isFile (t : FileTree) (path : String) : Bool :=
  match t.entry path with
  | .ok (.file _) => true
  | _ => false

def isDir (t : FileTree) (path : String) : Bool :=
  match t.entry path with
  | .ok (.dir _) => true
  | _ => false

def exists? (t : FileTree) (path : String) : Bool :=
  match t.entry path with
  | .ok _ => true
  | .error _ => false

def read (t : FileTree) (path : String) : Except FileError Bytes := do
  match ← t.entry path with
  | .file content => .ok content
  | .dir _ => .error .isDirectory
  | .link _ => .error .tooManyLinks

def readText (t : FileTree) (path : String) : Except FileError String := do
  let content ← t.read path
  match String.fromUTF8? (ByteArray.mk content.toArray) with
  | some text => .ok text
  | none => .error .notText

def placeText (place : List String) : String := "/" ++ Text.join "/" place

/-- The path without links and detours, for which the path itself may have any length. -/
def canonical (t : FileTree) (path : String) : Except FileError String :=
  match textError? path with
  | none | some .nameTooLong => (t.place path true).map placeText
  | some e => .error e

end FileTree

end StackSynth
