import StackSynth.Assembly.Manifest
import StackSynth.Files.Change

/-!
Writing an assembly. Each document is written to a file of another name first and then renamed, so
that its own file never holds a part of it.
-/
namespace StackSynth.Assembly

/-- A single change to the file system. -/
inductive Change
  | makeDirs (path : String)
  | write (path : String) (content : Bytes)
  | rename (source target : String)
  deriving DecidableEq, Repr, Inhabited

namespace Change

/-- What the change is called when it fails. -/
def title : Change → String
  | makeDirs path => s!"creating output directory {path}"
  | write path _ => s!"writing {path}"
  | rename source _ => s!"renaming {source}"

/-- The outcome of the change, and what it leaves: a write or a renaming that fails leaves the tree as
it was. -/
def apply : Change → FileTree → Except FileError Unit × FileTree
  | makeDirs path, t => t.makeDirs path
  | write path content, t => settle (t.write path content) t
  | rename source target, t => settle (t.rename source target) t
where
  settle (changed : Except FileError FileTree) (t : FileTree) : Except FileError Unit × FileTree :=
    match changed with
    | .ok t => (.ok (), t)
    | .error e => (.error e, t)

end Change

def temporary (path : String) : String := path ++ ".tmp"

/-- The changes that put a document into its file. -/
def publish (path text : String) : List Change :=
  [.write (temporary path) (text ++ "\n").toUTF8.toList, .rename (temporary path) path]

/-- The files of an assembly with their documents, in the order in which they are written. -/
def filesOf (directory : String) (s : Stack) (d : Documents) : List (String × String) := [
  (Path.join directory (templateFile s), d.template),
  (Path.join directory (assetsFile s), d.assets),
  (Path.join directory manifestFile, d.manifest)]

def changes (directory : String) (s : Stack) (d : Documents) : List Change :=
  .makeDirs directory :: (filesOf directory s d).flatMap fun file => publish file.1 file.2

/-- Makes the changes one after the other, up to the first that fails. -/
def perform : List Change → FileTree → Outcome Unit × FileTree
  | [], t => (.ok (), t)
  | change :: rest, t =>
    match change.apply t with
    | (.ok (), t) => perform rest t
    | (.error e, t) => (.error (.during change.title (some e.message)), t)

/-- Writes the assembly of a stack into a directory and gives the paths of its files. -/
def write (directory : String) (s : Stack) (t : FileTree) : Outcome (List String) × FileTree :=
  match documents s with
  | .error e => (.error e, t)
  | .ok d =>
    let (outcome, t) := perform (changes directory s d) t
    (outcome.map fun _ => (filesOf directory s d).map (·.1), t)

end StackSynth.Assembly
