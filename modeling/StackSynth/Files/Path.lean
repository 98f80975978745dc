import StackSynth.Text.Split

/-!
Paths as texts: their components, joining them, and the parts of a file name.
-/
namespace StackSynth.Path

def isAbsolute (path : String) : Bool := path.toList.head? == some '/'

/-- The number of bytes that a path has to stay below. -/
def lengthLimit : Nat := 4096

/-- The number of bytes that one name may have. -/
def nameLimit : Nat := 255

def endsWithSlash (path : String) : Bool := path.toList.getLast? == some '/'

/-- Appends a path; an absolute one takes the place of what was there. -/
def join (base path : String) : String :=
  if isAbsolute path || base.isEmpty then path
  else if endsWithSlash base then base ++ path
  else base ++ "/" ++ path

/-- The names between slashes. -/
def names (path : String) : List String :=
  ((Text.splitAll '/' path.toList).filter (!·.isEmpty)).map String.ofList

/-- The steps of a walk along the path. A slash at the end asks for a directory, as a dot does. -/
def steps (path : String) : List String :=
  let parts := names path
  if endsWithSlash path && !parts.isEmpty then parts ++ ["."] else parts

/-- The names without those that stay in place; a dot counts only where a relative path starts. -/
def components (path : String) : List String :=
  match names path with
  | [] => []
  | first :: rest =>
    (if first == "." && isAbsolute path then [] else [first]) ++ rest.filter (· != ".")

/-- The last component, unless it leads upward or stays in place. -/
def fileName? (path : String) : Option String :=
  match (components path).getLast? with
  | some name => if name == ".." || name == "." then none else some name
  | none => none

/-- What follows the last point of a file name; a point at the very start does not count. -/
def extension (path : String) : String :=
  match fileName? path with
  | none => ""
  | some name =>
    let backward := name.toList.reverse
    match Text.splitOnce '.' backward with
    | some (last, before) => if before.isEmpty then "" else String.ofList last.reverse
    | none => ""

/-- The path without its last component; none where nothing is left to take away. -/
def parent? (path : String) : Option String :=
  match (components path).reverse with
  | [] => none
  | _ :: rest =>
    let above := Text.join "/" rest.reverse
    some (if isAbsolute path then "/" ++ above else above)

end StackSynth.Path
