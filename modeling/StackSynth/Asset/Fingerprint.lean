import StackSynth.Asset.Expression
import StackSynth.Digest.Sha256
import StackSynth.Failure
import StackSynth.Files.Tree

/-!
Fingerprints of build contexts: the digest of all files that are not excluded, with their paths, and
of the options that the build is given.
-/
namespace StackSynth

structure BuildOptions where
  exclude : List String := []
  target : Option String := none
  file : Option String := none
  deriving DecidableEq, Repr, Inhabited

namespace Fingerprint

/-- A file of a build context: the names that lead to it, and its content. -/
abbrev ContextFile := List String × Bytes

def withoutSlashes (pattern : String) : String :=
  String.ofList (pattern.toList.reverse.dropWhile (· = '/')).reverse

/-- An excluded name excludes what is below it as well. -/
def candidates (pattern : String) : List String :=
  [withoutSlashes pattern, withoutSlashes pattern ++ "/**"]

/-- The patterns of an exclude list, one by one; the directory is named when one cannot be read. -/
def parsed (directory : String) (exclude : List String) : Outcome (List (List Glob.Token)) :=
  (exclude.flatMap fun pattern => (candidates pattern).map (pattern, ·)).mapM fun entry =>
    match Glob.parse entry.2 with
    | .ok tokens => .ok tokens
    | .error e =>
      let cause := s!"error parsing glob '{entry.2}': {e.message}"
      .error (.assetFingerprint directory
        s!"invalid exclude pattern '{withoutSlashes entry.1}': {cause}")

/-- The patterns of an exclude list, which have to go together. -/
def patterns (directory : String) (exclude : List String) : Outcome (List (List Glob.Token)) := do
  let patterns ← parsed directory exclude
  match Glob.refusal? patterns with
  | some cause => .error (.assetFingerprint directory cause)
  | none => return patterns

def pathText (names : List String) : String := Text.join "/" names

def pathBytes (names : List String) : Bytes := (pathText names).toUTF8.toList

def isExcluded (patterns : List (List Glob.Token)) (names : List String) : Bool :=
  patterns.any fun tokens => Glob.accepts tokens (pathBytes names)

/-- A build context that is being gone through. -/
structure Visit where
  directory : String
  excluded : List String → Bool

def isTooLong (path : String) : Bool := Path.lengthLimit ≤ Text.byteLength path

mutual

/-- The regular files below an entry in ascending order of their names, without those that are
excluded themselves or by a directory above them. -/
def filesOf (v : Visit) (path : String) (names : List String) :
    Entry → Outcome (List ContextFile)
  | .file content =>
    if isTooLong path then .error (.io FileError.nameTooLong.message)
    else .ok [(names, content)]
  | .link _ => .ok []
  | .dir entries =>
    if isTooLong path then
      .error (.assetFingerprint v.directory
        s!"IO error for operation on {path}: {FileError.nameTooLong.message}")
    else do
      let found := (filesOfEntries v path names entries).mergeSort fun a b => decide (a.1 ≤ b.1)
      return (← found.mapM (·.2)).flatten

/-- The names in a directory, each with the files at it or below it. -/
def filesOfEntries (v : Visit) (path : String) (names : List String) :
    List (String × Entry) → List (String × Outcome (List ContextFile))
  | [] => []
  | (name, entry) :: rest =>
    let here := names ++ [name]
    (name, if v.excluded here then .ok [] else filesOf v (Path.join path name) here entry) ::
      filesOfEntries v path names rest

end

/-- A text with a zero byte after it. -/
def closed (text : String) : Bytes := text.toUTF8.toList ++ [0]

def fileBytes (f : ContextFile) : Bytes := pathBytes f.1 ++ 0 :: f.2 ++ [0]

/-- The bytes that are digested. -/
def stream (files : List ContextFile) (o : BuildOptions) : Bytes :=
  files.flatMap fileBytes
    ++ closed ("target:" ++ o.target.getD "")
    ++ closed ("file:" ++ o.file.getD "")
    ++ closed ("exclude:" ++ Text.join "," o.exclude)

/-- The files of a build context. -/
def files (t : FileTree) (directory : String) (exclude : List String) :
    Outcome (List ContextFile) :=
  match t.entry directory with
  | .ok (.dir entries) => do
    let patterns ← patterns directory exclude
    filesOf ⟨directory, isExcluded patterns⟩ directory [] (.dir entries)
  | _ => .error (.assetNotFound directory)

end Fingerprint

/-- The fingerprint of a build context. -/
def fingerprint (t : FileTree) (directory : String) (o : BuildOptions) : Outcome String := do
  let files ← Fingerprint.files t directory o.exclude
  return Digest.hex (Digest.Sha256.digest (Fingerprint.stream files o))

end StackSynth
