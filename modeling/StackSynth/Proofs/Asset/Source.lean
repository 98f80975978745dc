import StackSynth.Asset.Image

/-!
When an image has a source: its directory is there, the build file is in it, and the directory can be
fingerprinted. A directory that holds nothing but the build file is such a one.
-/
namespace StackSynth

namespace ImageAsset

variable {files : FileTree} {path : List String} {settings : Settings}

/-- The build context leads to a directory that holds the build file, and it has a fingerprint. -/
def Buildable (files : FileTree) (settings : Settings) : Prop :=
  ∃ directory hash, files.canonical settings.directory = .ok directory ∧
    files.isFile (Path.join directory (settings.options.file.getD "Dockerfile")) = true ∧
    fingerprint files directory settings.options = .ok hash

theorem source_of_ok_iff : (∃ source, sourceOf files path settings = .ok source) ↔
    Buildable files settings := by
  unfold sourceOf Buildable
  cases canonical : files.canonical settings.directory with
  | error _ => simp [bind, Except.bind, throw, throwThe, MonadExceptOf.throw]
  | ok directory =>
    cases present : files.isFile (Path.join directory (settings.options.file.getD "Dockerfile")) with
    | false =>
      simp [present, pure, Except.pure, bind, Except.bind, throw, throwThe, MonadExceptOf.throw]
    | true =>
      cases found : fingerprint files directory settings.options <;>
        simp [present, found, pure, Except.pure, bind, Except.bind]

end ImageAsset

namespace FileTree

/-- A directory with one empty file. -/
def oneFile : FileTree := { top := .dir [("Dockerfile", .file [])], workingDirectory := [] }

theorem one_file_stays (links : Nat) (here : List String) :
    walk oneFile.top true links here [] = .ok (here, links) := by
  rw [walk]

theorem one_file_entry_top : oneFile.entry "/" = .ok oneFile.top := by
  have text : textError? "/" = none := by decide
  have steps : Path.steps "/" = [] := by decide
  simp only [entry, locate, text, place, steps, one_file_stays]
  rfl

theorem one_file_entry : oneFile.entry "/Dockerfile" = .ok (.file []) := by
  have text : textError? "/Dockerfile" = none := by decide
  have steps : Path.steps "/Dockerfile" = ["Dockerfile"] := by decide
  have start : oneFile.start "/Dockerfile" = [] := by decide
  have top : oneFile.top.at? [] = some (.dir [("Dockerfile", .file [])]) := rfl
  have child : (Entry.dir [("Dockerfile", .file [])]).child? "Dockerfile" = some (.file []) := rfl
  have short : ¬ Path.nameLimit < Text.byteLength "Dockerfile" := by decide
  simp only [entry, locate, text, place, steps, start]
  rw [walk]
  simp only [top, child, short, if_false, one_file_stays, List.nil_append, String.reduceEq]
  rfl

end FileTree

namespace ImageAsset

open FileTree

def oneFileSource (path : List String) (options : BuildOptions) : ImageSource := {
  hash := Digest.hex (Digest.Sha256.digest (Fingerprint.stream [(["Dockerfile"], [])] options))
  displayName := Text.join "/" path
  directory := "/"
  options }

theorem one_file_source (path : List String) {options : BuildOptions}
    (file : options.file = none) (exclude : options.exclude = []) :
    sourceOf oneFile path ⟨"/", options⟩ = .ok (oneFileSource path options) := by
  have canonical : oneFile.canonical "/" = .ok "/" := by
    have text : textError? "/" = none := by decide
    have steps : Path.steps "/" = [] := by decide
    simp only [FileTree.canonical, text, place, steps, one_file_stays]
    rfl
  have present : oneFile.isFile (Path.join "/" "Dockerfile") = true := by
    have joined : Path.join "/" "Dockerfile" = "/Dockerfile" := by decide
    rw [joined, isFile, one_file_entry]
  have listed : Fingerprint.files oneFile "/" [] = .ok [(["Dockerfile"], [])] := by
    have patterns : Fingerprint.patterns "/" [] = .ok [] := rfl
    have short : Fingerprint.isTooLong "/" = false := by decide
    have short_file : Fingerprint.isTooLong (Path.join "/" "Dockerfile") = false := by decide
    rw [Fingerprint.files, one_file_entry_top]
    simp [oneFile, patterns, Fingerprint.filesOf, Fingerprint.filesOfEntries, short, short_file,
      Fingerprint.isExcluded, bind, Except.bind, pure, Except.pure]
  have fingerprinted : fingerprint oneFile "/" options = .ok (oneFileSource path options).hash := by
    rw [fingerprint, exclude, listed]
    rfl
  simp only [sourceOf, canonical, file, Option.getD_none]
  simp [present, fingerprinted, bind, Except.bind, pure, Except.pure]
  rfl

end ImageAsset

end StackSynth
