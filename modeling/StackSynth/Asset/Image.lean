import StackSynth.Bootstrap
import StackSynth.Permissions.Role

/-!
Container images built from a directory. An image is pulled under its fingerprint, so that a build
context that changes becomes another image.
-/
namespace StackSynth

structure ImageAsset where
  path : List String
  source : ImageSource
  deriving DecidableEq, Repr, Inhabited

namespace ImageAsset

/-- What an image is built from: the directory as it is given, and the options of the build. -/
structure Settings where
  directory : String
  options : BuildOptions := {}
  deriving DecidableEq, Repr, Inhabited

/-- The fingerprinted source of an image, whose build context has to hold its build file. -/
def sourceOf (files : FileTree) (path : List String) (settings : Settings) :
    Outcome ImageSource := do
  let directory ← match files.canonical settings.directory with
    | .ok directory => pure directory
    | .error _ => throw (.assetNotFound settings.directory)
  let buildFile := settings.options.file.getD "Dockerfile"
  if !files.isFile (Path.join directory buildFile) then
    throw (.assetFingerprint directory s!"no {buildFile} in build context")
  let hash ← fingerprint files directory settings.options
  return ⟨hash, Text.join "/" path, directory, settings.options⟩

/-- Fingerprints an image and enters it among the assets of the stack. -/
def declare (files : FileTree) (path : List String) (settings : Settings) :
    Declaring ImageAsset := do
  let source ← Stack.lift (sourceOf files path settings)
  Stack.addAsset source
  return ⟨path, source⟩

def hash (a : ImageAsset) : String := a.source.hash

def uri (a : ImageAsset) : Value :=
  .sub ("$\x7bAWS::AccountId\x7d.dkr.ecr.$\x7bAWS::Region\x7d.$\x7bAWS::URLSuffix\x7d/"
    ++ s!"{Bootstrap.repositoryPattern}:{a.hash}")

def repositoryArn : Value :=
  .sub ("arn:$\x7bAWS::Partition\x7d:ecr:$\x7bAWS::Region\x7d:$\x7bAWS::AccountId\x7d:repository/"
    ++ Bootstrap.repositoryPattern)

/-- Lets a role fetch the image. -/
def grantPull (role : Role) : Declaring Bool :=
  role.grant .pull Bootstrap.repositoryPattern [
    { actions := ["ecr:BatchCheckLayerAvailability", "ecr:GetDownloadUrlForLayer",
        "ecr:BatchGetImage"]
      resources := [repositoryArn] },
    { actions := ["ecr:GetAuthorizationToken"], resources := [.str "*"] }]

end ImageAsset

end StackSynth
