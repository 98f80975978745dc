import StackSynth.Asset.Fingerprint

/-!
Container images that a stack publishes, each known by the fingerprint of its build context.
-/
namespace StackSynth

structure ImageSource where
  hash : String
  displayName : String
  /-- The build context, without links on the way to it. -/
  directory : String
  options : BuildOptions
  deriving DecidableEq, Repr, Inhabited

end StackSynth
