import StackSynth.Stack.Synthesis

/-!
What is written about a stack for its deployment: the template, a list of the assets to publish with
the places they are published to, and a manifest that says how to deploy.
-/
namespace StackSynth.Assembly

def schemaVersion : String := "36.0.0"

/-- The documents of an assembly, as texts without the final line break. -/
structure Documents where
  template : String
  assets : String
  manifest : String
  deriving DecidableEq, Repr, Inhabited

def templateFile (s : Stack) : String := s!"{s.name}.template.json"
def assetsFile (s : Stack) : String := s!"{s.name}.assets.json"
def manifestFile : String := "manifest.json"

/-- The place that assets are published to. -/
def destination (e : Environment) : String := s!"{e.account}-{e.region}"

def roleArn (e : Environment) (role : String) : Json :=
  .str (Bootstrap.roleArn role e.account e.region)

def hashOf (text : String) : String := Digest.hex (Digest.Sha256.digest text.toUTF8.toList)

def fileEntry (s : Stack) (hash : String) : Json := .obj [
  ("source", .obj [("path", .str (templateFile s)), ("packaging", .str "file")]),
  ("destinations", .obj [(destination s.environment, .obj [
    ("bucketName", .str (Bootstrap.bucketName s.environment.account s.environment.region)),
    ("objectKey", .str s!"{hash}.json"),
    ("assumeRoleArn", roleArn s.environment "file-publishing")])])]

/-- Where an image is built from; options that are not set are left out. -/
def imageSourceJson (source : ImageSource) : Json := .obj (
  [("directory", .str source.directory)]
    ++ optionalText "dockerBuildTarget" source.options.target
    ++ (if source.options.exclude.isEmpty then []
      else [("dockerExclude", .strs source.options.exclude)])
    ++ optionalText "dockerFile" source.options.file)

/-- The repository and tag that an image is pushed to. -/
def imageDestination (e : Environment) (source : ImageSource) : Json := .obj [
  ("repositoryName", .str (Bootstrap.repositoryName e.account e.region)),
  ("imageTag", .str source.hash),
  ("assumeRoleArn", roleArn e "image-publishing")]

def imageEntry (e : Environment) (source : ImageSource) : Json := .obj [
  ("displayName", .str source.displayName),
  ("source", imageSourceJson source),
  ("destinations", .obj [(destination e, imageDestination e source)])]

def assetsJson (s : Stack) (templateHash : String) : Json := .obj [
  ("version", .str schemaVersion),
  ("files", .obj [(templateHash, fileEntry s templateHash)]),
  ("dockerImages",
    .obj (s.assets.map fun source => (source.hash, imageEntry s.environment source)))]

/-- The bootstrap resources that a deployment relies on. -/
def bootstrapFields : Fields := [
  ("bootstrapStackVersionSsmParameter", .str Bootstrap.versionLocation),
  ("requiresBootstrapStackVersion", .nat (UInt64.ofNat Bootstrap.requiredVersion))]

def assetsArtifactId (s : Stack) : String := s!"{s.name}.assets"

def assetsArtifact (s : Stack) : Json := .obj [
  ("type", .str "cdk:asset-manifest"),
  ("properties", .object (("file", .str (assetsFile s)) :: bootstrapFields))]

def stackArtifact (s : Stack) (templateHash : String) : Json :=
  let e := s.environment
  .obj [
    ("type", .str "aws:cloudformation:stack"),
    ("environment", .str e.descriptor),
    ("properties", .object ([
      ("templateFile", .str (templateFile s)),
      ("validateOnSynth", .bool false),
      ("assumeRoleArn", roleArn e "deploy"),
      ("cloudFormationExecutionRoleArn", roleArn e "cfn-exec"),
      ("stackTemplateAssetObjectUrl",
        .str s!"s3://{Bootstrap.bucketName e.account e.region}/{templateHash}.json")]
      ++ bootstrapFields)),
    ("dependencies", .strs [assetsArtifactId s]),
    ("displayName", .str s.name)]

def manifestJson (s : Stack) (templateHash : String) : Json := .obj [
  ("version", .str schemaVersion),
  ("artifacts", .obj [
    (assetsArtifactId s, assetsArtifact s),
    (s.name, stackArtifact s templateHash)])]

/-- The documents of a stack that can be synthesized. -/
def documents (s : Stack) : Outcome Documents := do
  let template := (← s.synthesize).render
  let hash := hashOf template
  return ⟨template, (assetsJson s hash).pretty, (manifestJson s hash).pretty⟩

end StackSynth.Assembly
