import StackSynth.Data.AutoDelete

/-!
Buckets of objects.
-/
namespace StackSynth

structure BucketSettings where
  autoDelete : Bool := false
  removal : RemovalPolicy := .retain
  versioned : Bool := false
  deriving DecidableEq, Repr, Inhabited

structure Bucket extends Construct
  deriving DecidableEq, Repr, Inhabited

namespace Bucket

def name (b : Bucket) : Value := .ref b.logicalId
def arn (b : Bucket) : Value := .getAtt b.logicalId "Arn"

/-- The objects whose keys match a pattern. -/
def objectsArn (b : Bucket) (pattern : String) : Value := .join "" [b.arn, .str s!"/{pattern}"]

def resourceFor (settings : BucketSettings) : Resource :=
  ({ type := "AWS::S3::Bucket"
     properties :=
      (if settings.autoDelete then
        [("Tags", .arr [.obj [("Key", .str AutoDelete.tag), ("Value", .str "true")]])] else [])
      ++ (if settings.versioned then
        [("VersioningConfiguration", .obj [("Status", .str "Enabled")])] else []) }
    : Resource).withRemovalPolicy settings.removal.deletionPolicy

/-- Lets the function that empties buckets work on this one. -/
def emptyingPolicy (b : Bucket) (roleId : String) : Resource := {
  type := "AWS::S3::BucketPolicy"
  properties := [
    ("Bucket", b.name.toJson),
    ("PolicyDocument", .obj [
      ("Statement", .arr [.obj [
        ("Action", .strs ["s3:PutBucketPolicy", "s3:GetBucket*", "s3:List*", "s3:DeleteObject*"]),
        ("Effect", .str "Allow"),
        ("Principal", .obj [("AWS", (Value.getAtt roleId "Arn").toJson)]),
        ("Resource", .arr [b.arn.toJson, (b.objectsArn "*").toJson])]]),
      ("Version", .str policyVersion)])] }

/-- Calls the function when the stack is deleted. -/
def emptyingTrigger (b : Bucket) (handlerId policyId : String) : Resource :=
  ({ type := "Custom::S3AutoDeleteObjects"
     properties := [
      ("BucketName", b.name.toJson),
      ("ServiceToken", (Value.getAtt handlerId "Arn").toJson)]
     dependsOn := [policyId] } : Resource).withRemovalPolicy .delete

def declareEmptying (b : Bucket) : Declaring Unit := do
  let (roleId, handlerId) ← AutoDelete.provider
  let policyId ← Stack.declare (b.path ++ ["Policy", "Resource"]) (b.emptyingPolicy roleId)
  let _ ← Stack.declare (b.path ++ ["AutoDeleteObjectsCustomResource", "Default"])
    (b.emptyingTrigger handlerId policyId)

/-- Declares a bucket; only one that is deleted with the stack can be emptied before. -/
def declare (id : String) (settings : BucketSettings) : Declaring Bucket := do
  if settings.autoDelete && settings.removal != .destroy then
    throw (.invalidProps id "auto_delete_objects requires the Destroy removal policy")
  let logicalId ← Stack.declare [id, "Resource"] (resourceFor settings)
  let bucket : Bucket := { path := [id], logicalId }
  if settings.autoDelete then bucket.declareEmptying
  return bucket

def readActions : List String := ["s3:GetObject*", "s3:GetBucket*", "s3:List*"]

def writeActions : List String := [
  "s3:PutObject", "s3:PutObjectLegalHold", "s3:PutObjectRetention", "s3:PutObjectTagging",
  "s3:PutObjectVersionTagging", "s3:Abort*"]

def deleteActions : List String := ["s3:DeleteObject*"]

/-- Lets a role read, write and delete the objects of the bucket. -/
def grantReadWrite (b : Bucket) (role : Role) : Declaring Bool :=
  role.grant .readWrite b.logicalId
    [{ actions := readActions ++ writeActions ++ deleteActions
       resources := [b.arn, b.objectsArn "*"] }]

end Bucket

end StackSynth
