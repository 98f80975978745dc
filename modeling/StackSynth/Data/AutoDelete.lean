import StackSynth.Permissions.Role

/-!
Emptying buckets before they are deleted. One function does this for all buckets of a stack; it
looks for a tag on the bucket before it deletes anything.
-/
namespace StackSynth.AutoDelete

def tag : String := "aws-cdk:auto-delete-objects"

def providerId : String := "Custom::S3AutoDeleteObjectsCustomResourceProvider"

/-- The text of the function. -/
def handler : String := String.join ([
  "import boto3",
  "import cfnresponse",
  "",
  "s3 = boto3.client(\"s3\")",
  "",
  "def handler(event, context):",
  "    bucket = event[\"ResourceProperties\"][\"BucketName\"]",
  "    try:",
  "        if event[\"RequestType\"] == \"Delete\" and is_tagged(bucket):",
  "            empty(bucket)",
  "        cfnresponse.send(event, context, cfnresponse.SUCCESS, \x7b\x7d, bucket)",
  "    except Exception as e:",
  "        print(e)",
  "        cfnresponse.send(event, context, cfnresponse.FAILED, \x7b\x7d, bucket)",
  "",
  "def is_tagged(bucket):",
  "    try:",
  "        tags = s3.get_bucket_tagging(Bucket=bucket)[\"TagSet\"]",
  "    except s3.exceptions.ClientError:",
  "        return False",
  "    return any(t[\"Key\"] == \"aws-cdk:auto-delete-objects\" and t[\"Value\"] == \"true\" for t in tags)",
  "",
  "def empty(bucket):",
  "    paginator = s3.get_paginator(\"list_object_versions\")",
  "    for page in paginator.paginate(Bucket=bucket):",
  "        objects = [",
  "            \x7b\"Key\": o[\"Key\"], \"VersionId\": o[\"VersionId\"]\x7d",
  "            for o in page.get(\"Versions\", []) + page.get(\"DeleteMarkers\", [])",
  "        ]",
  "        if objects:",
  "            s3.delete_objects(Bucket=bucket, Delete=\x7b\"Objects\": objects\x7d)"].map (· ++ "\n"))

def rolePath : List String := [providerId, "Role"]
def handlerPath : List String := [providerId, "Handler"]

def roleResource : Resource := {
  type := "AWS::IAM::Role"
  properties := [
    ("AssumeRolePolicyDocument", assumedBy "lambda.amazonaws.com"),
    ("ManagedPolicyArns", .arr [(Value.sub
      "arn:$\x7bAWS::Partition\x7d:iam::aws:policy/service-role/AWSLambdaBasicExecutionRole").toJson]),
    ("Policies", .arr [.obj [
      ("PolicyDocument", .obj [
        ("Statement", .arr [.obj [
          ("Action", .strs ["s3:GetBucketTagging"]),
          ("Effect", .str "Allow"),
          ("Resource", .str "*")]]),
        ("Version", .str policyVersion)]),
      ("PolicyName", .str "Inline")]])] }

def handlerResource (roleId : String) : Resource := {
  type := "AWS::Lambda::Function"
  properties := [
    ("Code", .obj [("ZipFile", .str handler)]),
    ("Description", .str "Deletes all objects in a tagged bucket when the stack is deleted"),
    ("Handler", .str "index.handler"),
    ("MemorySize", .nat 128),
    ("Role", (Value.getAtt roleId "Arn").toJson),
    ("Runtime", .str "python3.12"),
    ("Timeout", .nat 900)]
  dependsOn := [roleId] }

/-- The ids of the role and of the function, which are declared with the first bucket. -/
def provider : Declaring (String × String) := do
  let roleId ← Stack.lift (LogicalId.ofPath rolePath)
  let handlerId ← Stack.lift (LogicalId.ofPath handlerPath)
  if !(← get).contains handlerId then
    let _ ← Stack.declare rolePath roleResource
    let _ ← Stack.declare handlerPath (handlerResource roleId)
  return (roleId, handlerId)

end StackSynth.AutoDelete
