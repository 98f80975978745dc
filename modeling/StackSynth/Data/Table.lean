import StackSynth.Permissions.Role

/-!
Tables of items that are found by a key of one or two attributes.
-/
namespace StackSynth

inductive AttributeType
  | string
  | number
  | binary
  deriving DecidableEq, Repr, Inhabited

namespace AttributeType

def name : AttributeType → String
  | string => "S"
  | number => "N"
  | binary => "B"

def all : List AttributeType := [string, number, binary]

end AttributeType

structure TableAttribute where
  name : String
  type : AttributeType
  deriving DecidableEq, Repr, Inhabited

structure TableSettings where
  partitionKey : TableAttribute
  sortKey : Option TableAttribute := none
  /-- Whether capacity is reserved, and not paid for by the request. -/
  provisioned : Bool := false
  readCapacity : Option UInt32 := none
  writeCapacity : Option UInt32 := none
  removal : RemovalPolicy := .retain
  deriving DecidableEq, Repr, Inhabited

structure Table extends Construct
  deriving DecidableEq, Repr, Inhabited

namespace TableSettings

def defaultCapacity : UInt32 := 5

def reads (t : TableSettings) : UInt32 := t.readCapacity.getD defaultCapacity
def writes (t : TableSettings) : UInt32 := t.writeCapacity.getD defaultCapacity

/-- The first setting that is not allowed decides. -/
def check (t : TableSettings) (id : String) : Outcome Unit := do
  if t.partitionKey.name.isEmpty then throw (.invalidProps id "partition key name is empty")
  if t.sortKey.any (·.name == t.partitionKey.name) then
    throw (.invalidProps id "sort key must differ from the partition key")
  if t.provisioned then
    if t.reads = 0 ∨ t.writes = 0 then
      throw (.invalidProps id "capacity units must be positive")
  else
    if t.readCapacity.isSome ∨ t.writeCapacity.isSome then
      throw (.invalidProps id "capacity cannot be set for on-demand billing")

end TableSettings

namespace Table

def definition (a : TableAttribute) : Json :=
  .obj [("AttributeName", .str a.name), ("AttributeType", .str a.type.name)]

def keyPart (a : TableAttribute) (role : String) : Json :=
  .obj [("AttributeName", .str a.name), ("KeyType", .str role)]

def resourceFor (t : TableSettings) : Resource :=
  let sortKey := t.sortKey.toList
  ({ type := "AWS::DynamoDB::Table"
     properties :=
      [("AttributeDefinitions", .arr ((t.partitionKey :: sortKey).map definition))]
      ++ (if t.provisioned then [] else [("BillingMode", .str "PAY_PER_REQUEST")])
      ++ [("KeySchema", .arr (keyPart t.partitionKey "HASH"
          :: sortKey.map fun a => keyPart a "RANGE"))]
      ++ (if t.provisioned then [("ProvisionedThroughput", .obj [
          ("ReadCapacityUnits", .nat t.reads.toUInt64),
          ("WriteCapacityUnits", .nat t.writes.toUInt64)])] else []) } : Resource).withRemovalPolicy
    t.removal.deletionPolicy

def declare (id : String) (settings : TableSettings) : Declaring Table := do
  Stack.lift (settings.check id)
  let logicalId ← Stack.declare [id, "Resource"] (resourceFor settings)
  return { path := [id], logicalId }

def name (t : Table) : Value := .ref t.logicalId
def arn (t : Table) : Value := .getAtt t.logicalId "Arn"

def readActions : List String := [
  "dynamodb:BatchGetItem", "dynamodb:GetRecords", "dynamodb:GetShardIterator", "dynamodb:Query",
  "dynamodb:GetItem", "dynamodb:Scan", "dynamodb:ConditionCheckItem"]

def writeActions : List String := [
  "dynamodb:BatchWriteItem", "dynamodb:PutItem", "dynamodb:UpdateItem", "dynamodb:DeleteItem"]

/-- Lets a role read and change the items of the table. -/
def grantReadWrite (t : Table) (role : Role) : Declaring Bool :=
  role.grant .readWriteData t.logicalId
    [{ actions := readActions ++ writeActions ++ ["dynamodb:DescribeTable"], resources := [t.arn] }]

end Table

end StackSynth
