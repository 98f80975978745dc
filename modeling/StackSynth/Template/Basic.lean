import StackSynth.OrderedMap
import StackSynth.Json.Text
import StackSynth.Template.Resource

/-!
Deployment templates, and the document a template is written as. The fields of the document have a
fixed order; sections that are empty are left out, except the resources.
-/
namespace StackSynth

structure Parameter where
  type : String
  default : Option String := none
  description : Option String := none
  deriving DecidableEq, Repr, Inhabited

structure Output where
  value : Json
  description : Option String := none
  /-- The name under which other stacks can import the value. -/
  exportName : Option Json := none
  deriving Repr, Inhabited

structure Template where
  formatVersion : String := "2010-09-09"
  description : Option String := none
  parameters : OrderedMap Parameter := ∅
  resources : OrderedMap Resource := ∅
  outputs : OrderedMap Output := ∅
  rules : OrderedMap Json := ∅
  deriving Inhabited

/-- A field that is left out where there is no text. -/
def optionalText (key : String) : Option String → Fields
  | some text => [(key, .str text)]
  | none => []

def Parameter.toJson (p : Parameter) : Json :=
  .obj ([("Type", .str p.type)] ++ optionalText "Default" p.default
    ++ optionalText "Description" p.description)

def Output.toJson (o : Output) : Json :=
  .obj ([("Value", o.value)] ++ optionalText "Description" o.description
    ++ match o.exportName with
      | some name => [("Export", .obj [("Name", name)])]
      | none => [])

namespace Template

variable {α : Type}

def sectionJson (encode : α → Json) (entries : OrderedMap α) : Json :=
  .obj (entries.entries.map fun entry => (entry.1, encode entry.2))

/-- A section that is left out where it is empty. -/
def optionalSection (key : String) (encode : α → Json) (entries : OrderedMap α) : Fields :=
  if entries.isEmpty then [] else [(key, sectionJson encode entries)]

def toJson (t : Template) : Json :=
  .obj ([("AWSTemplateFormatVersion", .str t.formatVersion)]
    ++ optionalText "Description" t.description
    ++ optionalSection "Parameters" Parameter.toJson t.parameters
    ++ [("Resources", sectionJson Resource.toJson t.resources)]
    ++ optionalSection "Outputs" Output.toJson t.outputs
    ++ optionalSection "Rules" id t.rules)

/-- The template as indented JSON text. -/
def render (t : Template) : String := t.toJson.pretty

def resource? (t : Template) (id : String) : Option Resource := t.resources.get? id

/-- The resources of a type with their ids, in order. -/
def resourcesOfType (t : Template) (type : String) : List (String × Resource) :=
  t.resources.entries.filter fun entry => entry.2.type == type

def countOfType (t : Template) (type : String) : Nat := (t.resourcesOfType type).length

end Template

end StackSynth
