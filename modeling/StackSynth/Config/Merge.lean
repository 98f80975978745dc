import StackSynth.Json.Basic

/-!
Laying one JSON document over another: objects are merged field by field, anything else is replaced.
-/
namespace StackSynth.Json

mutual

def merge (base : Json) : Json → Json
  | .obj upper =>
    match base with
    | .obj fields => .obj (mergeFields fields upper)
    | _ => .obj upper
  | upper => upper

def mergeFields (base : Fields) : List (String × Json) → Fields
  | [] => base
  | (key, value) :: rest =>
    let merged := match Fields.get? key base with
      | some existing => merge existing value
      | none => value
    mergeFields (Fields.insert key merged base) rest

end

end StackSynth.Json
