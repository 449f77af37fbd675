import Decisioning.Json.Record
import Decisioning.Surface

/-!
# Sessions

Scripts of what happens to a pipeline.

A session is a list of steps. The ids in it are labels of its own: a request
gives a label to whatever id it is issued, and later steps with that label mean
that request. A label that no request has taken is used as an id itself.

A step is written as an object that names its kind under `step`, or as an array
of the kind and the fields in order. Unlike other records it has no defaults,
so every field must be there, and an array must have exactly the right length.

## Main definitions

* `Step`: What can happen.
* `Step.ofRecord?`: Read a step.
* `Session`, `Session.ofRecord?`: A list of steps, and how to read it.
-/

namespace Decisioning

/-- A step of a session. -/
inductive Step where
  /-- Ask for surfaces. -/
  | request (label : String) (surfaces : List String)
  /-- A part of the answer arrives. -/
  | fragment (label : String) (payload : Json)
  /-- The answer is complete. -/
  | complete (label : String)
  /-- Forget surfaces. -/
  | clear (surfaces : List String)
deriving DecidableEq

namespace Step

/-- The names of a kind's fields, in order. -/
def fieldNames? : String → Option (List String)
  | "request" => some ["id", "surfaces"]
  | "fragment" => some ["id", "payload"]
  | "complete" => some ["id"]
  | "clear" => some ["surfaces"]
  | _ => none

/-- The kind of a step and the values of its fields. -/
def parts? : Json → Option (String × List Json)
  | .obj fields => do
      let kind ← (lookup? "step" fields).bind Json.asString?
      let names ← fieldNames? kind
      return (kind, ← names.mapM fun name => lookup? name fields)
  | .arr (.str kind :: values) => some (kind, values)
  | _ => none

/-- A list of strings. -/
def texts? : Json → Option (List String) := Json.listOf? Json.asString?

/-- Read a step. -/
def ofRecord? (value : Json) : Option Step :=
  match parts? value with
  | some ("request", [label, surfaces]) => do
      return request (← label.asString?) (← texts? surfaces)
  | some ("fragment", [label, payload]) => do return fragment (← label.asString?) payload
  | some ("complete", [label]) => label.asString?.map complete
  | some ("clear", [surfaces]) => (texts? surfaces).map clear
  | _ => none

end Step

/-- A list of steps. -/
structure Session where
  steps : List Step
deriving DecidableEq

namespace Session

/-- Read a session. -/
def ofRecord? (value : Json) : Option Session :=
  match value.record? ["steps"] with
  | some [steps] => (required (Json.listOf? Step.ofRecord?) steps).map Session.mk
  | _ => none

end Session

end Decisioning
