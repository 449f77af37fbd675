/-!
# Media Types

The formats in which message and code-based content is carried.

## Main definitions

* `MediaType`: The formats.
* `MediaType.ofName`, `MediaType.name`: From and to their names.
-/

namespace Decisioning

/-- The format of a piece of content. -/
inductive MediaType where
  | applicationJson
  | textHtml
  | textXml
  | textPlain
  | unknown
deriving DecidableEq, Repr, Inhabited

namespace MediaType

/-- The format with a given name. -/
def ofName : String → MediaType
  | "application/json" => .applicationJson
  | "text/html" => .textHtml
  | "text/xml" => .textXml
  | "text/plain" => .textPlain
  | _ => .unknown

/-- The name of a format; an unknown one has the empty name. -/
def name : MediaType → String
  | .applicationJson => "application/json"
  | .textHtml => "text/html"
  | .textXml => "text/xml"
  | .textPlain => "text/plain"
  | .unknown => ""

end MediaType

end Decisioning
