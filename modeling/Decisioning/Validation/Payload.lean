import Decisioning.Content.Schema
import Decisioning.Validation

/-!
# Well-Formed Payloads

What a payload has to look like for everything in it to be understood.

A payload is an array of propositions, a proposition has items, and the data of
an item depends on the schema that the item declares. A condition on the
declared schema also applies where no schema is declared at all; what it asks is
then asked of such an item too.

## Main definitions

* `Check.proposition`, `Check.item`, `Check.ruleset`: The parts of a payload.
* `Check.payload`: A whole payload.
* `IsWellFormedPayload`: Payloads with nothing wrong.
-/

namespace Decisioning

namespace Check

/-- A consequence of a rule. -/
def consequence : Check :=
  all [
    field "detail" (all [
      field "data" (kind .object []),
      field "id" (kind .string []),
      field "schema" (kind .string []),
      kind .object []]),
    field "id" (kind .string []),
    field "type" (kind .string []),
    required "id", required "type", required "detail",
    kind .object []]

/-- A rule. -/
def rule : Check :=
  all [
    field "condition" (kind .object []),
    field "consequences" (all [items consequence, kind .array []]),
    required "condition", required "consequences",
    kind .object []]

/-- The data of a ruleset. -/
def ruleset : Check :=
  all [
    field "rules" (all [items rule, kind .array []]),
    field "version" (kind .integer []),
    kind .object []]

/-- The data of content that is used as it is, the content being of one of some
    kinds. -/
def content (first : Kind) (others : List Kind) : Check :=
  all [
    field "content" (kind first others),
    field "format" (kind .string []),
    required "content",
    kind .object []]

/-- An item. -/
def item : Check :=
  all [
    whenField "schema" ContentSchema.ruleset.uri (field "data" ruleset),
    whenField "schema" ContentSchema.htmlContent.uri
      (all [field "data" (content .string []), required "data"]),
    whenField "schema" ContentSchema.jsonContent.uri
      (all [field "data" (content .array [.object]), required "data"]),
    field "data" (kind .object []),
    field "id" (all [nonempty, kind .string []]),
    field "schema" (kind .string []),
    required "id", required "schema",
    kind .object []]

/-- The details of a proposition's scope. -/
def scopeDetails : Check :=
  all [
    field "activity" (all [
      field "id" (kind .string []),
      field "priority" (kind .integer []),
      kind .object []]),
    field "characteristics" (kind .object []),
    field "correlationID" (kind .string []),
    field "decisionProvider" (kind .string []),
    field "rank" (kind .integer []),
    kind .object []]

/-- A proposition. -/
def proposition : Check :=
  all [
    field "id" (all [nonempty, kind .string []]),
    field "items" (all [items item, kind .array []]),
    field "scope" (all [surface, kind .string []]),
    field "scopeDetails" scopeDetails,
    required "id", required "scope", required "items",
    kind .object []]

/-- A payload. -/
def payload : Check := all [items proposition, kind .array []]

end Check

/-- A payload with nothing wrong. -/
def IsWellFormedPayload (value : Json) : Prop := Check.payload value = []

instance (value : Json) : Decidable (IsWellFormedPayload value) :=
  inferInstanceAs (Decidable (Check.payload value = []))

end Decisioning
