/-!
# Content Schemas

The kinds of content that an item of a proposition can declare.

The kind is declared as a URI below a common base. Anything that is not one of
the known URIs, letter for letter, is unknown, and unknown items are dropped
where content is placed.

## Main definitions

* `ContentSchema`: The kinds of content.
* `ContentSchema.classify`: The kind that a URI declares.
* `ContentSchema.uri`: The URI of a kind.
-/

namespace Decisioning

/-- The kinds of content, in the order in which they are listed. -/
inductive ContentSchema where
  | ruleset
  | htmlContent
  | jsonContent
  | defaultContent
  | container
  | feed
  | contentCard
  | inApp
  | eventHistoryOperation
  | nativeAlert
  | unknown
deriving DecidableEq, Repr, Inhabited

namespace ContentSchema

/-- The base of all schema URIs. -/
def base : String := "https://ns.adobe.com/personalization/"

/-- All kinds, in order. -/
def all : List ContentSchema :=
  [.ruleset, .htmlContent, .jsonContent, .defaultContent, .container, .feed, .contentCard,
    .inApp, .eventHistoryOperation, .nativeAlert, .unknown]

/-- The URI of a kind; an unknown kind has the empty one. -/
def uri : ContentSchema → String
  | .ruleset => base ++ "ruleset-item"
  | .htmlContent => base ++ "html-content-item"
  | .jsonContent => base ++ "json-content-item"
  | .defaultContent => base ++ "default-content-item"
  | .container => base ++ "container-item"
  | .feed => base ++ "message/feed-item"
  | .contentCard => base ++ "message/content-card"
  | .inApp => base ++ "message/in-app"
  | .eventHistoryOperation => base ++ "eventHistoryOperation"
  | .nativeAlert => base ++ "message/native-alert"
  | .unknown => ""

/-- The kind that a URI declares. -/
def classify (declared : String) : ContentSchema :=
  (all.find? fun schema => schema ≠ .unknown && schema.uri = declared).getD .unknown

/-- How a kind is named to a reader: by its URI, if it has one. -/
def label : ContentSchema → String
  | .unknown => "unknown"
  | schema => schema.uri

/-- Whether the content is used as it is, without evaluating rules. -/
def isCodeBased : ContentSchema → Bool
  | .htmlContent | .jsonContent | .defaultContent => true
  | _ => false

end ContentSchema

end Decisioning
