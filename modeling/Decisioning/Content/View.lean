import Decisioning.Content.MediaType
import Decisioning.Proposition

/-!
# Typed Content

What the free-form data of items and rule consequences means, kind by kind.

Each reader answers `none` when the data lacks something that its kind cannot
do without. Facts that are optional, such as dates and titles, are simply
absent when they have another type.

## Main definitions

* `RulesetDocument`, `HtmlContent`, `JsonContent`: The content of items.
* `Message`: What in-app messages and content cards have in common.
* `InAppMessage`, `ContentCard`, `HistoryOperation`: The data of consequences.
-/

namespace Decisioning

/-- A document of the rule language. -/
structure RulesetDocument where
  version : Int
  rules : List Json
deriving DecidableEq, Repr

/-- Read the document of a ruleset item. It must have a list of rules; the
    version is 1 unless it is given as an integer. -/
def RulesetDocument.ofItem? (item : Item) : Option RulesetDocument :=
  if item.schema = .ruleset then
    (item.data.array? "rules").map fun rules =>
      { version := ((item.data.get? "version").bind Json.asInt64?).getD 1, rules }
  else
    none

/-- The format named by the data of an item, or a default if none is named. -/
def declaredFormat (default : MediaType) (data : Json) : MediaType :=
  ((data.string? "format").map MediaType.ofName).getD default

/-- Text that is shown as it is. -/
structure HtmlContent where
  content : String
  format : MediaType
deriving DecidableEq, Repr

/-- Read the text of an html item. -/
def HtmlContent.ofItem? (item : Item) : Option HtmlContent :=
  if item.schema = .htmlContent then
    (item.data.string? "content").map fun content =>
      { content, format := declaredFormat .textHtml item.data }
  else
    none

/-- Structured data that is used as it is. -/
structure JsonContent where
  content : Json
  format : MediaType
deriving DecidableEq, Repr

/-- Read the data of a json item, which is an object or an array. -/
def JsonContent.ofItem? (item : Item) : Option JsonContent :=
  if item.schema = .jsonContent then
    ((item.data.get? "content").filter fun c => c.isObject || c.isArray).map fun content =>
      { content, format := declaredFormat .applicationJson item.data }
  else
    none

/-- What in-app messages and content cards have in common. -/
structure Message where
  content : Json
  contentType : MediaType
  publishedDate : Option Int
  expiryDate : Option Int
  /-- Free-form facts about the message. -/
  facts : Option Fields
deriving DecidableEq, Repr

/-- Read a message. JSON content must be an object, all other content a string. -/
def Message.ofData? (data : Json) : Option Message := do
  let contentType := MediaType.ofName (← data.string? "contentType")
  let content ← data.get? "content"
  let wellFormed :=
    if contentType = .applicationJson then content.isObject else content.isString
  if wellFormed then
    return {
      content
      contentType
      publishedDate := (data.get? "publishedDate").bind Json.asInt64?
      expiryDate := (data.get? "expiryDate").bind Json.asInt64?
      facts := data.object? "meta" }
  else
    none

/-- A message shown inside the application. -/
structure InAppMessage where
  message : Message
  mobileParameters : Option Fields
  webParameters : Option Fields
  /-- The addresses of the files that the message needs. -/
  remoteAssets : List String
deriving DecidableEq, Repr

/-- Read an in-app message; assets that are not strings are dropped. -/
def InAppMessage.ofData? (data : Json) : Option InAppMessage :=
  (Message.ofData? data).map fun message =>
    { message
      mobileParameters := data.object? "mobileParameters"
      webParameters := data.object? "webParameters"
      remoteAssets := ((data.array? "remoteAssets").getD []).filterMap Json.asString? }

/-- A card in a feed. -/
structure ContentCard where
  message : Message
deriving DecidableEq, Repr

/-- Read a content card. -/
def ContentCard.ofData? (data : Json) : Option ContentCard :=
  (Message.ofData? data).map ContentCard.mk

/-- The title of a card whose content is an object: either the title itself is
    a string, or it has one as its content. -/
def ContentCard.title? (card : ContentCard) : Option String := do
  let title ← card.message.content.get? "title"
  ((title.get? "content").getD title).asString?

/-- A request to write or look up event history. -/
structure HistoryOperation where
  operation : String
  eventType : Option String
  messageId : Option String
deriving DecidableEq, Repr

/-- The key of the event type in event history. -/
def historyEventType : String := "iam.eventType"

/-- The key of the message id in event history. -/
def historyMessageId : String := "iam.id"

/-- The key of the action label in event history. -/
def historyAction : String := "iam.action"

/-- Read a history operation. -/
def HistoryOperation.ofData? (data : Json) : Option HistoryOperation := do
  let operation ← data.string? "operation"
  let content ← data.object? "content"
  return {
    operation
    eventType := (lookup? historyEventType content).bind Json.asString?
    messageId := (lookup? historyMessageId content).bind Json.asString? }

end Decisioning
