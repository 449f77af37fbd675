import Decisioning.CommandLine.Arguments
import Decisioning.Listing
import Decisioning.Session.Replay
import Decisioning.Validation

/-!
# Outcomes of Commands

What a command prints, and with which code it ends.

A command succeeds with a response, which has a form for each format, or it
fails. Being quiet suppresses every response and every message; only the list
of what is wrong with a payload is printed in JSON even then.

## Main definitions

* `Response`: What a command that succeeds has to say.
* `Failure`: Why a command fails.
* `Outcome`, `Outcome.ofResult`: The exit code and the two outputs.
* `Response.ofSummary`, `Response.ofSession`: The responses to payloads and
  sessions.
-/

namespace Decisioning

namespace CommandLine

/-- What a command that succeeds has to say, in each format. -/
abbrev Response := Format → String

/-- Why a command fails. -/
inductive Failure where
  /-- For a reason that one line tells. -/
  | because (message : String)
  /-- The payload is not well formed. -/
  | invalidPayload (violations : List Violation)
deriving DecidableEq

/-- The exit code and the outputs of a run. -/
structure Outcome where
  code : Nat
  output : String
  errors : String
deriving DecidableEq, Repr

/-- Lines as a text. -/
def unlines (lines : List String) : String :=
  String.join (lines.map fun line => line ++ "\n")

/-- A value in one line. -/
def compactLine (value : Json) : String := value.compact ++ "\n"

/-- A value in its indented form. -/
def prettyLines (value : Json) : String := value.pretty ++ "\n"

namespace Failure

/-- What is printed about a failure. -/
def report (quiet : Bool) : Failure → Format → String
  | .because message, .text => if quiet then "" else message ++ "\n"
  | .because message, .json =>
      if quiet then "" else compactLine (.obj [("error", .str message)])
  | .invalidPayload violations, .text =>
      if quiet then ""
      else unlines ("invalid payload" :: violations.map fun v => "  - " ++ v.message)
  | .invalidPayload violations, .json =>
      prettyLines (.obj [("errors", .strings (violations.map Violation.message)),
        ("valid", .bool false)])

end Failure

namespace Outcome

/-- The outcome of a command. -/
def ofResult (options : Options) : Except Failure Response → Outcome
  | .ok response =>
      { code := 0, output := if options.quiet then "" else response options.format, errors := "" }
  | .error failure =>
      { code := 1, output := "", errors := failure.report options.quiet options.format }

end Outcome

/-- The lines about the ids in a store. -/
def listingLines (label : String) (lists : SurfaceLists String) : List String :=
  (label ++ ":") ::
    if lists.isEmpty then ["  (none)"]
    else lists.entries.map fun entry =>
      "  " ++ entry.1 ++ " -> " ++ String.intercalate ", " entry.2

/-- The lines about numbered lists of ids. -/
def numberedLines (label : String) (lists : List (List String)) : List String :=
  (label ++ ": " ++ toString lists.length) ::
    lists.zipIdx.map fun entry =>
      "  #" ++ toString (entry.2 + 1) ++ ": " ++ String.intercalate ", " entry.1

namespace Response

/-- The response to a payload that is summarized. -/
def ofSummary (s : BatchSummary) : Response
  | .text => unlines (
      [toString s.propositions ++ " propositions read, " ++ toString s.inScope ++ " in scope",
        "in-app rules: " ++ toString s.inAppRules,
        "content-card rules: " ++ toString s.cardRules,
        "event-history rules: " ++ toString s.historyRules]
      ++ listingLines "persisted" s.listing.persisted
      ++ listingLines "code-based" s.listing.codeBased
      ++ listingLines "content cards" s.listing.cards
      ++ listingLines "inbox" s.listing.inbox)
  | .json => prettyLines s.toJson

/-- The response to a payload that is well formed. -/
def wellFormed : Response
  | .text => "valid\n"
  | .json => "\x7b\"valid\": true\x7d\n"

/-- The response to a session that is replayed. -/
def ofSession (r : SessionReport) : Response
  | .text => unlines (
      r.steps.map StepReport.summary
      ++ numberedLines "in-app engine calls" r.inAppCalls
      ++ numberedLines "content-card engine calls" r.cardCalls
      ++ numberedLines "notifications" r.notices
      ++ listingLines "code_based" r.listing.codeBased
      ++ listingLines "content_cards" r.listing.cards
      ++ listingLines "inbox" r.listing.inbox
      ++ listingLines "persisted" r.listing.persisted)
  | .json => prettyLines r.toJson

/-- The response about a cache in a directory that holds nothing. -/
def nothingCached (directory : String) : Response
  | .text => "no cached propositions in '" ++ directory ++ "'\n"
  | .json => compactLine (.obj [("cached", .bool false)])

/-- The response about what is cached. -/
def ofEntry (entry : CacheEntry) : Response :=
  let lists := (SurfaceStore.ofSnapshot entry.data).idLists
  fun
  | .text => unlines (listingLines "cached" lists)
  | .json => prettyLines (.obj [("cached", .bool true),
      ("metadata", .obj (entry.metadata.map Json.str).entries),
      ("surfaces", idListsJson lists)])

/-- The response to dropping what is cached. -/
def cleared : Response
  | .text => "cleared\n"
  | .json => compactLine (.obj [("cleared", .bool true)])

end Response

end CommandLine

end Decisioning
