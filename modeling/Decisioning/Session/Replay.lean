import Decisioning.Listing
import Decisioning.Session

/-!
# Replaying Sessions

What a session does to a pipeline, and the log of it.

The ids of requests come from a supply: request number n gets the supply's id
number n. Nothing in the log shows an id, only the labels of the session.

## Main definitions

* `StepReport`: What came of a step.
* `Replay`: The state between two steps.
* `Replay.step`, `Replay.run`: One step, and all steps.
* `SessionReport`: What came of a whole session.
* `Session.replay`: Restore what was persisted, then take all steps.
-/

namespace Decisioning

/-- What came of a step. -/
inductive StepReport where
  /-- A request; `given` counts the surfaces in the session. -/
  | request (label : String) (given : Nat) (registered : Bool)
  | fragment (label : String) (accepted : Bool)
  /-- A completion; there is no report for an unknown request. -/
  | complete (label : String) (report : Option BatchReport)
  | clear (surfaces : List String) (dispatched : Receipt)
deriving DecidableEq

namespace StepReport

/-- One line about a step. -/
def summary : StepReport → String
  | request label given true => "request " ++ label ++ ": " ++ toString given ++ " surfaces"
  | request label _ false => "request " ++ label ++ ": no valid surfaces"
  | fragment label true => "fragment " ++ label ++ ": accepted"
  | fragment label false => "fragment " ++ label ++ ": dropped"
  | complete label (some report) =>
      "complete " ++ label ++ ": " ++ toString report.propositions ++ " propositions"
  | complete label none => "complete " ++ label ++ ": unknown request"
  | clear surfaces _ => "clear: " ++ toString surfaces.length ++ " surfaces"

/-- The written form of a report. -/
def toJson (report : StepReport) : Json :=
  let summary := ("summary", Json.str report.summary)
  match report with
  | request label _ registered =>
      .obj [("id", .str label), ("registered", .bool registered), ("step", .str "request"), summary]
  | fragment label accepted =>
      .obj [("accepted", .bool accepted), ("id", .str label), ("step", .str "fragment"), summary]
  | complete label (some report) =>
      .obj [("dispatched", report.dispatched.toJson), ("id", .str label),
        ("propositions", .nat report.propositions), ("step", .str "complete"), summary]
  | complete label none =>
      .obj [("dispatched", .null), ("id", .str label), ("step", .str "complete"), summary]
  | clear surfaces dispatched =>
      .obj [("dispatched", dispatched.toJson), ("step", .str "clear"), summary,
        ("surfaces", .strings surfaces)]

end StepReport

/-- A pipeline in the course of a session. -/
structure Replay where
  pipeline : Pipeline
  /-- The ids that labels stand for. -/
  labels : SortedMap String
  /-- How many ids were issued. -/
  issued : Nat
deriving DecidableEq

namespace Replay

/-- The pipeline at the start of a session. -/
def start (p : Pipeline) : Replay := { pipeline := p, labels := .empty, issued := 0 }

/-- The id that a label stands for. -/
def idOf (r : Replay) (label : String) : String := (r.labels.get? label).getD label

/-- Take a request. -/
def request (supply : Nat → String) (r : Replay) (label : String) (surfaces : List String) :
    StepReport × Replay :=
  let id := supply r.issued
  match r.pipeline.request id (surfaces.map Surface.mk) with
  | some pipeline =>
      (.request label surfaces.length true,
        { pipeline, labels := r.labels.insert label id, issued := r.issued + 1 })
  | none => (.request label surfaces.length false, r)

/-- Take a fragment. -/
def fragment (r : Replay) (label : String) (payload : Json) : StepReport × Replay :=
  let (accepted, pipeline) := r.pipeline.receiveEvent (Fragment.event (r.idOf label) payload)
  (.fragment label accepted, { r with pipeline })

variable {m : Type → Type} [Monad m]

/-- Take a step. -/
def step (home : Home m) (supply : Nat → String) (r : Replay) : Step → m (StepReport × Replay)
  | .request label surfaces => pure (r.request supply label surfaces)
  | .fragment label payload => pure (r.fragment label payload)
  | .complete label => do
      let (report, pipeline) ← r.pipeline.completeEvent home (completionEvent (r.idOf label))
      return (.complete label report, { r with pipeline })
  | .clear surfaces => do
      let (receipt, pipeline) ← r.pipeline.clear home (surfaces.map Surface.mk)
      return (.clear surfaces receipt, { r with pipeline })

/-- Take all steps of a list. -/
def run (home : Home m) (supply : Nat → String) (r : Replay) :
    List Step → m (List StepReport × Replay)
  | [] => pure ([], r)
  | s :: rest => do
      let (report, r) ← r.step home supply s
      let (reports, r) ← r.run home supply rest
      return (report :: reports, r)

end Replay

/-- What came of a session. -/
structure SessionReport where
  steps : List StepReport
  /-- The ids of the rules in every call of the in-app engine. -/
  inAppCalls : List (List String)
  /-- The ids of the rules in every call of the card engine. -/
  cardCalls : List (List String)
  /-- The ids of the propositions that listeners were told about. -/
  notices : List (List String)
  listing : Listing
  /-- How many requests are still open. -/
  pending : Nat
deriving DecidableEq

namespace SessionReport

/-- The report on a pipeline after some steps. -/
def ofPipeline (steps : List StepReport) (p : Pipeline) : SessionReport :=
  { steps
    inAppCalls := p.outbox.inApp.map fun rules => rules.map Rule.id
    cardCalls := p.outbox.cards.map fun rules => rules.map Rule.id
    notices := p.outbox.notices.map fun ps => ps.map Proposition.id
    listing := .ofPipeline p
    pending := p.pending.count }

/-- Lists of ids as a value. -/
def listsJson (lists : List (List String)) : Json := .arr (lists.map Json.strings)

/-- The written form of a report. -/
def toJson (r : SessionReport) : Json :=
  .obj [("engines", .obj [("content_cards", listsJson r.cardCalls),
      ("in_app", listsJson r.inAppCalls)]),
    ("notifications", listsJson r.notices),
    ("pending_requests", .nat r.pending),
    ("steps", .arr (r.steps.map StepReport.toJson)),
    ("stores", .obj r.listing.fields)]

end SessionReport

/-- Replay a session: start a pipeline, restore what was persisted, and take all
    steps. -/
def Session.replay {m : Type → Type} [Monad m] (session : Session) (appId : String)
    (home : Home m) (supply : Nat → String) : m SessionReport := do
  let (_, p) ← (Pipeline.start appId).load home
  let (steps, replay) ← (Replay.start p).run home supply session.steps
  return .ofPipeline steps replay.pipeline

end Decisioning
