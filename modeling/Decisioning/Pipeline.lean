import Decisioning.Interaction
import Decisioning.Request
import Decisioning.Retained
import Decisioning.Store.Durable

/-!
# The Pipeline

From requests to engines: what a host application talks to.

A host asks for the content of surfaces and passes on the fragments in which
the answer arrives. When the answer is complete it is reconciled as a whole: each
requested surface takes what the batch has for it, in every store, and whoever
is concerned is told. Unreadable input and answers to unknown requests are
dropped without a trace.

Of all stores only the persisted one outlives the program. Loading it rebuilds
the rules of the propositions in it, but no other store.

## Main definitions

* `Pipeline`: The stores, the open requests and everything that was sent.
* `Pipeline.request`, `register`, `receive`: Open requests and collect answers.
* `Pipeline.complete`: Close a request and reconcile its batch.
* `Pipeline.clear`: Forget surfaces.
* `Pipeline.load`: Restore what was persisted.
-/

namespace Decisioning

/-- The state of the pipeline of an application. -/
structure Pipeline where
  appId : String
  pending : PendingRequests
  /-- The propositions with in-app rules. -/
  persisted : SurfaceStore Proposition
  codeBased : SurfaceStore Proposition
  cards : SurfaceStore Proposition
  inbox : SurfaceStore Proposition
  retained : Retained
  outbox : Outbox
deriving DecidableEq

/-- The outcome of a completed request. -/
structure BatchReport where
  request : String
  /-- How many propositions arrived. -/
  propositions : Nat
  dispatched : Receipt
deriving DecidableEq, Repr

namespace Pipeline

/-- The pipeline of an application that has just started. -/
def start (appId : String) : Pipeline :=
  { appId, pending := .empty, persisted := .empty, codeBased := .empty, cards := .empty,
    inbox := .empty, retained := .empty, outbox := .empty }

/-- The surfaces that a request for a list of surfaces is about: the valid ones,
    or the default surface for an empty list. -/
def requestedSurfaces (p : Pipeline) (surfaces : List Surface) : SurfaceSet :=
  if surfaces.isEmpty then .ofList [.forApp p.appId]
  else .ofList (surfaces.filter Surface.isValid)

/-- Open a request under an id that was issued elsewhere. -/
def register (p : Pipeline) (id : String) (surfaces : SurfaceSet) : Pipeline :=
  { p with pending := (p.pending.register id surfaces).2 }

/-- Open a request under a fresh id; `none` when there is nothing to ask for. -/
def request (p : Pipeline) (freshId : String) (surfaces : List Surface) : Option Pipeline :=
  let requested := p.requestedSurfaces surfaces
  if requested.isEmpty then none else some (p.register freshId requested)

/-- Take in a fragment; answers whether its request is open. -/
def receive (p : Pipeline) (fragment : Fragment) : Bool × Pipeline :=
  let (accepted, pending) := p.pending.append fragment.request fragment.propositions
  (accepted, { p with pending })

/-- Take in a raw fragment event. -/
def receiveEvent (p : Pipeline) (event : Json) : Bool × Pipeline :=
  match Fragment.ofEvent? event with
  | some fragment => p.receive fragment
  | none => (false, p)

/-- Carry out a plan. -/
def dispatch (p : Pipeline) (plan : DispatchPlan) : Receipt × Pipeline :=
  let (receipt, outbox) := p.outbox.dispatch plan
  (receipt, { p with outbox })

variable {m : Type → Type} [Monad m]

/-- Merge the image of a batch into every store, and plan what to send. -/
def reconcile (p : Pipeline) (home : Home m) (requested : SurfaceSet) (image : BatchImage) :
    m (DispatchPlan × Pipeline) := do
  let (_, persisted) ← home.merge p.persisted requested image.persisted.lists
  let (plan, retained) := p.retained.merge requested image
  return ({ plan with codeBased := image.codeBasedPropositions },
    { p with
      persisted
      codeBased := (p.codeBased.merge requested image.codeBased.lists).2
      cards := (p.cards.merge requested image.cards.lists).2
      inbox := (p.inbox.merge requested image.inbox.lists).2
      retained })

/-- Close a request, reconcile its batch and send out the result; `none` for an
    unknown request. -/
def complete (p : Pipeline) (home : Home m) (id : String) : m (Option BatchReport × Pipeline) := do
  match p.pending.complete id with
  | (none, _) => return (none, p)
  | (some batch, pending) =>
      let image := BatchImage.ofBatch batch.propositions batch.surfaces
      let (plan, p) ← { p with pending }.reconcile home batch.surfaces image
      let (dispatched, p) := p.dispatch plan
      return (some { request := id, propositions := batch.propositions.length, dispatched }, p)

/-- Take in a raw completion event. -/
def completeEvent (p : Pipeline) (home : Home m) (event : Json) :
    m (Option BatchReport × Pipeline) :=
  match completedRequest? event with
  | some id => p.complete home id
  | none => return (none, p)

/-- Forget surfaces in every store, and plan what to send. -/
def forget (p : Pipeline) (home : Home m) (surfaces : SurfaceSet) :
    m (DispatchPlan × Pipeline) := do
  let (_, persisted) ← home.removeSurfaces p.persisted surfaces
  let (plan, retained) := p.retained.removeSurfaces surfaces
  return (plan,
    { p with
      persisted
      codeBased := (p.codeBased.removeSurfaces surfaces).2
      cards := (p.cards.removeSurfaces surfaces).2
      inbox := (p.inbox.removeSurfaces surfaces).2
      retained })

/-- Forget surfaces and send out the result. -/
def clear (p : Pipeline) (home : Home m) (surfaces : List Surface) : m (Receipt × Pipeline) := do
  let (plan, p) ← p.forget home (.ofList surfaces)
  return p.dispatch plan

/-- Restore the persisted store from its home and rebuild its rules, and plan
    what to send. -/
def restore (p : Pipeline) (home : Home m) : m (DispatchPlan × Pipeline) := do
  let (count, persisted) ← home.load p.persisted
  let p := { p with persisted }
  if count = 0 then
    return (.nothing, p)
  else
    let surfaces := persisted.surfaceSet
    let image := BatchImage.ofBatch persisted.flatten surfaces
    let (plan, retained) := p.retained.merge surfaces image
    return (plan, { p with retained })

/-- Restore what was persisted and send out the result. -/
def load (p : Pipeline) (home : Home m) : m (Receipt × Pipeline) := do
  let (plan, p) ← p.restore home
  return p.dispatch plan

/-- The code-based propositions of those of the given surfaces that have any. -/
def propositionsFor (p : Pipeline) (surfaces : List Surface) : SurfaceLists Proposition :=
  .ofList ((surfaces.filter p.codeBased.contains).map fun s => (s.uri, p.codeBased.get s))

/-- The content cards of a surface. -/
def contentCards (p : Pipeline) (s : Surface) : List Proposition := p.cards.get s

/-- The inbox containers of a surface. -/
def inboxContainers (p : Pipeline) (s : Surface) : List Proposition := p.inbox.get s

/-- The tracking record for the id of an item or a rule. -/
def trackingRecord? (p : Pipeline) (id : String) : Option TrackingRecord :=
  p.retained.tracking.get? id

/-- The document for an interaction with an item that is known by its id. -/
def interactionDocument? (p : Pipeline) (event : EdgeEvent) (label : Option String) (id : String)
    (tokens : List String) : Option Json :=
  (p.trackingRecord? id).map fun record =>
    (Interaction.forRecord event label id record tokens).document

end Pipeline

end Decisioning
