import Decisioning.Proposition
import Decisioning.Surface.Set

/-!
# Pending Requests

The requests whose response streams are still open, each with what has arrived
for it so far.

Requests are told apart by their ids alone, so a step on one id never touches
another. A request that is registered again starts over and forgets what had
arrived; an answer to a request that is not pending changes nothing.

## Main definitions

* `PendingRequest`, `PendingRequests`: An open request, and all of them.
* `PendingRequests.register`, `PendingRequests.append`,
  `PendingRequests.complete`: Open a request, add to it, close it.
* `Batch`: What a closed request hands over.
-/

namespace Decisioning

/-- An open request. -/
structure PendingRequest where
  surfaces : SurfaceSet
  /-- What has arrived, in order of arrival. -/
  propositions : List Proposition
  /-- In how many parts it arrived. -/
  fragments : Nat
deriving DecidableEq

/-- What a request has received when it is closed. -/
structure Batch where
  request : String
  surfaces : SurfaceSet
  propositions : List Proposition
deriving DecidableEq

/-- The open requests, by id. -/
structure PendingRequests where
  requests : SortedMap PendingRequest
deriving DecidableEq

namespace PendingRequests

/-- No request. -/
def empty : PendingRequests := ⟨.empty⟩

instance : Inhabited PendingRequests := ⟨empty⟩

/-- The open request with an id. -/
def get? (pending : PendingRequests) (id : String) : Option PendingRequest :=
  pending.requests.get? id

/-- The number of open requests. -/
def count (pending : PendingRequests) : Nat := pending.requests.size

/-- Open a request, in place of one with the same id; answers whether there was
    one. -/
def register (pending : PendingRequests) (id : String) (surfaces : SurfaceSet) :
    Bool × PendingRequests :=
  (pending.requests.contains id,
    ⟨pending.requests.insert id { surfaces, propositions := [], fragments := 0 }⟩)

/-- Add a part of the answer to a request; answers whether it is open. -/
def append (pending : PendingRequests) (id : String) (propositions : List Proposition) :
    Bool × PendingRequests :=
  match pending.get? id with
  | none => (false, pending)
  | some request =>
      (true, ⟨pending.requests.insert id {
        request with
        propositions := request.propositions ++ propositions
        fragments := request.fragments + 1 }⟩)

/-- Close a request and hand over what it received. -/
def complete (pending : PendingRequests) (id : String) : Option Batch × PendingRequests :=
  match pending.get? id with
  | none => (none, pending)
  | some request =>
      (some { request := id, surfaces := request.surfaces, propositions := request.propositions },
        ⟨pending.requests.erase id⟩)

end PendingRequests

end Decisioning
