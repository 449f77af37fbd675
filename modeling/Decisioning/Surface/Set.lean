import Decisioning.SortedMap
import Decisioning.Surface

/-!
# Sets of Surfaces

What a request asks for: finitely many surfaces, in URI order and each once.

## Main definitions

* `SurfaceSet`: A set of surfaces.
* `SurfaceSet.ofList`, `SurfaceSet.toList`: From and to lists.
-/

namespace Decisioning

/-- A finite set of surfaces. -/
structure SurfaceSet where
  /-- The URIs of the members. -/
  members : SortedMap Unit
deriving DecidableEq

namespace SurfaceSet

instance : Inhabited SurfaceSet := ⟨⟨.empty⟩⟩

/-- The set of the surfaces of a list. -/
def ofList (surfaces : List Surface) : SurfaceSet :=
  ⟨.ofList (surfaces.map fun s => (s.uri, ()))⟩

/-- The members in URI order. -/
def toList (set : SurfaceSet) : List Surface := set.members.keys.map Surface.mk

/-- Whether a surface is a member. -/
def contains (set : SurfaceSet) (s : Surface) : Bool := set.members.contains s.uri

instance : Membership Surface SurfaceSet := ⟨fun set s => set.contains s = true⟩

instance (s : Surface) (set : SurfaceSet) : Decidable (s ∈ set) :=
  inferInstanceAs (Decidable (set.contains s = true))

/-- The number of members. -/
def size (set : SurfaceSet) : Nat := set.members.size

/-- Whether there is no member. -/
def isEmpty (set : SurfaceSet) : Bool := set.members.isEmpty

end SurfaceSet

end Decisioning
