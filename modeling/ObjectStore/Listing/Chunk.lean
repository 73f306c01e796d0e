/-!
# Chunks of listings

A listing arrives in pages.  A chunk is what one page, or several pages put together, hold:
items, common prefixes, and where to go on if there is more.
-/

namespace ObjectStore.Listing

/-- Where a listing goes on.  Listings by name and version use both markers. -/
structure Markers where
  primary : Option String := none
  secondary : Option String := none
  deriving Repr, DecidableEq

/-- Items with the markers after which the listing goes on if it is truncated. -/
structure Chunk (α : Type) where
  items : List α := []
  commonPrefixes : List String := []
  truncated : Bool := false
  next : Markers := {}
  deriving Repr

/-- A chunk that is not truncated carries no markers. -/
def Chunk.settle {α : Type} (c : Chunk α) : Chunk α :=
  if c.truncated then c else { c with next := {} }

end ObjectStore.Listing
