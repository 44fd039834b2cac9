import DataAccess.Value

/-!
# Parameters

The values bound to the parameter markers of a query, in marker order.
-/

namespace DataAccess

/-- Values in marker order. -/
structure Params where
  /-- The values. -/
  toList : List Value := []
deriving Inhabited

namespace Params

/-- No values. -/
def empty : Params := {}

/-- The number of values. -/
def size (p : Params) : Nat := p.toList.length

/-- Whether there are no values. -/
def isEmpty (p : Params) : Bool := p.toList.isEmpty

/-- The value of the marker with the given position. -/
def get? (p : Params) (position : Nat) : Option Value := p.toList[position]?

end Params

end DataAccess
