/-! Sets of characters given as ranges of code points. -/
namespace Screenwright.Text

/-- The code points from `first` to `last`, ends included. -/
structure CharRange where
  first : Nat
  last : Nat

def CharRange.contains (r : CharRange) (c : Char) : Bool :=
  r.first ≤ c.toNat && c.toNat ≤ r.last

def inRanges (rs : Array CharRange) (c : Char) : Bool := rs.any (·.contains c)

end Screenwright.Text
