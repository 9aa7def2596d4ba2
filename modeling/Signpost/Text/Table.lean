/-!
# Tables of code point ranges

A character property is written down as the ranges of code points that have it, in ascending order.
ASCII is left to the property's own definition, so that a table starts above it.
-/
namespace Signpost.Text

/-- The code point lies in one of the ranges, both ends included. -/
def inRanges (ranges : Array (Nat × Nat)) (code : Nat) : Bool :=
  ranges.any fun range => range.1 ≤ code && code ≤ range.2

end Signpost.Text
