/-!
# Classes of characters as ranges

A class of characters that is given by a table: closed ranges of code points, in ascending order.
-/

namespace TwinSyntax

/-- Whether `c` lies in one of the closed ranges. -/
def inRanges (ranges : Array (Nat × Nat)) (c : Char) : Bool :=
  ranges.any fun (first, last) => first ≤ c.toNat && c.toNat ≤ last

end TwinSyntax
