/-!
# Ranges of code points

A character class outside ASCII is a table of closed ranges.
-/

namespace Checkup.Text

def inRanges (ranges : Array (Nat × Nat)) (n : Nat) : Bool :=
  ranges.any fun (low, high) => low ≤ n && n ≤ high

end Checkup.Text
