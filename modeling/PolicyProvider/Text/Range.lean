/-!
# Range — sets of characters given by ranges of code points

A table of characters is a list of closed ranges, both ends included.
-/
namespace PolicyProvider

def inRanges (ranges : List (Nat × Nat)) (c : Char) : Bool :=
  ranges.any (fun r => decide (r.1 ≤ c.toNat) && decide (c.toNat ≤ r.2))

end PolicyProvider
