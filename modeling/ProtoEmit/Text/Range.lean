/-
  Classes of characters, given by ranges of code points.
-/

namespace ProtoEmit.Text

/-- Membership in a list of inclusive ranges of code points. -/
def inRanges (ranges : List (Nat × Nat)) (c : Char) : Bool :=
  ranges.any fun r => decide (r.1 ≤ c.toNat) && decide (c.toNat ≤ r.2)

end ProtoEmit.Text
