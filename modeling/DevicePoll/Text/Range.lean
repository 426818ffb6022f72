/-! Classes of characters that are given by ranges of code points. -/
namespace DevicePoll.Text

/-- A character lies in one of some ranges, both ends included. -/
def inRanges (ranges : List (Nat × Nat)) (c : Char) : Bool :=
  ranges.any fun r => r.1 ≤ c.toNat && c.toNat ≤ r.2

end DevicePoll.Text
