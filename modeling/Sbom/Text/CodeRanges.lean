/-!
# Sets of code points

A character property is stored as its closed code point ranges, in ascending order. This module
holds the membership test that every property table shares.
-/

namespace Sbom.Text

/-- Whether `code` lies in one of the closed ranges. -/
def inRanges (ranges : Array (Nat × Nat)) (code : Nat) : Bool :=
  ranges.any fun range => range.1 ≤ code && code ≤ range.2

end Sbom.Text
