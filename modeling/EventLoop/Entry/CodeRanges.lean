/-!
# Ranges of code points

A property of characters is given by the ranges of code points that have it, each with its first and
its last one.
-/
namespace EventLoop.Entry

/-- Ranges of code points; both ends belong to a range. -/
abbrev CodeRanges := List (Nat × Nat)

namespace CodeRanges

/-- Whether a character lies in one of the ranges. -/
def holds (ranges : CodeRanges) (c : Char) : Bool :=
  ranges.any fun range => range.1 ≤ c.toNat && c.toNat ≤ range.2

end CodeRanges

end EventLoop.Entry
