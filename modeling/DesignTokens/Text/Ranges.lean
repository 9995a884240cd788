/-!
# Sets of characters as ranges

A property of characters beyond ASCII is kept as closed ranges of code points, ascending and
apart. `inRanges` looks a code point up.
-/

namespace DesignTokens.Text

/-- Whether a code point lies in one of the closed ranges. -/
def inRanges (ranges : List (Nat × Nat)) (code : Nat) : Bool :=
  ranges.any fun range => range.1 ≤ code && code ≤ range.2

/-- The ranges ascend and do not touch. -/
def apart : List (Nat × Nat) → Bool
  | [] => true
  | [range] => range.1 ≤ range.2
  | range :: next :: rest => range.1 ≤ range.2 && range.2 + 1 < next.1 && apart (next :: rest)

end DesignTokens.Text
