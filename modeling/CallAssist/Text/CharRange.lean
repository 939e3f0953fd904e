/-!
Sets of characters as sorted lists of code point ranges.
-/

namespace CallAssist

abbrev CharRanges := List (Nat × Nat)

def CharRanges.has : CharRanges → Nat → Bool
  | [], _ => false
  | (low, high) :: rest, n => (low ≤ n && n ≤ high) || CharRanges.has rest n

end CallAssist
