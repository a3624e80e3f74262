/-!
# Sets of characters as ranges of code points

The character tables of this library are ascending lists of inclusive ranges, listed from the
end of ASCII on; a class states its ASCII part itself.
-/

namespace ApiContract.Text

/-- Whether a code point lies in one of the ascending inclusive ranges. -/
def inRanges : List (Nat × Nat) → Nat → Bool
  | [], _ => false
  | (low, high) :: rest, n => if n < low then false else n ≤ high || inRanges rest n

/-- Whether a code point lies in one of the ascending progressions `(first, last, step)`. -/
def inProgressions : List (Nat × Nat × Nat) → Nat → Bool
  | [], _ => false
  | (first, last, step) :: rest, n =>
    if n < first then false
    else (n ≤ last && (n - first) % step == 0) || inProgressions rest n

end ApiContract.Text
