/-!
# Ranges: sets of characters as sorted lists of code point intervals

The tables of this folder state properties of Unicode as closed intervals of code points, in
increasing order and apart from each other.  The edition is 17.0, but for display widths.
-/

namespace Scriptlet.Text

/-- closed intervals of code points, in increasing order -/
abbrev Ranges := List (Nat × Nat)

/-- Membership; the search ends at the first interval that starts beyond `n`. -/
def Ranges.covers : Ranges → Nat → Bool
  | [], _ => false
  | (lo, hi) :: rest, n => decide (lo ≤ n) && (decide (n ≤ hi) || Ranges.covers rest n)

theorem Ranges.covers_cons (lo hi : Nat) (rest : Ranges) (n : Nat) :
    Ranges.covers ((lo, hi) :: rest) n
      = (decide (lo ≤ n) && (decide (n ≤ hi) || Ranges.covers rest n)) := rfl

end Scriptlet.Text
