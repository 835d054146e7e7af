/-!
# Sets of characters

A set of characters, given by the code points at which membership changes.
-/

namespace BundleInspect.Text

/-- The turns rise; before the first of them nothing belongs to the set. -/
structure CharSet where
  turns : List Nat

/-- The members lie after an odd number of turns. -/
def CharSet.contains (s : CharSet) (c : Char) : Bool :=
  (s.turns.takeWhile (· ≤ c.toNat)).length % 2 == 1

end BundleInspect.Text
