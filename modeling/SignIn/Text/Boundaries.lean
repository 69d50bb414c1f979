/-!
# Sets of characters

A set of characters is written as the code points at which it begins and ends, in
turn, so a character is in it when it has passed an odd number of boundaries.
-/

namespace SignIn.Boundaries

/-- How many boundaries a code point has passed. -/
def passed (boundaries : Array Nat) (codePoint : Nat) : Nat :=
  boundaries.foldl (fun n b => if b ≤ codePoint then n + 1 else n) 0

/-- Is the character in the set? -/
def contains (boundaries : Array Nat) (c : Char) : Bool := passed boundaries c.toNat % 2 == 1

end SignIn.Boundaries
