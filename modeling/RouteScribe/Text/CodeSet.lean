/-
Module: RouteScribe.Text.CodeSet
Layer: Text
Purpose: Sets of characters given by the code points at which membership changes. A standard lists a
  character property as ranges; two neighbouring ranges share no code point, so the ascending list of
  range starts and range ends (one past the last member) says the same in one list of numbers.
Imports: none
Trusted boundary: human-reviewed spec
Main exports: CodeSet, CodeSet.contains
Open obligations: none
-/

namespace RouteScribe.Text

/-- A set of characters. `flips` holds, in ascending order, the code points at which membership
    changes: below the first one nothing is a member. -/
structure CodeSet where
  flips : List Nat
deriving Repr

namespace CodeSet

/-- Membership of a code point: it is inside when it lies at or above an odd number of flips. The
    list is ascending, so the walk stops at the first flip above the code point. -/
def inside : List Nat → Nat → Bool
  | [], _ => false
  | flip :: flips, n => if n < flip then false else !inside flips n

/-- Whether a character belongs to the set. -/
def contains (s : CodeSet) (c : Char) : Bool := inside s.flips c.toNat

end CodeSet

end RouteScribe.Text
