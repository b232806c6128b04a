/-!
# Sets of characters

A property of characters is a union of few intervals of code points. `CodePointSet` keeps the points
at which membership changes, so a look-up walks the list and flips one bit at each point it passes.
-/

namespace RichText

/-- A set of characters, as the increasing list of code points at which membership changes. The
first of them enters the set. -/
structure CodePointSet where
  flips : List Nat

namespace CodePointSet

/-- Whether `n` lies in the set, when all points passed so far leave us `inside`. -/
def memFrom (inside : Bool) : List Nat → Nat → Bool
  | [], _ => inside
  | p :: rest, n => if n < p then inside else memFrom (!inside) rest n

/-- Whether the set holds the character `c`. -/
def mem (s : CodePointSet) (c : Char) : Bool := memFrom false s.flips c.toNat

end CodePointSet

end RichText
