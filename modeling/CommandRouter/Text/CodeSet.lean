/-!
# Sets of code points

The classes of characters this library distinguishes (cased, ignorable, printable, …) are given
by tables of intervals of code points, in ascending order.

## Main definitions

* `CodeRange` is an interval of code points, both ends included.
* `CodeSet.contains` decides whether a code point lies in one of the intervals of a table.
-/

namespace CommandRouter

/-- An interval of code points, both ends included. -/
structure CodeRange where
  /-- The least code point of the interval. -/
  first : Nat
  /-- The greatest code point of the interval. -/
  last : Nat
  deriving Repr, DecidableEq

namespace CodeRange

/-- Whether a code point lies in the interval. -/
def contains (range : CodeRange) (code : Nat) : Bool :=
  decide (range.first ≤ code) && decide (code ≤ range.last)

end CodeRange

/-- A set of code points, as a list of intervals. -/
abbrev CodeSet := List CodeRange

namespace CodeSet

/-- Whether a code point lies in one of the intervals. -/
def contains (set : CodeSet) (code : Nat) : Bool :=
  set.any fun range => range.contains code

end CodeSet

end CommandRouter
