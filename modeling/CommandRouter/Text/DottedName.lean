/-!
# Dotted names

Loggers and modules have names whose parts are separated by dots. What stands in front of a dot
names an ancestor.

The two hierarchies differ where dots meet. A module has an ancestor for every dot with something in
front of it. The names above a logger are found from the end, and the character in front of a dot
that was found is passed over; so of two dots that meet only the later one counts.

## Main definitions

* `ancestors` lists the ancestors of the name of a module, nearest first.
* `namesAbove` lists the names above the name of a logger, nearest first.
-/

namespace CommandRouter

/-- What stands in front of each dot, shortest first, given the characters passed so far in
reverse. A dot at the very front has nothing in front of it. -/
def beginnings (passed : List Char) : List Char → List String
  | [] => []
  | c :: cs =>
    let later := beginnings (c :: passed) cs
    if c = '.' ∧ !passed.isEmpty then String.ofList passed.reverse :: later else later

/-- The names of the ancestors of a name, nearest first. -/
def ancestors (name : String) : List String :=
  (beginnings [] name.toList).reverse

/-- What stands in front of the dots of a name given in reverse, where the character in front of a
dot that counts is passed over. -/
def cutsAbove : List Char → List (List Char)
  | '.' :: c :: cs => (c :: cs) :: cutsAbove cs
  | _ :: cs => cutsAbove cs
  | [] => []

/-- The names above the name of a logger, nearest first. -/
def namesAbove (name : String) : List String :=
  (cutsAbove name.toList.reverse).map fun cs => String.ofList cs.reverse

example : ancestors "a.b.c" = ["a.b", "a"] := by decide +kernel

example : namesAbove "a.b.c" = ["a.b", "a"] := by decide +kernel

example : ancestors "a..b" = ["a.", "a"] := by decide +kernel

example : namesAbove "a..b" = ["a."] := by decide +kernel

end CommandRouter
