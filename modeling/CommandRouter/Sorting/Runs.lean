import CommandRouter.Fault

/-!
# Runs in order

Values of different kinds have no order, so sorting may fail, and the fault names the two values
that were compared. Which of several such pairs is met first is decided by the way of sorting, which
is therefore fixed here. The items at the front of a list that are in order already are a run. A run
that is too short is extended by the items behind it, each of which is put in its place by halving.

A front that falls from item to item counts as being in order too; it is turned round. It falls
strictly, so no two items that are equal change places, and sorting is stable throughout: an item is
put behind those that it does not come before.

## Main definitions

* `frontRun` splits off the front that is in order.
* `insertSorted` puts an item in its place.
* `takeRun` splits off a run of a given length at least, if there are as many items.
-/

namespace CommandRouter

variable {α : Type}

/-- The items that continue a run after `last`, and the rest. What has been taken of the run is
given latest first, and so is the result. -/
def extendRun (before : α → α → Except Fault Bool) (falls : Bool) (taken : List α) (last : α) :
    List α → Except Fault (List α × List α)
  | [] => .ok (last :: taken, [])
  | item :: later => do
    if (← before item last) == falls then extendRun before falls (last :: taken) item later
    else return (last :: taken, item :: later)

/-- The front of a list that is in order, put in rising order, and the rest. -/
def frontRun (before : α → α → Except Fault Bool) : List α → Except Fault (List α × List α)
  | first :: second :: later => do
    let falls ← before second first
    let (run, rest) ← extendRun before falls [first] second later
    return (if falls then run else run.reverse, rest)
  | short => .ok (short, [])

/-- Sorted items with one more item in its place, which is found by halving: the item is compared
with the one in the middle, and then put in its place on one side of it. -/
def insertSorted (before : α → α → Except Fault Bool) (item : α) (sorted : List α) :
    Except Fault (List α) :=
  let half := sorted.length / 2
  match _h : sorted.drop half with
  | [] => .ok [item]
  | middle :: upper => do
    if ← before item middle then
      return (← insertSorted before item (sorted.take half)) ++ middle :: upper
    else return sorted.take half ++ middle :: (← insertSorted before item upper)
termination_by sorted.length
decreasing_by
  all_goals
    have lengths := congrArg List.length _h
    simp only [List.length_drop, List.length_cons] at lengths
  · simp only [List.length_take]
    omega
  · omega

/-- Sorted items with more items in their places, which are put there one after another. -/
def insertAll (before : α → α → Except Fault Bool) (sorted : List α) :
    List α → Except Fault (List α)
  | [] => .ok sorted
  | item :: later => do insertAll before (← insertSorted before item sorted) later

/-- A run of a given length at least, or of all items if there are not as many, and the rest. -/
def takeRun (before : α → α → Except Fault Bool) (least : Nat) (items : List α) :
    Except Fault (List α × List α) := do
  let (run, rest) ← frontRun before items
  let missing := least - run.length
  return (← insertAll before run (rest.take missing), rest.drop missing)

end CommandRouter
