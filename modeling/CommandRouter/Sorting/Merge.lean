import CommandRouter.Fault

/-!
# Merging two runs

Two sorted lists that stand side by side are merged into one. The items at the outer ends that are
in their places already are left alone. Of what remains the shorter list decides the direction: if
it is the left one, merging goes upwards from the least items, and otherwise downwards from the
greatest.

Merging compares the next items of both lists one by one. When one list has won often enough in a
row, the merging changes its pace: it looks for the place of the next item of one list in the other
by steps of doubling length, and moves all items up to that place at once. It keeps to this pace as
long as that pays, and the better it pays, the sooner it is tried again.

Items that compare as equal keep their order: those of the left list come first.

## Main definitions

* `Direction` is the direction of a merge, and `Merging` its state.
* `countFromLeft` and `countFromRight` count the first items of a list that satisfy a condition
  which no later item satisfies, looking at few of them.
* `Merging.run` merges to the end, and `mergeRuns` merges two lists.
-/

namespace CommandRouter

variable {α : Type}

/-! ### Counting by doubling steps -/

/-- Whether the item at a place satisfies a condition; where there is none, nothing does. -/
def holdsAt (p : α → Except Fault Bool) (items : List α) (place : Nat) : Except Fault Bool :=
  match items[place]? with
  | some item => p item
  | none => .ok false

/-- The last offset at which a test held and the next one, at which it did not hold or which is the
limit. Offsets grow from `next` on by doubling. -/
def stride (test : Nat → Except Fault Bool) (limit last next : Nat) : Except Fault (Nat × Nat) :=
  if next < limit then do
    if ← test next then stride test limit next (2 * next + 1) else return (last, next)
  else .ok (last, limit)
termination_by limit - next

/-- The first place between two at which a test does not hold, found by halving. -/
def halve (test : Nat → Except Fault Bool) (low high : Nat) : Except Fault Nat :=
  if low < high then do
    let middle := low + (high - low) / 2
    if ← test middle then halve test (middle + 1) high else halve test low middle
  else .ok high
termination_by high - low

/-- The number of items at the front that satisfy a condition, looked for from the left end on. -/
def countFromLeft (p : α → Except Fault Bool) (items : List α) : Except Fault Nat := do
  let test := holdsAt p items
  if ← test 0 then
    let (last, next) ← stride test items.length 0 1
    halve test (last + 1) next
  else return 0

/-- The number of items at the front that satisfy a condition, looked for from the right end on. -/
def countFromRight (p : α → Except Fault Bool) (items : List α) : Except Fault Nat := do
  let test := holdsAt p items
  let size := items.length
  if ← test (size - 1) then return size
  else
    let (last, next) ← stride (fun offset => not <$> test (size - 1 - offset)) size 0 1
    halve test (size - next) (size - 1 - last)

/-! ### The state of a merge -/

/-- The direction of a merge. -/
inductive Direction where
  /-- From the least items on. -/
  | upwards
  /-- From the greatest items on. -/
  | downwards
  deriving DecidableEq

/-- What has been merged, latest first, and what remains of both lists. All lists are in the
direction of the merge. -/
structure Merging (α : Type) where
  /-- What has been merged, latest first. -/
  merged : List α
  /-- What remains of the left list. -/
  left : List α
  /-- What remains of the right list. -/
  right : List α

/-- How fast a merge goes. -/
inductive Pace where
  /-- Item by item; each number says how often the items of one list have won in a row. -/
  | single (leftWins rightWins : Nat)
  /-- Many items at once. -/
  | galloping

/-- How many items must be moved at once for galloping to pay. -/
def worthwhile : Nat := 7

namespace Merging

/-- Whether the rest can be moved without another comparison. -/
def isOver (direction : Direction) (state : Merging α) : Bool :=
  match direction with
  | .upwards => state.right.isEmpty || state.left.length ≤ 1
  | .downwards => state.left.isEmpty || state.right.length ≤ 1

/-- The merged list when the rest is moved as it is, in rising order. -/
def finish (direction : Direction) (state : Merging α) : List α :=
  match direction with
  | .upwards => state.merged.reverse ++ state.right ++ state.left
  | .downwards => (state.merged.reverse ++ state.left ++ state.right).reverse

/-- Move some items of the left list. -/
def moveLeft (count : Nat) (state : Merging α) : Merging α :=
  ⟨(state.left.take count).reverse ++ state.merged, state.left.drop count, state.right⟩

/-- Move some items of the right list. -/
def moveRight (count : Nat) (state : Merging α) : Merging α :=
  ⟨(state.right.take count).reverse ++ state.merged, state.left, state.right.drop count⟩

/-- How many items of the left list are next, before the item of the right list that is given. -/
def leftCount (before : α → α → Except Fault Bool) (direction : Direction) (item : α)
    (items : List α) : Except Fault Nat :=
  let stays := fun other => not <$> before item other
  match direction with
  | .upwards => countFromLeft stays items
  | .downwards => (items.length - ·) <$> countFromRight stays items.reverse

/-- How many items of the right list are next, before the item of the left list that is given. -/
def rightCount (before : α → α → Except Fault Bool) (direction : Direction) (item : α)
    (items : List α) : Except Fault Nat :=
  let stays := fun other => before other item
  match direction with
  | .upwards => countFromLeft stays items
  | .downwards => (items.length - ·) <$> countFromRight stays items.reverse

/-- Merge to the end. The threshold says how often one list must win in a row before many items are
moved at once; the threshold for the next merge is part of the result. The first argument bounds the
number of steps. -/
def run (before : α → α → Except Fault Bool) (direction : Direction) :
    Nat → Nat → Pace → Merging α → Except Fault (List α × Nat)
  | 0, threshold, _, state => .ok (state.finish direction, threshold)
  | fuel + 1, threshold, pace, state => do
    if state.isOver direction then return (state.finish direction, threshold)
    match state.left, state.right, pace with
    | a :: _, b :: _, .single leftWins rightWins =>
      if (← before b a) == decide (direction = .upwards) then
        let pace := if rightWins + 1 < threshold then .single 0 (rightWins + 1) else .galloping
        run before direction fuel threshold pace (state.moveRight 1)
      else
        let pace := if leftWins + 1 < threshold then .single (leftWins + 1) 0 else .galloping
        run before direction fuel threshold pace (state.moveLeft 1)
    | left, b :: _, .galloping =>
      let fromLeft ← leftCount before direction b left
      let state := state.moveLeft fromLeft
      if 0 < fromLeft && state.isOver direction then return (state.finish direction, threshold)
      let state := state.moveRight 1
      if state.isOver direction then return (state.finish direction, threshold)
      match state.left with
      | [] => return (state.finish direction, threshold)
      | a :: _ =>
        let fromRight ← rightCount before direction a state.right
        let state := state.moveRight fromRight
        if 0 < fromRight && state.isOver direction then
          return (state.finish direction, threshold)
        let state := state.moveLeft 1
        if state.isOver direction then return (state.finish direction, threshold)
        if worthwhile ≤ max fromLeft fromRight then
          run before direction fuel (max 1 (threshold - 1)) .galloping state
        else run before direction fuel (threshold + 1) (.single 0 0) state
    | _, _, _ => return (state.finish direction, threshold)

end Merging

/-- Merge two sorted lists that are not empty, at a threshold. The threshold for the next merge is
part of the result. -/
def mergeRuns (before : α → α → Except Fault Bool) (threshold : Nat) (left right : List α) :
    Except Fault (List α × Nat) :=
  match right with
  | [] => .ok (left, threshold)
  | first :: _ => do
    let settled ← countFromLeft (fun item => not <$> before first item) left
    let unsettled := left.drop settled
    match unsettled.getLast? with
    | none => return (left ++ right, threshold)
    | some last =>
      let count ← countFromRight (fun item => before item last) right
      let middle := right.take count
      if middle.isEmpty then return (left ++ right, threshold)
      let steps := left.length + right.length + 1
      let (merged, threshold) ←
        if unsettled.length ≤ middle.length then
          Merging.run before .upwards steps threshold (.single 0 0)
            (Merging.moveRight 1 ⟨[], unsettled, middle⟩)
        else
          Merging.run before .downwards steps threshold (.single 0 0)
            (Merging.moveLeft 1 ⟨[], unsettled.reverse, middle.reverse⟩)
      return (left.take settled ++ merged ++ right.drop count, threshold)

end CommandRouter
