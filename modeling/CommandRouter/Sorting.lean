import CommandRouter.Sorting.Merge
import CommandRouter.Sorting.Runs

/-!
# Sorting by a comparison that may fail

A list is cut into runs, and neighbouring runs are merged until one is left. Runs wait on a stack.
Between two neighbouring runs there is a boundary, and it has a power: the depth at which the
boundary would stand in a balanced tree over the whole list. A boundary of greater power is removed
by merging before one of smaller power comes on top of it, so runs of similar length are merged.

## Main definitions

* `leastRun` is the length that runs should have at least.
* `boundaryPower` is the power of a boundary.
* `sortBy` sorts a list.
-/

namespace CommandRouter

variable {α : Type}

/-- A number halved until it is less than 64, rounded up if an odd number was halved on the way. -/
def leastRun (size : Nat) : Nat :=
  go size size 0
where
  /-- The halving, with what is to be added in the end. The first argument bounds the recursion. -/
  go : Nat → Nat → Nat → Nat
    | 0, n, extra => n + extra
    | fuel + 1, n, extra => if n < 64 then n + extra else go fuel (n / 2) (max extra (n % 2))

/-- The number of binary digits after which two fractions with the same denominator, both less than
two, differ. The first argument bounds the recursion. -/
def digitsToDiffer : Nat → Nat → Nat → Nat → Nat
  | 0, _, _, _ => 0
  | fuel + 1, a, b, size =>
    if size ≤ a then digitsToDiffer fuel (2 * (a - size)) (2 * (b - size)) size + 1
    else if size ≤ b then 1
    else digitsToDiffer fuel (2 * a) (2 * b) size + 1

/-- The power of the boundary between two runs of a list: the first binary digit in which the places
of their middles differ, as fractions of the list. -/
def boundaryPower (start first second size : Nat) : Nat :=
  digitsToDiffer (2 * size) (2 * start + first) (2 * start + 2 * first + second) size

/-- A run that waits to be merged. -/
structure WaitingRun (α : Type) where
  /-- The place of its first item in the whole list. -/
  start : Nat
  /-- Its items. -/
  items : List α
  /-- The power of the boundary between it and the next run. -/
  power : Nat

/-- Merge a run with the one that waits below it. -/
def mergeWaiting (before : α → α → Except Fault Bool) (threshold : Nat)
    (below above : WaitingRun α) : Except Fault (WaitingRun α × Nat) := do
  let (items, threshold) ← mergeRuns before threshold below.items above.items
  return ({ below with items }, threshold)

/-- Merge runs at the top of the stack as long as the boundary below the topmost has more than a
given power. -/
def mergeAbove (before : α → α → Except Fault Bool) (power threshold : Nat) (top : WaitingRun α) :
    List (WaitingRun α) → Except Fault (List (WaitingRun α) × Nat)
  | [] => .ok ([{ top with power }], threshold)
  | below :: stack =>
    if power < below.power then do
      let (merged, threshold) ← mergeWaiting before threshold below top
      mergeAbove before power threshold merged stack
    else .ok ({ top with power } :: below :: stack, threshold)

/-- Put a run on top of the stack, topmost first. -/
def pushRun (before : α → α → Except Fault Bool) (size threshold start : Nat) (run : List α) :
    List (WaitingRun α) → Except Fault (List (WaitingRun α) × Nat)
  | [] => .ok ([⟨start, run, 0⟩], threshold)
  | top :: stack => do
    let power := boundaryPower top.start top.items.length run.length size
    let (stack, threshold) ← mergeAbove before power threshold top stack
    return (⟨start, run, 0⟩ :: stack, threshold)

/-- Merge all runs of a stack. Of three runs at the top the lowest is merged first if it is shorter
than the topmost. The first argument bounds the recursion. -/
def mergeAll (before : α → α → Except Fault Bool) :
    Nat → Nat → List (WaitingRun α) → Except Fault (List α)
  | _, _, [] => .ok []
  | _, _, [run] => .ok run.items
  | 0, _, stack => .ok (stack.reverse.flatMap WaitingRun.items)
  | fuel + 1, threshold, top :: middle :: low :: stack => do
    if low.items.length < top.items.length then
      let (merged, threshold) ← mergeWaiting before threshold low middle
      mergeAll before fuel threshold (top :: merged :: stack)
    else
      let (merged, threshold) ← mergeWaiting before threshold middle top
      mergeAll before fuel threshold (merged :: low :: stack)
  | fuel + 1, threshold, [top, low] => do
    let (merged, threshold) ← mergeWaiting before threshold low top
    mergeAll before fuel threshold [merged]

/-- Cut a list into runs, put them on the stack, and merge the stack in the end. The first argument
bounds the number of runs. -/
def sortRuns (before : α → α → Except Fault Bool) (size : Nat) :
    Nat → Nat → List (WaitingRun α) → List α → Except Fault (List α)
  | 0, _, stack, items => .ok (stack.reverse.flatMap WaitingRun.items ++ items)
  | _, threshold, stack, [] => mergeAll before size threshold stack
  | fuel + 1, threshold, stack, item :: later => do
    let (run, rest) ← takeRun before (leastRun size) (item :: later)
    let start := size - (later.length + 1)
    let (stack, threshold) ← pushRun before size threshold start run stack
    sortRuns before size fuel threshold stack rest

/-- The items of a list in order. -/
def sortBy (before : α → α → Except Fault Bool) (items : List α) : Except Fault (List α) :=
  sortRuns before items.length (items.length + 1) worthwhile [] items

end CommandRouter
