/-!
Contract: the arrangement of items by a test of which of two comes first, where the test
need not be an order.

Owns:
- runs, which are stretches of items that the test leaves as they are, and how short ones
  are filled up;
- the merging of two neighbouring runs from the end at which less has to be moved;
- which runs are merged when.

Where the test is an order, the result is the stable arrangement by it. Where some items
come neither before nor after others, the result depends on which items are compared, and
so the sequence of comparisons is part of the contract.
-/

namespace Regrid.Runs

variable {ι : Type}

/-- The number of items after the first one that go on in the direction of a test between
an item and the one before it. -/
def runLength (goesOn : ι → ι → Bool) : List ι → Nat
  | [] | [_] => 0
  | first :: second :: rest =>
    if goesOn second first then runLength goesOn (second :: rest) + 1 else 0

/-- The run at the front of a list, and the items after it. A run that falls from item to
item is turned round. -/
def splitRun (before : ι → ι → Bool) : List ι → List ι × List ι
  | first :: second :: rest =>
    let items := first :: second :: rest
    if before second first then
      let count := runLength before items + 1
      ((items.take count).reverse, items.drop count)
    else
      let count := runLength (fun next last => !before next last) items + 1
      (items.take count, items.drop count)
  | items => (items, [])

/-- The place in a row behind the items that a test puts in front, found between two bounds
by halving. -/
def halve (inFront : ι → Bool) (row : Array ι) (low high : Nat) : Nat :=
  if low < high then
    let middle := low + (high - low) / 2
    match row[middle]? with
    | some item =>
      if inFront item then halve inFront row (middle + 1) high
      else halve inFront row low middle
    | none => low
  else low
termination_by high - low

/-- A row with one more item, behind those that it does not come before. -/
def place (before : ι → ι → Bool) (row : Array ι) (item : ι) : Array ι :=
  row.insertIdxIfInBounds (halve (fun other => !before item other) row 0 row.size) item

/-- Steps of growing length, each about twice the one before, as long as a test holds: the
last length at which it held, and the length to stop at, which is no larger than a bound. -/
def stride (holds : Nat → Bool) (most : Nat) : Nat → Nat → Nat → Nat × Nat
  | 0, last, length => (last, min length most)
  | fuel + 1, last, length =>
    if length < most && holds length then stride holds most fuel length (2 * length + 1)
    else (last, min length most)

/-- The place in a row behind the items that a test puts in front, found by strides away
from a hint and then by halving. -/
def seek (inFront : ι → Bool) (row : Array ι) (hint : Nat) : Nat :=
  let isInFront (position : Nat) : Bool := row[position]?.any inFront
  if isInFront hint then
    let (last, length) :=
      stride (fun length => isInFront (hint + length)) (row.size - hint) row.size 0 1
    halve inFront row (hint + last + 1) (hint + length)
  else
    let (last, length) :=
      stride (fun length => !isInFront (hint - length)) (hint + 1) row.size 0 1
    halve inFront row (hint + 1 - length) (hint - last)

/-- Two runs that are being merged: the items that have their final place, and what is left
of each run. The final places are filled from the end or from the front. -/
structure Merge (ι : Type) where
  fromEnd : Bool
  left : Array ι
  right : Array ι
  placed : Array ι := #[]

namespace Merge

/-- The next items of a row and the others. -/
def cut (fromEnd : Bool) (count : Nat) (row : Array ι) : Array ι × Array ι :=
  if fromEnd then (row.extract (row.size - count) row.size, row.extract 0 (row.size - count))
  else (row.extract 0 count, row.extract count row.size)

/-- Puts items at their final places. -/
def settle (merge : Merge ι) (items : Array ι) : Merge ι :=
  { merge with placed := if merge.fromEnd then items ++ merge.placed else merge.placed ++ items }

def takeLeft (count : Nat) (merge : Merge ι) : Merge ι :=
  let (items, left) := cut merge.fromEnd count merge.left
  { merge with left }.settle items

def takeRight (count : Nat) (merge : Merge ι) : Merge ι :=
  let (items, right) := cut merge.fromEnd count merge.right
  { merge with right }.settle items

/-- The next item of a row. -/
def next? (merge : Merge ι) (row : Array ι) : Option ι :=
  if merge.fromEnd then row.back? else row[0]?

/-- The items that are left have their final places, once the run that is merged last has
at most one item or the other one has none. -/
def isOver (merge : Merge ι) : Bool :=
  if merge.fromEnd then merge.left.isEmpty || merge.right.size ≤ 1
  else merge.right.isEmpty || merge.left.size ≤ 1

/-- All items, those that are left at their final places. -/
def finish (merge : Merge ι) : Array ι :=
  let left := merge.right ++ merge.left
  if merge.fromEnd then left ++ merge.placed else merge.placed ++ left

/-- Takes one item after the other, until one run has given so many in a row. -/
def singly (before : ι → ι → Bool) (limit : Nat) : Nat → Nat → Nat → Merge ι → Merge ι
  | 0, _, _, merge => merge
  | fuel + 1, fromLeft, fromRight, merge =>
    match merge.next? merge.left, merge.next? merge.right with
    | some first, some second =>
      if before second first = merge.fromEnd then
        let merge := merge.takeLeft 1
        if merge.isOver || limit ≤ fromLeft + 1 then merge
        else singly before limit fuel (fromLeft + 1) 0 merge
      else
        let merge := merge.takeRight 1
        if merge.isOver || limit ≤ fromRight + 1 then merge
        else singly before limit fuel 0 (fromRight + 1) merge
    | _, _ => merge

/-- The number of items of a row that are taken before an item, given the test of which
items are in front of it. -/
def count (merge : Merge ι) (inFront : ι → Bool) (row : Array ι) : Nat :=
  if merge.fromEnd then row.size - seek inFront row (row.size - 1) else seek inFront row 0

/-- The items in a row that make it worth while to take stretches of items. -/
def worthwhile : Nat := 7

/-- Takes stretches of items from both runs in turn, as long as they are long. The limit
for taking single items falls with each round and rises at the end. -/
def stretches (before : ι → ι → Bool) : Nat → Nat → Merge ι → Merge ι × Nat
  | 0, limit, merge => (merge, limit)
  | fuel + 1, limit, merge =>
    let limit := if 1 < limit then limit - 1 else limit
    match merge.next? merge.right with
    | none => (merge, limit)
    | some second =>
      let fromLeft := merge.count (fun item => !before second item) merge.left
      let merge := merge.takeLeft fromLeft
      if merge.isOver then (merge, limit)
      else
        let merge := merge.takeRight 1
        match merge.isOver, merge.next? merge.left with
        | false, some first =>
          let fromRight := merge.count (fun item => before item first) merge.right
          let merge := merge.takeRight fromRight
          if merge.isOver then (merge, limit)
          else
            let merge := merge.takeLeft 1
            if merge.isOver then (merge, limit)
            else if worthwhile ≤ fromLeft || worthwhile ≤ fromRight then
              stretches before fuel limit merge
            else (merge, limit + 1)
        | _, _ => (merge, limit)

/-- Merges to the end, by single items and by stretches in turn. -/
def complete (before : ι → ι → Bool) : Nat → Nat → Merge ι → Array ι × Nat
  | 0, limit, merge => (merge.finish, limit)
  | fuel + 1, limit, merge =>
    let size := merge.left.size + merge.right.size
    let merge := merge.singly before limit size 0 0
    if merge.isOver then (merge.finish, limit)
    else
      let (merge, limit) := merge.stretches before size (limit + 1)
      if merge.isOver then (merge.finish, limit) else complete before fuel limit merge

end Merge

/-- Merges two neighbouring runs. Items at the outer ends that have their final places
already are left out, and of the rest the longer run is merged from its far end. -/
def merge (before : ι → ι → Bool) (limit : Nat) (left right : Array ι) : Array ι × Nat :=
  match right[0]? with
  | none => (left, limit)
  | some second =>
    let kept := seek (fun item => !before second item) left 0
    let middleLeft := left.extract kept left.size
    match middleLeft.back? with
    | none => (left ++ right, limit)
    | some first =>
      let moved := seek (fun item => before item first) right (right.size - 1)
      let middleRight := right.extract 0 moved
      if moved = 0 then (left ++ right, limit)
      else
        let fromEnd := decide (moved < middleLeft.size)
        let start : Merge ι := ⟨fromEnd, middleLeft, middleRight, #[]⟩
        let start := if fromEnd then start.takeLeft 1 else start.takeRight 1
        let (middle, limit) :=
          if start.isOver then (start.finish, limit)
          else start.complete before (middleLeft.size + moved) limit
        (left.extract 0 kept ++ middle ++ right.extract moved right.size, limit)

/-- A run, the position of its first item, and how late it is to be merged with the run
after it. -/
structure Run (ι : Type) where
  start : Nat
  items : Array ι
  depth : Nat := 0

/-- The depth at which the middles of two neighbouring runs fall into different halves of a
row that is halved again and again. Both middles and the size are given as doubles. -/
def depthOf (total : Nat) : Nat → Nat → Nat → Nat
  | 0, _, _ => 0
  | fuel + 1, first, second =>
    if total ≤ first then depthOf total fuel (2 * (first - total)) (2 * (second - total)) + 1
    else if total ≤ second then 1
    else depthOf total fuel (2 * first) (2 * second) + 1

/-- Runs that are not merged yet, the last one first, and the limit for single items. -/
structure Pending (ι : Type) where
  runs : List (Run ι) := []
  limit : Nat := Merge.worthwhile

namespace Pending

/-- Merges the last run with the one before it while that one is to be merged earlier than
at some depth, which becomes the depth of the last run. -/
def mergeDeeper (before : ι → ι → Bool) (depth : Nat) : Nat → Pending ι → Pending ι
  | 0, pending => pending
  | fuel + 1, pending =>
    match pending.runs with
    | last :: previous :: rest =>
      if depth < previous.depth then
        let (items, limit) := merge before pending.limit previous.items last.items
        mergeDeeper before depth fuel ⟨{ previous with items } :: rest, limit⟩
      else { pending with runs := { last with depth } :: previous :: rest }
    | [last] => { pending with runs := [{ last with depth }] }
    | [] => pending

/-- Adds a run of a row of some size behind the others. -/
def push (before : ι → ι → Bool) (total : Nat) (run : Run ι) (pending : Pending ι) :
    Pending ι :=
  match pending.runs with
  | [] => { pending with runs := [run] }
  | last :: _ =>
    let first := 2 * last.start + last.items.size
    let depth := depthOf total (2 * total + 64) first (first + last.items.size + run.items.size)
    let pending := pending.mergeDeeper before depth total
    { pending with runs := run :: pending.runs }

/-- Merges all runs, starting with the last ones, and of three with the shorter outer one. -/
def collapse (before : ι → ι → Bool) : Nat → Pending ι → Array ι
  | 0, pending => (pending.runs.reverse.map Run.items).foldl (· ++ ·) #[]
  | fuel + 1, pending =>
    let join (left right : Run ι) : Run ι × Nat :=
      let (items, limit) := merge before pending.limit left.items right.items
      ({ left with items }, limit)
    match pending.runs with
    | [] => #[]
    | [run] => run.items
    | last :: middle :: first :: rest =>
      if first.items.size < last.items.size then
        let (run, limit) := join first middle
        collapse before fuel ⟨last :: run :: rest, limit⟩
      else
        let (run, limit) := join middle last
        collapse before fuel ⟨run :: first :: rest, limit⟩
    | [last, first] => (join first last).1.items

end Pending

/-- The length up to which short runs are filled up: all items if they are fewer than 64,
and otherwise such that about a power of two of runs is made. Halving rounds up once. -/
def leastLength (total : Nat) (rounding : Nat := 0) : Nat :=
  if total < 64 then total + rounding else leastLength (total / 2) (max rounding (total % 2))
termination_by total

/-- Arranges items run by run. -/
def arrangeFrom (before : ι → ι → Bool) (total least : Nat) :
    Nat → Nat → Pending ι → List ι → Array ι
  | 0, _, pending, items => pending.collapse before total ++ items.toArray
  | fuel + 1, start, pending, items =>
    if items.isEmpty then pending.collapse before total
    else
      let (run, others) := splitRun before items
      let missing := least - run.length
      let filled := (others.take missing).foldl (place before) run.toArray
      let pending := pending.push before total ⟨start, filled, 0⟩
      arrangeFrom before total least fuel (start + filled.size) pending (others.drop missing)

/-- Items arranged by a test of which of two comes first. -/
def arrange (before : ι → ι → Bool) (items : List ι) : List ι :=
  let total := items.length
  (arrangeFrom before total (leastLength total) total 0 {} items).toList

end Regrid.Runs
