/-!
# Sorting with comparisons that may fail

Items are sorted by insertion. The order in which they are compared is fixed: first the longest
ascending or descending start, then every further item by halving the sorted part. So it is
determined which comparison fails first when two items are not comparable.
-/

namespace Sluice.Sorted

variable {α ε : Type}

/-- The longest start of the items behind `last` in which every item keeps `keeps`, that is, is
before its neighbour or is not; and the items behind it. -/
def start (before : α → α → Except ε Bool) (keeps : Bool) (last : α) :
    List α → Except ε (List α × List α)
  | [] => .ok ([], [])
  | x :: rest => do
    if (← before x last) = keeps then
      let (xs, others) ← start before keeps x rest
      return (x :: xs, others)
    else return ([], x :: rest)

/-- Where an item belongs among the sorted items between two positions: behind all that it is not
before. -/
def position (before : α → α → Except ε Bool) (x : α) (sorted : Array α) :
    Nat → Nat → Nat → Except ε Nat
  | 0, low, _ => .ok low
  | fuel + 1, low, high =>
    if low < high then
      let middle := low + (high - low) / 2
      match sorted[middle]? with
      | none => .ok low
      | some y => do
        if ← before x y then position before x sorted fuel low middle
        else position before x sorted fuel (middle + 1) high
    else .ok low

/-- Inserts items into sorted ones. -/
def insertAll (before : α → α → Except ε Bool) (sorted : List α) : List α → Except ε (List α)
  | [] => .ok sorted
  | x :: rest => do
    let n ← position before x sorted.toArray sorted.length 0 sorted.length
    insertAll before (sorted.take n ++ x :: sorted.drop n) rest

/-- The items in order; items of which neither is before the other keep theirs. -/
def sort (before : α → α → Except ε Bool) : List α → Except ε (List α)
  | [] => .ok []
  | [x] => .ok [x]
  | x :: y :: rest => do
    let descending ← before y x
    let (more, others) ← start before descending y rest
    let run := x :: y :: more
    insertAll before (if descending then run.reverse else run) others

end Sluice.Sorted
