namespace CrateSurface.Sorting

variable {α ε : Type} (less : α → α → Except ε Bool)

/-- The outcome of a sort: the items in the order reached, and the comparison that ended it early,
if one failed. -/
structure Outcome (α ε : Type) where
  items : List α
  failure : Option ε

/-- The items that follow `last` without going below the one before, and the rest. -/
def rising (last : α) : List α → Except ε (List α × List α)
  | [] => .ok ([], [])
  | x :: xs => do
    if ← less x last then return ([], x :: xs)
    let (run, rest) ← rising x xs
    return (x :: run, rest)

/-- The items that follow `last` each strictly below the one before, and the rest. -/
def falling (last : α) : List α → Except ε (List α × List α)
  | [] => .ok ([], [])
  | x :: xs => do
    if ← less x last then
      let (run, rest) ← falling x xs
      return (x :: run, rest)
    else return ([], x :: xs)

/-- The run that a list starts with, in rising order, and the rest. A strictly falling run is
turned round. -/
def leadingRun : List α → Except ε (List α × List α)
  | x :: y :: rest => do
    if ← less y x then
      let (run, rest) ← falling less y rest
      return ((x :: y :: run).reverse, rest)
    else
      let (run, rest) ← rising less y rest
      return (x :: y :: run, rest)
  | xs => .ok (xs, [])

/-- The place in a sorted list, between `low` and `high`, after the items that are not above the
pivot, by halving. -/
def bisect (pivot : α) (sorted : List α) : (fuel low high : Nat) → Except ε Nat
  | 0, low, _ => .ok low
  | fuel + 1, low, high =>
    if low < high then
      let middle := low + (high - low) / 2
      match sorted[middle]? with
      | none => .ok low
      | some item => do
        if ← less pivot item then bisect pivot sorted fuel low middle
        else bisect pivot sorted fuel (middle + 1) high
    else .ok low

/-- Inserts the rest of a list into its sorted front. -/
def insertRest (sorted : List α) : List α → Outcome α ε
  | [] => ⟨sorted, none⟩
  | pivot :: rest =>
    match bisect less pivot sorted sorted.length 0 sorted.length with
    | .error failure => ⟨sorted ++ pivot :: rest, some failure⟩
    | .ok place => insertRest (sorted.take place ++ pivot :: sorted.drop place) rest

/-- A stable sort by insertion that starts from the run at the front of the list. -/
def sort (items : List α) : Outcome α ε :=
  match leadingRun less items with
  | .error failure => ⟨items, some failure⟩
  | .ok (run, rest) => insertRest less run rest

end CrateSurface.Sorting

namespace CrateSurface

/-- The stable sort by an order that holds or fails to hold between any two items. -/
def sortWith {α : Type} (less : α → α → Bool) (items : List α) : List α :=
  (@Sorting.sort α Empty (fun a b => .ok (less a b)) items).items

end CrateSurface
