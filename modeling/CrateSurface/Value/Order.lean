import CrateSurface.Json.Order
import CrateSurface.Value.Basic

namespace CrateSurface.Value

open Json (Incomparable)

/-- The name of a value's type where values are compared or joined. -/
def fullTypeName : Value → String
  | .date _ => "datetime.date"
  | .datetime .. => "datetime.datetime"
  | value => value.typeName

/-- A truth value counts as a number in comparisons. -/
def number? : Value → Option (Int ⊕ Binary64)
  | .bool b => some (.inl (if b then 1 else 0))
  | .int n => some (.inl n)
  | .float x => some (.inr x)
  | _ => none

/-- Whether a value can be a key of a mapping: collections cannot. -/
def isKey : Value → Bool
  | .list _ => false
  | .set _ => false
  | .map _ => false
  | .cycle _ => false
  | _ => true

/-- Equality of keys: numbers by value, all else by kind and content. -/
def sameKey (a b : Value) : Bool :=
  match a, b with
  | .null, .null => true
  | .str s, .str t => s == t
  | .illFormed s, .illFormed t => s == t
  | .bytes s, .bytes t => s == t
  | .date d, .date e => d == e
  | .datetime d t, .datetime e u => d == e && t == u
  | a, b =>
    match a.number?, b.number? with
    | some x, some y => Json.sameNumber x y
    | _, _ => false

/-- Sets an entry: a known key keeps its place and its spelling, a new one comes last. -/
def setEntry (entries : List (Value × Value)) (key value : Value) : List (Value × Value) :=
  if entries.any fun entry => entry.1.sameKey key then
    entries.map fun entry => if entry.1.sameKey key then (entry.1, value) else entry
  else entries ++ [(key, value)]

/-- The entries in order of writing, of which a later one of the same key wins. -/
def ofEntries (entries : List (Value × Value)) : Value :=
  .map (entries.foldl (fun done entry => setEntry done entry.1 entry.2) [])

/-- Why two keys have no order. -/
inductive OrderFault where
  | kinds (values : Incomparable)
  | dayAndTime
  | zoneAndNone
deriving Repr, DecidableEq

/-- The text of a failed comparison. -/
def OrderFault.message : OrderFault → String
  | .kinds values => values.message
  | .dayAndTime => "can't compare datetime.datetime to datetime.date"
  | .zoneAndNone => "can't compare offset-naive and offset-aware datetimes"

/-- The code points of a text. -/
def points? : Value → Option (List CodePoint)
  | .str s => some (Text.points s)
  | .illFormed text => some text.points
  | _ => none

/-- The order of keys: numbers by value, texts by code points, bytes, days and times by their first
difference. A time with an offset from UTC has no order with one that has none, and nothing else
has an order. -/
def less (a b : Value) : Except OrderFault Bool :=
  match a, b with
  | .str s, .str t => .ok (s < t)
  | .bytes s, .bytes t => .ok (s < t)
  | .date d, .date e => .ok ([d.year, d.month, d.day] < [e.year, e.month, e.day])
  | .date _, .datetime .. => .error .dayAndTime
  | .datetime .., .date _ => .error .dayAndTime
  | .datetime d t, .datetime e u =>
    if t.offset.isSome == u.offset.isSome then
      .ok ([d.year, d.month, d.day, t.hour, t.minute, t.second, t.microsecond] <
        [e.year, e.month, e.day, u.hour, u.minute, u.second, u.microsecond])
    else .error .zoneAndNone
  | a, b =>
    match a.points?, b.points? with
    | some s, some t => .ok (s.map CodePoint.toNat < t.map CodePoint.toNat)
    | _, _ =>
      match a.number?, b.number? with
      | some x, some y => .ok (Json.compareNumbers? x y == some .lt)
      | _, _ => .error (.kinds ⟨a.fullTypeName, b.fullTypeName⟩)

end CrateSurface.Value
