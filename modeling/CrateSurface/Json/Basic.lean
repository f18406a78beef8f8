import CrateSurface.Number.Binary64

namespace CrateSurface

/-- A JSON value. Integers have any size, and the members of an object keep their order. -/
inductive Json where
  | null
  | bool (b : Bool)
  | int (n : Int)
  | float (x : Binary64)
  | str (s : String)
  | arr (items : List Json)
  | obj (members : List (String × Json))
deriving Inhabited, Repr

namespace Json

/-- The name of a value's type as messages show it. -/
def typeName : Json → String
  | .null => "NoneType"
  | .bool _ => "bool"
  | .int _ => "int"
  | .float _ => "float"
  | .str _ => "str"
  | .arr _ => "list"
  | .obj _ => "dict"

/-- Sets a member: a known key keeps its place, a new one comes last. -/
def setMember (members : List (String × Json)) (key : String) (value : Json) :
    List (String × Json) :=
  if members.any fun m => m.1 == key then
    members.map fun m => if m.1 == key then (key, value) else m
  else members ++ [(key, value)]

/-- The members in order of writing, of which a later one of the same key wins. -/
def ofMembers (members : List (String × Json)) : Json :=
  .obj (members.foldl (fun done m => setMember done m.1 m.2) [])

/-- A truth value counts as a number in comparisons. -/
def number? : Json → Option (Int ⊕ Binary64)
  | .bool b => some (.inl (if b then 1 else 0))
  | .int n => some (.inl n)
  | .float x => some (.inr x)
  | _ => none

/-- Numeric order, where numbers of either sort compare by value. -/
def compareNumbers? : Int ⊕ Binary64 → Int ⊕ Binary64 → Option Ordering
  | .inl a, .inl b => some (compare a b)
  | .inl a, .inr y => (y.compareInt? a).map Ordering.swap
  | .inr x, .inl b => x.compareInt? b
  | .inr x, .inr y => x.compare? y

/-- Numbers are the same if their values are; the number that is none is the same as itself. -/
def sameNumber : Int ⊕ Binary64 → Int ⊕ Binary64 → Bool
  | .inr .nan, .inr .nan => true
  | a, b => compareNumbers? a b == some .eq

mutual

/-- Equality of values: numbers by value, objects whatever the order of their members. -/
def same : Json → Json → Bool
  | .null, .null => true
  | .bool a, b => sameScalar (.bool a) b
  | .int a, b => sameScalar (.int a) b
  | .float a, b => sameScalar (.float a) b
  | .str a, .str b => a == b
  | .arr xs, .arr ys => sameItems xs ys
  | .obj xs, .obj ys => xs.length == ys.length && sameMembers xs ys
  | _, _ => false

/-- Equality with a number. -/
def sameScalar (a b : Json) : Bool :=
  match a.number?, b.number? with
  | some x, some y => sameNumber x y
  | _, _ => false

def sameItems : List Json → List Json → Bool
  | [], [] => true
  | x :: xs, y :: ys => x.same y && sameItems xs ys
  | _, _ => false

/-- Whether each of the members has an equal one in the other object. -/
def sameMembers : List (String × Json) → List (String × Json) → Bool
  | [], _ => true
  | (key, value) :: rest, others =>
    (match others.lookup key with
      | some other => value.same other
      | none => false) && sameMembers rest others

end

instance : BEq Json := ⟨same⟩

end Json

end CrateSurface
