import CrateSurface.Json.Basic

namespace CrateSurface.Json

/-- Two values that have no order. -/
structure Incomparable where
  left : String
  right : String
deriving Repr, DecidableEq

def Incomparable.message (i : Incomparable) : String :=
  "'<' not supported between instances of '" ++ i.left ++ "' and '" ++ i.right ++ "'"

mutual

/-- The order of values: numbers by value, texts by code points, arrays by their first difference.
Nothing else has an order. -/
def less : Json → Json → Except Incomparable Bool
  | .str a, .str b => .ok (a < b)
  | .arr xs, .arr ys => lessItems xs ys
  | a, b =>
    match a.number?, b.number? with
    | some x, some y => .ok (compareNumbers? x y == some .lt)
    | _, _ => .error ⟨a.typeName, b.typeName⟩

def lessItems : List Json → List Json → Except Incomparable Bool
  | [], ys => .ok !ys.isEmpty
  | _ :: _, [] => .ok false
  | x :: xs, y :: ys => if x.same y then lessItems xs ys else x.less y

end

/-- The order of pairs: by the first component, then by the second. -/
def lessPair (a b : Json × Json) : Except Incomparable Bool :=
  if a.1.same b.1 then (if a.2.same b.2 then .ok false else a.2.less b.2) else a.1.less b.1

end CrateSurface.Json
