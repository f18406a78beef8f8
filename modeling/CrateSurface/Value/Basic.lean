import CrateSurface.Json.Basic
import CrateSurface.Text.CodePoint

namespace CrateSurface

/-- A calendar day. -/
structure Date where
  year : Nat
  month : Nat
  day : Nat
deriving Repr, DecidableEq

/-- A time of day with the offset from UTC in seconds, if one is given. -/
structure Clock where
  hour : Nat
  minute : Nat
  second : Nat
  microsecond : Nat
  offset : Option Int
deriving Repr, DecidableEq

/-- A value of a settings file. Unlike JSON it has days and times, raw bytes and sets, and mappings
may have any key. A text with surrogates in it is a text like any other and stands apart only because
it is no string of characters. `cycle` stands for a list or a mapping that holds itself. -/
inductive Value where
  | null
  | bool (b : Bool)
  | int (n : Int)
  | float (x : Binary64)
  | str (s : String)
  | illFormed (text : IllFormed)
  | bytes (data : List UInt8)
  | date (d : Date)
  | datetime (d : Date) (t : Clock)
  | list (items : List Value)
  | pair (first second : Value)
  | set (items : List Value)
  | map (entries : List (Value × Value))
  | cycle (isMap : Bool)
deriving Inhabited, Repr

namespace Value

/-- The name of a value's type as messages show it. -/
def typeName : Value → String
  | .null => "NoneType"
  | .bool _ => "bool"
  | .int _ => "int"
  | .float _ => "float"
  | .str _ => "str"
  | .illFormed _ => "str"
  | .bytes _ => "bytes"
  | .date _ => "date"
  | .datetime .. => "datetime"
  | .list _ => "list"
  | .pair .. => "tuple"
  | .set _ => "set"
  | .map _ => "dict"
  | .cycle isMap => if isMap then "dict" else "list"

/-- The text of code points. -/
def ofPoints (points : List CodePoint) : Value :=
  match none : Text.string? points with
  | some s => .str s
  | none => .illFormed ⟨points, none⟩

mutual

/-- A JSON value as a settings value. -/
def ofJson : Json → Value
  | .null => .null
  | .bool b => .bool b
  | .int n => .int n
  | .float x => .float x
  | .str s => .str s
  | .arr items => .list (ofItems items)
  | .obj members => .map (ofMembers members)

def ofItems : List Json → List Value
  | [] => []
  | item :: rest => ofJson item :: ofItems rest

def ofMembers : List (String × Json) → List (Value × Value)
  | [] => []
  | (key, value) :: rest => (.str key, ofJson value) :: ofMembers rest

end

end Value

end CrateSurface
