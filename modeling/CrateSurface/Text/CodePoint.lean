namespace CrateSurface

/-- A code point of a text in memory: a character, or one of the surrogates, which stand for no
character by themselves. -/
inductive CodePoint where
  | char (c : Char)
  | surrogate (n : Fin 0x800)
deriving Repr, DecidableEq

namespace CodePoint

/-- The code point of a number that is not above the last of them. -/
def ofNat (n : Nat) : CodePoint :=
  if 0xd800 ≤ n ∧ n < 0xe000 then .surrogate (Fin.ofNat 0x800 (n - 0xd800))
  else .char (Char.ofNat n)

/-- The number of a code point. -/
def toNat : CodePoint → Nat
  | .char c => c.toNat
  | .surrogate n => 0xd800 + n

/-- The character that a code point is, if it is one. -/
def char? : CodePoint → Option Char
  | .char c => some c
  | .surrogate _ => none

def isSurrogate (point : CodePoint) : Bool :=
  point.char?.isNone

end CodePoint

namespace Text

/-- The code points of a text of characters. -/
def points (s : String) : List CodePoint :=
  s.toList.map .char

/-- The text of characters that code points are, if there is no surrogate among them. -/
def string? (points : List CodePoint) : Option String :=
  (points.mapM CodePoint.char?).map String.ofList

end Text

/-- A text with surrogates in it, which is no text of characters. -/
structure IllFormed where
  points : List CodePoint
  illFormed : Text.string? points = none
deriving Repr, DecidableEq

end CrateSurface
