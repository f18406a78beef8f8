import CrateSurface.Number.Decimal

namespace CrateSurface

/-- A double-precision number. A finite one is `significand * 2 ^ exponent`; the significand has
53 bits unless the exponent is the least one, -1074. -/
inductive Binary64 where
  | finite (negative : Bool) (significand : Nat) (exponent : Int)
  | infinite (negative : Bool)
  | nan
deriving Repr, DecidableEq

namespace Binary64

/-- The integer nearest to a quotient; of two equally near ones, the even one. -/
def roundQuotient (num den : Nat) : Nat :=
  let down := num / den
  let twice := 2 * (num % den)
  if twice < den then down
  else if twice > den then down + 1
  else if down % 2 == 0 then down else down + 1

/-- `num / den` in units of `2 ^ e`, as a quotient of natural numbers. -/
def scaled (num den : Nat) (e : Int) : Nat × Nat :=
  if e < 0 then (num * Nat.pow 2 e.natAbs, den) else (num, den * Nat.pow 2 e.natAbs)

/-- The exponent at which a positive quotient has 53 bits before the point, but at least the least
one. -/
def exponentFor (num den : Nat) : Int :=
  let guess : Int := (num.log2 : Int) - (den.log2 : Int) - 53
  let (n, d) := scaled num den guess
  let e := if n / d < Nat.pow 2 53 then guess else guess + 1
  max e (-1074)

/-- The double nearest to a positive quotient. -/
def ofQuotient (negative : Bool) (num den : Nat) : Binary64 :=
  let e := exponentFor num den
  let (n, d) := scaled num den e
  let m := roundQuotient n d
  let (m, e) := if m == Nat.pow 2 53 then (Nat.pow 2 52, e + 1) else (m, e)
  if e > 971 then .infinite negative else .finite negative m e

/-- The double nearest to `digits * 10 ^ exponent`. Numbers far beyond the range of doubles are
infinite or zero without being computed. -/
def ofDecimal (negative : Bool) (digits : Nat) (exponent : Int) : Binary64 :=
  let zero : Binary64 := .finite negative 0 (-1074)
  if digits == 0 then zero
  else
    let size : Int := (natText digits).length + exponent
    if size > 400 then .infinite negative
    else if size < -400 then zero
    else if exponent < 0 then ofQuotient negative digits (Nat.pow 10 exponent.natAbs)
    else ofQuotient negative (digits * Nat.pow 10 exponent.natAbs) 1

/-- The absolute value of a finite double as a quotient. -/
def quotient (significand : Nat) (exponent : Int) : Nat × Nat :=
  if exponent < 0 then (significand, Nat.pow 2 exponent.natAbs)
  else (significand * Nat.pow 2 exponent.natAbs, 1)

/-- `num / den` in units of `10 ^ p`, as a quotient of natural numbers. -/
def inTens (num den : Nat) (p : Int) : Nat × Nat :=
  if p < 0 then (num * Nat.pow 10 p.natAbs, den) else (num, den * Nat.pow 10 p.natAbs)

/-- The number of digits before the decimal point: the least `p` with `num / den < 10 ^ p`. -/
def pointPosition (num den : Nat) : Int :=
  let guess : Int := ((num.log2 : Int) - (den.log2 : Int) - 1) * 30103 / 100000
  let fits (p : Int) : Bool :=
    let (n, d) := inTens num den p
    n < d
  if fits guess then guess
  else if fits (guess + 1) then guess + 1
  else if fits (guess + 2) then guess + 2
  else guess + 3

/-- The decimal with the given number of digits that stands for the double and is nearest to it. -/
def decimalWith? (significand : Nat) (exponent : Int) (point : Int) (count : Nat) : Option Nat :=
  let (num, den) := quotient significand exponent
  let unit := point - count
  let (n, d) := inTens num den unit
  let down := n / d
  let reads (x : Nat) : Bool := ofDecimal false x unit == .finite false significand exponent
  let twice := 2 * (n % d)
  let downFirst := twice < d || (twice == d && down % 2 == 0)
  let (first, second) := if downFirst then (down, down + 1) else (down + 1, down)
  if reads first then some first else if reads second then some second else none

/-- The fewest digits, 17 at most, that stand for a positive double. -/
def shortest (significand : Nat) (exponent : Int) : Nat × Int :=
  let (num, den) := quotient significand exponent
  let point := pointPosition num den
  match (List.range 17).findSome? fun i =>
      (decimalWith? significand exponent point (i + 1)).map fun x => (x, point - (i + 1)) with
  | some found => found
  | none => (significand, 0)

/-- Digits without the zeros at their end, and the number of digits before the point. -/
def trimmed (digits : Nat) (unit : Int) : List Char × Int :=
  let all := natText digits
  ((all.reverse.dropWhile (· == '0')).reverse, all.length + unit)

/-- Positional notation from `0.0001` up to below `10 ^ 16`, exponents of two or more digits
beyond. -/
def layout (digits : List Char) (point : Int) : List Char :=
  if point > 16 || point < -3 then
    let e := point - 1
    let fraction := match digits.drop 1 with
      | [] => []
      | rest => '.' :: rest
    let power := natText e.natAbs
    digits.take 1 ++ fraction ++ 'e' :: (if e < 0 then '-' else '+') ::
      (if power.length < 2 then '0' :: power else power)
  else if point ≤ 0 then "0.".toList ++ List.replicate point.natAbs '0' ++ digits
  else
    let n := point.toNat
    if digits.length ≤ n then digits ++ List.replicate (n - digits.length) '0' ++ ".0".toList
    else digits.take n ++ '.' :: digits.drop n

/-- The shortest text that reads back as the same double. -/
def text : Binary64 → List Char
  | .nan => "nan".toList
  | .infinite negative => (if negative then "-inf" else "inf").toList
  | .finite negative significand exponent =>
    let sign := if negative then ['-'] else []
    if significand == 0 then sign ++ "0.0".toList
    else
      let (digits, unit) := shortest significand exponent
      let (digits, point) := trimmed digits unit
      sign ++ layout digits point

def isFinite : Binary64 → Bool
  | .finite .. => true
  | _ => false

/-- A finite double as an integer over a power of two: numerator and denominator. -/
def fraction (negative : Bool) (significand : Nat) (exponent : Int) : Int × Nat :=
  let (num, den) := quotient significand exponent
  (if negative then -(num : Int) else num, den)

def negated : Binary64 → Binary64
  | .finite negative significand exponent => .finite (!negative) significand exponent
  | .infinite negative => .infinite !negative
  | .nan => .nan

/-- The double nearest to a sum `x + k * y` of finite doubles. -/
def plusMultiple (x : Binary64) (k : Nat) (y : Binary64) : Binary64 :=
  match x, y with
  | .finite a m e, .finite b l f =>
    let (n₁, d₁) := fraction a m e
    let (n₂, d₂) := fraction b l f
    let num := n₁ * d₂ + k * n₂ * d₁
    ofQuotient (num < 0) num.natAbs (d₁ * d₂)
  | .finite .., y => y
  | x, _ => x

/-- Numeric order of a double and an integer; nothing is below or above a number that is none. -/
def compareInt? (x : Binary64) (n : Int) : Option Ordering :=
  match x with
  | .nan => none
  | .infinite negative => some (if negative then .lt else .gt)
  | .finite negative significand exponent =>
    let (num, den) := fraction negative significand exponent
    some (compare num (n * den))

/-- Numeric order of doubles. -/
def compare? (x y : Binary64) : Option Ordering :=
  match x, y with
  | .nan, _ => none
  | _, .nan => none
  | .infinite a, .infinite b => some (if a == b then .eq else if a then .lt else .gt)
  | .infinite a, _ => some (if a then .lt else .gt)
  | _, .infinite b => some (if b then .gt else .lt)
  | .finite a m e, .finite b k f =>
    let (n₁, d₁) := fraction a m e
    let (n₂, d₂) := fraction b k f
    some (compare (n₁ * d₂) (n₂ * d₁))

end Binary64

end CrateSurface
