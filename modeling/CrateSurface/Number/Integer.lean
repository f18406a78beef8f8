import CrateSurface.Number.Decimal
import CrateSurface.Text.Blank
import CrateSurface.Text.Digit
import CrateSurface.Text.Quoted

namespace CrateSurface

/-- Why an integer is not read from a text, or not written as one. -/
inductive IntegerFault where
  | tooLong (digits : Nat)
  | malformed (base : Nat) (text : List CodePoint)
  | unwritable
deriving Repr, DecidableEq

/-- The most characters of a refused text that a message shows, quotes included. -/
def shownLength : Nat := 200

/-- The text of a failure to read an integer. -/
def IntegerFault.message : IntegerFault → String
  | .tooLong digits => tooManyDigits digits
  | .malformed base text =>
    "invalid literal for int() with base " ++ toString base ++ ": " ++
      String.ofList ((Text.quotedPoints text).toList.take shownLength)
  | .unwritable =>
    "Exceeds the limit (" ++ toString integerDigitLimit ++ " digits) for integer string " ++
      "conversion; use sys.set_int_max_str_digits() to increase the limit"

/-- The value of a digit: a decimal digit of any script, or a letter for ten to fifteen. -/
def digitValue? (c : Char) : Option Nat :=
  match Text.decimalValue? c with
  | some d => some d
  | none =>
    if 'a' ≤ c ∧ c ≤ 'f' then some (c.toNat - 'a'.toNat + 10)
    else if 'A' ≤ c ∧ c ≤ 'F' then some (c.toNat - 'A'.toNat + 10)
    else none

def isDigitOf (base : Nat) (c : Char) : Bool :=
  (digitValue? c).any (· < base)

/-- The number that digits denote in a base. -/
def numberOf (base : Nat) (digits : List Char) : Nat :=
  digits.foldl (fun n c => base * n + (digitValue? c).getD 0) 0

/-- A text without the mark that some bases may have before their digits. -/
def dropMark (base : Nat) (cs : List Char) : List Char :=
  let mark := if base == 2 then 'b' else if base == 8 then 'o' else 'x'
  match cs with
  | '0' :: c :: rest =>
    if base != 10 && (c == mark || c == mark.toUpper) && !rest.isEmpty then rest else cs
  | _ => cs

/-- Whether a minus sign comes first, and the text behind a sign. -/
def dropSign (cs : List Char) : Bool × List Char :=
  match cs with
  | '-' :: rest => (true, rest)
  | '+' :: rest => (false, rest)
  | rest => (false, rest)

/-- Reads an integer with an optional sign, blanks around it. Only decimal digits are limited in
number, and the limit is looked at before what follows the digits. -/
def readInteger (base : Nat) (text : List Char) : Except IntegerFault Int :=
  let (negative, body) := dropSign (Text.stripList text)
  let body := dropMark base body
  let digits := body.takeWhile (isDigitOf base)
  if base == 10 && digits.length > integerDigitLimit then .error (.tooLong digits.length)
  else if digits.isEmpty || digits.length != body.length then
    .error (.malformed base (text.map .char))
  else
    let n : Int := numberOf base digits
    .ok (if negative then -n else n)

/-- Reads an integer from a text that may have surrogates in it, which no number has. Of what stands
before them only too many digits count. -/
def readIntegerPoints (base : Nat) (text : List CodePoint) : Except IntegerFault Int :=
  match Text.string? text with
  | some s => readInteger base s.toList
  | none =>
    match readInteger base ((text.takeWhile (!·.isSurrogate)).filterMap CodePoint.char?) with
    | .error (.tooLong digits) => .error (.tooLong digits)
    | _ => .error (.malformed base text)

end CrateSurface
