import CrateSurface.Number.Integer
import CrateSurface.Text.Case
import CrateSurface.Value.Display

namespace CrateSurface.Yaml

/-- Why a scalar has no value of the kind that its form or its tag asks for. -/
inductive ValueFault where
  | integer (fault : IntegerFault)
  | empty
  | decimal (text : List CodePoint)
  | truth (text : List CodePoint)
  | notTimestamp
  | year (n : Nat)
  | month
  | day
  | hour
  | minute
  | second
  | offset (seconds : Int)
  | unit
  | codePoint (n : Nat)
deriving Repr, DecidableEq

def ValueFault.message : ValueFault → String
  | .integer fault => fault.message
  | .empty => "string index out of range"
  | .decimal text => "could not convert string to float: " ++ Text.quotedPoints text
  | .truth text => Text.quotedPoints text
  | .notTimestamp => "'NoneType' object has no attribute 'groupdict'"
  | .year n => "year " ++ toString n ++ " is out of range"
  | .month => "month must be in 1..12"
  | .day => "day is out of range for month"
  | .hour => "hour must be in 0..23"
  | .minute => "minute must be in 0..59"
  | .second => "second must be in 0..59"
  | .offset seconds =>
    "offset must be a timedelta strictly between -timedelta(hours=24) and timedelta(hours=24), " ++
      "not " ++ Value.durationText seconds ++ "."
  | .unit => "int too large to convert to float"
  | .codePoint n =>
    if n < Nat.pow 2 31 then "chr() arg not in range(0x110000)"
    else "Python int too large to convert to C int"

def isOctal (c : Char) : Bool :=
  '0' ≤ c && c ≤ '7'

def isHex (c : Char) : Bool :=
  c.isDigit || ('a' ≤ c && c ≤ 'f') || ('A' ≤ c && c ≤ 'F')

/-- One or more characters that satisfy a condition or are underscores. -/
def isRunOf (p : Char → Bool) (cs : List Char) : Bool :=
  !cs.isEmpty && cs.all fun c => p c || c == '_'

/-- Digits and underscores that begin with a digit. -/
def isGrouped (cs : List Char) : Bool :=
  match cs with
  | c :: rest => c.isDigit && rest.all fun c => c.isDigit || c == '_'
  | [] => false

/-- A number from 0 to 59. -/
def isSixtieth (cs : List Char) : Bool :=
  match cs with
  | [a] => a.isDigit
  | [a, b] => '0' ≤ a && a ≤ '5' && b.isDigit
  | _ => false

/-- The forms of integers: binary, octal, decimal, hexadecimal and to base sixty. -/
def isInteger (cs : List Char) : Bool :=
  let body := (dropSign cs).2
  match body with
  | '0' :: 'b' :: rest => isRunOf (fun c => c == '0' || c == '1') rest
  | '0' :: 'x' :: rest => isRunOf isHex rest
  | ['0'] => true
  | '0' :: rest => isRunOf isOctal rest
  | _ =>
    match body.splitOn ':' with
    | whole :: sixtieths => isGrouped whole && sixtieths.all isSixtieth
    | [] => false

/-- An exponent, which needs its sign, or nothing. -/
def isExponent (cs : List Char) : Bool :=
  match cs with
  | [] => true
  | e :: sign :: digits =>
    (e == 'e' || e == 'E') && (sign == '-' || sign == '+') && !digits.isEmpty &&
      digits.all Char.isDigit
  | _ => false

def isFractionChar (c : Char) : Bool :=
  c.isDigit || c == '_'

/-- The forms of decimals: with a point, to base sixty with a point, and the names of numbers that
are not finite. -/
def isDecimal (cs : List Char) : Bool :=
  let body := (dropSign cs).2
  let named := [".inf", ".Inf", ".INF"].any fun name => body == name.toList
  let noNumber := [".nan", ".NaN", ".NAN"].any fun name => cs == name.toList
  let pointFirst := match cs with
    | '.' :: c :: rest => c.isDigit && isExponent (rest.dropWhile isFractionChar)
    | _ => false
  let whole := body.takeWhile (· != '.')
  let pointLater := match body.dropWhile (· != '.') with
    | '.' :: rest =>
      (isGrouped whole && isExponent (rest.dropWhile isFractionChar)) ||
        (match whole.splitOn ':' with
          | first :: sixtieth :: more =>
            isGrouped first && (sixtieth :: more).all isSixtieth && rest.all isFractionChar
          | _ => false)
    | _ => false
  named || noNumber || pointFirst || pointLater

def truthValues : List (String × Bool) :=
  [("yes", true), ("no", false), ("true", true), ("false", false), ("on", true), ("off", false)]

/-- A truth value in lower case, capitalised, or in upper case. -/
def truth? (text : String) : Option Bool :=
  let forms (word : String) : List (List Char) :=
    let cs := word.toList
    [cs, (cs.take 1).map Char.toUpper ++ cs.drop 1, cs.map Char.toUpper]
  (truthValues.find? fun value => (forms value.1).contains text.toList).map (·.2)

def isNull (text : String) : Bool :=
  ["", "~", "null", "Null", "NULL"].contains text

/-- The text of a number without its underscores, cut after its sign. -/
def signed (text : List CodePoint) : Except ValueFault (Bool × List CodePoint) :=
  match text.filter (· != .char '_') with
  | [] => .error .empty
  | .char '-' :: rest => .ok (true, rest)
  | .char '+' :: rest => .ok (false, rest)
  | rest => .ok (false, rest)

/-- An integer in one of its forms. -/
def integer (text : List CodePoint) : Except ValueFault Int := do
  let (negative, body) ← signed text
  let based (base : Nat) (digits : List CodePoint) : Except ValueFault Int :=
    (readIntegerPoints base digits).mapError .integer
  let n ← match body with
    | [] => throw .empty
    | [.char '0'] => pure 0
    | .char '0' :: .char 'b' :: digits => based 2 digits
    | .char '0' :: .char 'x' :: digits => based 16 digits
    | .char '0' :: _ => based 8 body
    | _ => do
      let parts ← (body.splitOn (.char ':')).mapM (based 10)
      pure (parts.foldl (fun n part => 60 * n + part) 0)
  return if negative then -n else n

/-- A decimal numeral: digits with at most one point, and an exponent. -/
def isNumeral (cs : List Char) : Bool :=
  let whole := cs.takeWhile Text.isDecimal
  let rest := cs.dropWhile Text.isDecimal
  let (fraction, rest) := match rest with
    | '.' :: rest => (rest.takeWhile Text.isDecimal, rest.dropWhile Text.isDecimal)
    | rest => ([], rest)
  let isPower := match rest with
    | [] => true
    | 'e' :: power =>
      let digits := (dropSign power).2
      !digits.isEmpty && digits.all Text.isDecimal
    | _ => false
  !(whole.isEmpty && fraction.isEmpty) && isPower

/-- The number of a text in lower case, as a numeral or by a name. -/
def readDecimal (cs : List Char) : Except ValueFault Binary64 :=
  let (negative, body) := dropSign (Text.stripList cs)
  if body == "inf".toList || body == "infinity".toList then .ok (.infinite negative)
  else if body == "nan".toList then .ok .nan
  else if isNumeral body then
    let isMantissa (c : Char) : Bool := c != 'e'
    let mantissa := body.takeWhile isMantissa
    let (sinking, power) := dropSign ((body.dropWhile isMantissa).drop 1)
    let fraction := (mantissa.dropWhile (· != '.')).drop 1
    let exponent : Int := numberOf 10 power
    .ok (Binary64.ofDecimal negative (numberOf 10 (mantissa.filter (· != '.')))
      ((if sinking then -exponent else exponent) - fraction.length))
  else .error (.decimal (cs.map .char))

/-- Lower case for the ASCII letters among code points. -/
def lowerPoints (text : List CodePoint) : List CodePoint :=
  text.map fun
    | .char c => .char c.toLower
    | point => point

/-- A decimal, of which no part has surrogates in it. -/
def readDecimalPoints (text : List CodePoint) : Except ValueFault Binary64 :=
  match Text.string? text with
  | some s => readDecimal s.toList
  | none => .error (.decimal text)

/-- A decimal in one of its forms. To base sixty the unit of each part has to be a double. -/
def decimal (text : List CodePoint) : Except ValueFault Binary64 := do
  let (negative, body) ← signed (lowerPoints text)
  if body == Text.points ".inf" then return .infinite negative
  else if body == Text.points ".nan" then return .nan
  else if body.contains (.char ':') then
    let parts ← (body.splitOn (.char ':')).mapM readDecimalPoints
    if !(Binary64.ofQuotient false (Nat.pow 60 (parts.length - 1)) 1).isFinite then throw .unit
    let (x, _) := parts.foldr (fun part (sum, unit) => (sum.plusMultiple unit part, 60 * unit))
      (Binary64.finite false 0 0, 1)
    return if negative then x.negated else x
  else
    let x ← readDecimalPoints body
    return if negative then x.negated else x

/-- One or two digits, and the rest. -/
def oneOrTwo (cs : List Char) : Option (Nat × List Char) :=
  match cs with
  | a :: b :: rest =>
    if a.isDigit && b.isDigit then some (numberOf 10 [a, b], rest)
    else if a.isDigit then some (numberOf 10 [a], b :: rest)
    else none
  | [a] => if a.isDigit then some (numberOf 10 [a], []) else none
  | [] => none

def exactly (count : Nat) (cs : List Char) : Option (Nat × List Char) :=
  let digits := cs.take count
  if digits.length == count && digits.all Char.isDigit then
    some (numberOf 10 digits, cs.drop count)
  else none

def literal (c : Char) (cs : List Char) : Option (List Char) :=
  match cs with
  | d :: rest => if c == d then some rest else none
  | [] => none

/-- A time zone at the end of a time: none, `Z`, or an offset. -/
def zone? (cs : List Char) : Option (Option Int) :=
  match cs.dropWhile fun c => c == ' ' || c == '\t' with
  | [] => if cs.isEmpty then some none else none
  | ['Z'] => some (some 0)
  | sign :: rest =>
    if sign == '+' || sign == '-' then do
      let (hours, rest) ← oneOrTwo rest
      let minutes ← match rest with
        | [] => some 0
        | ':' :: rest =>
          match exactly 2 rest with
          | some (minutes, []) => some minutes
          | _ => none
        | _ => none
      let offset : Int := hours * 3600 + minutes * 60
      return some (if sign == '-' then -offset else offset)
    else none

/-- The time behind a day. -/
def clock? (cs : List Char) : Option Clock := do
  let rest ← match cs with
    | c :: rest =>
      if c == 'T' || c == 't' then some rest
      else if c == ' ' || c == '\t' then some (rest.dropWhile fun c => c == ' ' || c == '\t')
      else none
    | [] => none
  let (hour, rest) ← oneOrTwo rest
  let rest ← literal ':' rest
  let (minute, rest) ← exactly 2 rest
  let rest ← literal ':' rest
  let (second, rest) ← exactly 2 rest
  let (fraction, rest) := match rest with
    | '.' :: rest => (rest.takeWhile Char.isDigit, rest.dropWhile Char.isDigit)
    | _ => ([], rest)
  let offset ← zone? rest
  let six := fraction.take 6
  return ⟨hour, minute, second, numberOf 10 (six ++ List.replicate (6 - six.length) '0'), offset⟩

/-- The forms of days and times. A day by itself has two digits for month and day. -/
def timestamp? (cs : List Char) : Option (Date × Option Clock) := do
  let (year, rest) ← exactly 4 cs
  let rest ← literal '-' rest
  let day? := do
    let (month, rest) ← exactly 2 rest
    let rest ← literal '-' rest
    let (day, rest) ← exactly 2 rest
    if rest.isEmpty then some (Date.mk year month day) else none
  match day? with
  | some day => return (day, none)
  | none =>
    let (month, rest) ← oneOrTwo rest
    let rest ← literal '-' rest
    let (day, rest) ← oneOrTwo rest
    let clock ← clock? rest
    return (⟨year, month, day⟩, some clock)

def isLeap (year : Nat) : Bool :=
  year % 4 == 0 && (year % 100 != 0 || year % 400 == 0)

def daysIn (year month : Nat) : Nat :=
  if month == 2 then (if isLeap year then 29 else 28)
  else if [4, 6, 9, 11].contains month then 30
  else 31

/-- A day of the calendar, and a time of the clock. -/
def timestamp (day : Date) (clock : Option Clock) : Except ValueFault Value := do
  if let some t := clock then
    if let some offset := t.offset then
      if offset.natAbs ≥ 86400 then throw (.offset offset)
  if day.year == 0 then throw (.year day.year)
  if day.month == 0 || day.month > 12 then throw .month
  if day.day == 0 || day.day > daysIn day.year day.month then throw .day
  match clock with
  | none => return .date day
  | some t =>
    if t.hour > 23 then throw .hour
    if t.minute > 59 then throw .minute
    if t.second > 59 then throw .second
    return .datetime day t

/-- What a scalar without quotes stands for. -/
inductive PlainForm where
  | truth (b : Bool)
  | decimal
  | integer
  | merge
  | null
  | timestamp (day : Date) (clock : Option Clock)
  | value
  | text
deriving Repr

/-- The form of a scalar without quotes, from its text. -/
def plainForm (text : String) : PlainForm :=
  let cs := text.toList
  match truth? text, timestamp? cs with
  | some b, _ => .truth b
  | none, time =>
    if isDecimal cs then .decimal
    else if isInteger cs then .integer
    else if text == "<<" then .merge
    else if isNull text then .null
    else
      match time with
      | some (day, clock) => .timestamp day clock
      | none => if text == "=" then .value else .text

end CrateSurface.Yaml
