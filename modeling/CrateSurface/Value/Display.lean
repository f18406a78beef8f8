import CrateSurface.Number.Integer
import CrateSurface.Value.Basic

namespace CrateSurface

/-- A number with leading zeros up to a width. -/
def padded (width n : Nat) : String :=
  let digits := natText n
  String.ofList (List.replicate (width - digits.length) '0' ++ digits)

def Date.text (d : Date) : String :=
  padded 4 d.year ++ "-" ++ padded 2 d.month ++ "-" ++ padded 2 d.day

/-- An offset from UTC as `+hh:mm`, with seconds if there are any. -/
def offsetText (offset : Int) : String :=
  let n := offset.natAbs
  (if offset < 0 then "-" else "+") ++ padded 2 (n / 3600) ++ ":" ++ padded 2 (n / 60 % 60) ++
    (if n % 60 == 0 then "" else ":" ++ padded 2 (n % 60))

def Clock.text (t : Clock) : String :=
  padded 2 t.hour ++ ":" ++ padded 2 t.minute ++ ":" ++ padded 2 t.second ++
    (if t.microsecond == 0 then "" else "." ++ padded 6 t.microsecond) ++
    (t.offset.map offsetText).getD ""

namespace Value

/-- The parts of a time that stand in its display: seconds and below only where needed. -/
def clockParts (t : Clock) : List String :=
  let shown := [t.hour, t.minute] ++
    (if t.second == 0 && t.microsecond == 0 then [] else [t.second]) ++
    (if t.microsecond == 0 then [] else [t.microsecond])
  shown.map toString

/-- A length of time as messages show it, in days and a rest of seconds that is not negative. -/
def durationText (duration : Int) : String :=
  let days := duration.fdiv 86400
  let seconds := duration.fmod 86400
  let parts := (if days == 0 then [] else ["days=" ++ toString days]) ++
    (if seconds == 0 then [] else ["seconds=" ++ toString seconds])
  "datetime.timedelta(" ++ (if parts.isEmpty then "0" else ", ".intercalate parts) ++ ")"

/-- A time zone as messages show it. -/
def zoneText (offset : Int) : String :=
  if offset == 0 then "datetime.timezone.utc"
  else "datetime.timezone(" ++ durationText offset ++ ")"

def quotedByte (quote : Char) (b : UInt8) : List Char :=
  let c := Char.ofNat b.toNat
  if c == quote || c == '\\' then ['\\', c]
  else if c == '\n' then ['\\', 'n']
  else if c == '\r' then ['\\', 'r']
  else if c == '\t' then ['\\', 't']
  else if 0x20 ≤ b && b < 0x7f then [c]
  else '\\' :: 'x' :: Text.hexDigits 2 b.toNat

/-- Bytes in quotes. -/
def quotedBytes (data : List UInt8) : String :=
  let quote := if data.contains 0x27 && !data.contains 0x22 then '"' else '\''
  String.ofList ('b' :: quote :: data.flatMap (quotedByte quote) ++ [quote])

mutual

/-- A value as messages show it inside other text: texts in quotes, keys and items in brackets. -/
def repr : Value → String
  | .null => "None"
  | .bool b => if b then "True" else "False"
  | .int n => String.ofList (intText n)
  | .float x => String.ofList x.text
  | .str s => Text.quoted s
  | .illFormed text => Text.quotedPoints text.points
  | .bytes data => quotedBytes data
  | .date d =>
    "datetime.date(" ++ toString d.year ++ ", " ++ toString d.month ++ ", " ++ toString d.day ++ ")"
  | .datetime d t =>
    "datetime.datetime(" ++
      ", ".intercalate ([toString d.year, toString d.month, toString d.day] ++ clockParts t ++
        (t.offset.map fun offset => "tzinfo=" ++ zoneText offset).toList) ++ ")"
  | .list items => "[" ++ ", ".intercalate (reprItems items) ++ "]"
  | .pair first second => "(" ++ first.repr ++ ", " ++ second.repr ++ ")"
  | .set [] => "set()"
  | .set (item :: rest) => "\x7b" ++ ", ".intercalate (reprItems (item :: rest)) ++ "\x7d"
  | .map entries => "\x7b" ++ ", ".intercalate (reprEntries entries) ++ "\x7d"
  | .cycle isMap => if isMap then "\x7b...\x7d" else "[...]"

def reprItems : List Value → List String
  | [] => []
  | item :: rest => item.repr :: reprItems rest

def reprEntries : List (Value × Value) → List String
  | [] => []
  | (key, value) :: rest => (key.repr ++ ": " ++ value.repr) :: reprEntries rest

end

/-- A value as a text of its own: texts, days and times stand for themselves, surrogates as they are
shown. -/
def text : Value → String
  | .str s => s
  | .illFormed text => Text.shown text.points
  | .date d => d.text
  | .datetime d t => d.text ++ " " ++ t.text
  | value => value.repr

mutual

/-- Whether a value holds an integer that has more digits than may be written. -/
def holdsLongInteger : Value → Bool
  | .int n => integerDigitLimit < (natText n.natAbs).length
  | .list items => anyHoldsLong items
  | .pair first second => first.holdsLongInteger || second.holdsLongInteger
  | .set items => anyHoldsLong items
  | .map entries => anyEntryHoldsLong entries
  | _ => false

def anyHoldsLong : List Value → Bool
  | [] => false
  | item :: rest => item.holdsLongInteger || anyHoldsLong rest

def anyEntryHoldsLong : List (Value × Value) → Bool
  | [] => false
  | (key, value) :: rest =>
    key.holdsLongInteger || value.holdsLongInteger || anyEntryHoldsLong rest

end

/-- The text of a value, if all integers in it can be written. -/
def written (value : Value) : Except IntegerFault String :=
  if value.holdsLongInteger then .error .unwritable else .ok value.text

end Value

end CrateSurface
