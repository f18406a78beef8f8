import CrateSurface.Json.Basic

namespace CrateSurface.Json

/-- What is wrong with a JSON text. -/
inductive Complaint where
  | value
  | propertyName
  | colon
  | comma
  | extraData
  | controlCharacter
  | unterminatedString
  | escape
  | unicodeEscape
  | byteOrderMark
  | integerSize (digits : Nat)
deriving Repr, DecidableEq

/-- A complaint, with the text from the place that it points at. -/
structure Fault where
  complaint : Complaint
  rest : List Char
deriving Repr

def isSpace (c : Char) : Bool :=
  c == ' ' || c == '\t' || c == '\n' || c == '\r'

def skipSpace (cs : List Char) : List Char :=
  cs.dropWhile isSpace

def hexValue? (c : Char) : Option Nat :=
  if '0' ≤ c ∧ c ≤ '9' then some (c.toNat - 48)
  else if 'a' ≤ c ∧ c ≤ 'f' then some (c.toNat - 87)
  else if 'A' ≤ c ∧ c ≤ 'F' then some (c.toNat - 55)
  else none

/-- Four hexadecimal digits; a text needs at least one more character behind them. -/
def fourHex? : List Char → Option (Nat × List Char)
  | a :: b :: c :: d :: next :: rest => do
    let a ← hexValue? a
    let b ← hexValue? b
    let c ← hexValue? c
    let d ← hexValue? d
    return (((a * 16 + b) * 16 + c) * 16 + d, next :: rest)
  | _ => none

def isHighSurrogate (n : Nat) : Bool :=
  0xd800 ≤ n && n < 0xdc00

def isLowSurrogate (n : Nat) : Bool :=
  0xdc00 ≤ n && n < 0xe000

def joinSurrogates (high low : Nat) : Nat :=
  0x10000 + (high - 0xd800) * 0x400 + (low - 0xdc00)

/-- A code point as a character; half of a surrogate pair has none of its own. -/
def codePoint (n : Nat) : Char :=
  if n.isValidChar then Char.ofNat n else '\ufffd'

/-- What follows `\u`: one code point, or two halves of one. `start` is the text from the `u` on. -/
def readUnicode (start rest : List Char) : Except Fault (Char × List Char) :=
  match fourHex? rest with
  | none => .error ⟨.unicodeEscape, start⟩
  | some (n, after) =>
    match isHighSurrogate n, after with
    | true, '\\' :: 'u' :: more =>
      if more.length < 5 then .ok (codePoint n, after)
      else
        match fourHex? more with
        | none => .error ⟨.unicodeEscape, 'u' :: more⟩
        | some (low, beyond) =>
          if isLowSurrogate low then .ok (codePoint (joinSurrogates n low), beyond)
          else .ok (codePoint n, after)
    | _, _ => .ok (codePoint n, after)

def simpleEscape? (c : Char) : Option Char :=
  match c with
  | '"' => some '"'
  | '\\' => some '\\'
  | '/' => some '/'
  | 'b' => some '\x08'
  | 'f' => some '\x0c'
  | 'n' => some '\n'
  | 'r' => some '\r'
  | 't' => some '\t'
  | _ => none

/-- The rest of a string after its opening quote. `start` is the text from that quote on. -/
def readChars (start : List Char) : (fuel : Nat) → List Char → Except Fault (List Char × List Char)
  | 0, _ => .error ⟨.unterminatedString, start⟩
  | _ + 1, [] => .error ⟨.unterminatedString, start⟩
  | _ + 1, '"' :: rest => .ok ([], rest)
  | fuel + 1, '\\' :: rest =>
    match rest with
    | [] => .error ⟨.unterminatedString, start⟩
    | 'u' :: more => do
      let (c, after) ← readUnicode rest more
      let (cs, beyond) ← readChars start fuel after
      return (c :: cs, beyond)
    | escape :: more =>
      match simpleEscape? escape with
      | none => .error ⟨.escape, '\\' :: rest⟩
      | some c => do
        let (cs, beyond) ← readChars start fuel more
        return (c :: cs, beyond)
  | fuel + 1, c :: rest =>
    if c.toNat < 0x20 then .error ⟨.controlCharacter, c :: rest⟩
    else do
      let (cs, beyond) ← readChars start fuel rest
      return (c :: cs, beyond)

/-- A string after its opening quote. -/
def readString (rest : List Char) : Except Fault (String × List Char) := do
  let (cs, after) ← readChars ('"' :: rest) (rest.length + 1) rest
  return (String.ofList cs, after)

/-- The digits of the whole part: a zero stands alone. -/
def readWhole? (cs : List Char) : Option (List Char × List Char) :=
  match cs with
  | '0' :: rest => some (['0'], rest)
  | c :: rest =>
    if c.isDigit then some (c :: rest.takeWhile Char.isDigit, rest.dropWhile Char.isDigit) else none
  | [] => none

/-- A point with at least one digit behind it, if there is one. -/
def readFraction (cs : List Char) : List Char × List Char :=
  match cs with
  | '.' :: rest => match rest.takeWhile Char.isDigit with
    | [] => ([], cs)
    | digits => (digits, rest.dropWhile Char.isDigit)
  | _ => ([], cs)

/-- An exponent with at least one digit, if there is one. -/
def readExponent? (cs : List Char) : Option Int × List Char :=
  match cs with
  | e :: rest =>
    if e == 'e' || e == 'E' then
      let (negative, body) := match rest with
        | '-' :: more => (true, more)
        | '+' :: more => (false, more)
        | _ => (false, rest)
      match body.takeWhile Char.isDigit with
      | [] => (none, cs)
      | digits =>
        let n : Int := asciiNumber digits
        (some (if negative then -n else n), body.dropWhile Char.isDigit)
    else (none, cs)
  | [] => (none, cs)

/-- A number without its sign. `start` is the text from the sign on. -/
def readMagnitude (negative : Bool) (start cs : List Char) : Except Fault (Json × List Char) :=
  match readWhole? cs with
  | none => .error ⟨.value, start⟩
  | some (whole, rest) =>
    let (fraction, rest) := readFraction rest
    match fraction, readExponent? rest with
    | [], (none, rest) =>
      if whole.length > integerDigitLimit then .error ⟨.integerSize whole.length, start⟩
      else
        let n : Int := asciiNumber whole
        .ok (.int (if negative then -n else n), rest)
    | fraction, (exponent, rest) =>
      .ok (.float (Binary64.ofDecimal negative (asciiNumber (whole ++ fraction))
        (exponent.getD 0 - fraction.length)), rest)

def readNumber (cs : List Char) : Except Fault (Json × List Char) :=
  match cs with
  | '-' :: rest => readMagnitude true cs rest
  | _ => readMagnitude false cs cs

/-- Takes a fixed word off the front of a text. -/
def word? (word : String) (cs : List Char) : Option (List Char) :=
  if word.toList.isPrefixOf cs then some (cs.drop word.length) else none

/-- A value that is no string, array or object. -/
def readPlain (cs : List Char) : Except Fault (Json × List Char) :=
  match word? "null" cs, word? "true" cs, word? "false" cs, word? "NaN" cs,
      word? "Infinity" cs, word? "-Infinity" cs with
  | some rest, _, _, _, _, _ => .ok (.null, rest)
  | _, some rest, _, _, _, _ => .ok (.bool true, rest)
  | _, _, some rest, _, _, _ => .ok (.bool false, rest)
  | _, _, _, some rest, _, _ => .ok (.float .nan, rest)
  | _, _, _, _, some rest, _ => .ok (.float (.infinite false), rest)
  | _, _, _, _, _, some rest => .ok (.float (.infinite true), rest)
  | _, _, _, _, _, _ => readNumber cs

mutual

/-- Reads one value. Two steps take at least one character, so that twice the length of the text is
fuel enough. -/
def readValue : (fuel : Nat) → List Char → Except Fault (Json × List Char)
  | 0, cs => .error ⟨.value, cs⟩
  | fuel + 1, cs =>
    match cs with
    | '"' :: rest => do
      let (s, after) ← readString rest
      return (.str s, after)
    | '\x7b' :: rest =>
      match skipSpace rest with
      | '\x7d' :: after => .ok (.obj [], after)
      | rest => do
        let (members, after) ← readMembers fuel rest
        return (ofMembers members, after)
    | '[' :: rest =>
      match skipSpace rest with
      | ']' :: after => .ok (.arr [], after)
      | rest => do
        let (items, after) ← readItems fuel rest
        return (.arr items, after)
    | cs => readPlain cs

/-- Reads the items of an array up to its end. -/
def readItems : (fuel : Nat) → List Char → Except Fault (List Json × List Char)
  | 0, cs => .error ⟨.value, cs⟩
  | fuel + 1, cs => do
    let (item, after) ← readValue fuel cs
    match skipSpace after with
    | ']' :: rest => return ([item], rest)
    | ',' :: rest =>
      let (items, rest) ← readItems fuel (skipSpace rest)
      return (item :: items, rest)
    | rest => .error ⟨.comma, rest⟩

/-- Reads the members of an object up to its end. -/
def readMembers : (fuel : Nat) → List Char → Except Fault (List (String × Json) × List Char)
  | 0, cs => .error ⟨.propertyName, cs⟩
  | fuel + 1, cs =>
    match cs with
    | '"' :: rest => do
      let (key, after) ← readString rest
      match skipSpace after with
      | ':' :: rest =>
        let (value, after) ← readValue fuel (skipSpace rest)
        match skipSpace after with
        | '\x7d' :: rest => return ([(key, value)], rest)
        | ',' :: rest =>
          let (members, rest) ← readMembers fuel (skipSpace rest)
          return ((key, value) :: members, rest)
        | rest => .error ⟨.comma, rest⟩
      | rest => .error ⟨.colon, rest⟩
    | cs => .error ⟨.propertyName, cs⟩

end

/-- Reads a text that holds one value and nothing else. -/
def readText (text : List Char) : Except Fault Json :=
  match text with
  | '\ufeff' :: _ => .error ⟨.byteOrderMark, text⟩
  | _ => do
    let (value, after) ← readValue (2 * text.length + 2) (skipSpace text)
    match skipSpace after with
    | [] => .ok value
    | rest => .error ⟨.extraData, rest⟩

/-- The value that a text denotes. -/
def read (text : String) : Except Fault Json :=
  readText text.toList

def Complaint.text : Complaint → String
  | .value => "Expecting value"
  | .propertyName => "Expecting property name enclosed in double quotes"
  | .colon => "Expecting ':' delimiter"
  | .comma => "Expecting ',' delimiter"
  | .extraData => "Extra data"
  | .controlCharacter => "Invalid control character at"
  | .unterminatedString => "Unterminated string starting at"
  | .escape => "Invalid \\escape"
  | .unicodeEscape => "Invalid \\uXXXX escape"
  | .byteOrderMark => "Unexpected UTF-8 BOM (decode using utf-8-sig)"
  | .integerSize digits => tooManyDigits digits

/-- A complaint with the line, column and index of its place. Columns and lines count from one. -/
def Fault.message (text : String) (fault : Fault) : String :=
  match fault.complaint with
  | .integerSize digits => tooManyDigits digits
  | complaint =>
    let before := text.toList.take (text.length - fault.rest.length)
    let line := before.count '\n' + 1
    let column := (before.reverse.takeWhile (· != '\n')).length + 1
    complaint.text ++ ": line " ++ toString line ++ " column " ++ toString column ++
      " (char " ++ toString before.length ++ ")"

end CrateSurface.Json
