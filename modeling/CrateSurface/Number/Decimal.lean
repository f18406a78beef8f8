namespace CrateSurface

/-- The character of a decimal digit. -/
def digitChar (d : Nat) : Char :=
  "0123456789".toList.getD d '0'

/-- The decimal digits of a number that has at most `width` of them. -/
def digitsWithin : (width : Nat) → Nat → List Char
  | 0, _ => []
  | width + 1, n =>
    if n < 10 then [digitChar n] else digitsWithin width (n / 10) ++ [digitChar (n % 10)]

/-- The decimal digits of a natural number, without leading zeros. -/
def natText (n : Nat) : List Char :=
  digitsWithin (n + 1) n

/-- The decimal text of an integer. -/
def intText (n : Int) : List Char :=
  match n with
  | .ofNat n => natText n
  | .negSucc n => '-' :: natText (n + 1)

/-- The number that ASCII digits denote. -/
def asciiNumber (digits : List Char) : Nat :=
  digits.foldl (fun n c => 10 * n + (c.toNat - '0'.toNat)) 0

/-- The most digits that the text of an integer may have. -/
def integerDigitLimit : Nat := 4300

/-- The text of the refusal to read an integer that has too many digits. -/
def tooManyDigits (digits : Nat) : String :=
  "Exceeds the limit (" ++ toString integerDigitLimit ++ " digits) for integer string " ++
    "conversion: value has " ++ toString digits ++ " digits; use sys.set_int_max_str_digits() " ++
    "to increase the limit"

end CrateSurface
