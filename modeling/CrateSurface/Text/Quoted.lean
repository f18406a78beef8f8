import CrateSurface.Text.CodePoint
import CrateSurface.Text.Printable

namespace CrateSurface.Text

def hexDigit (n : Nat) : Char :=
  "0123456789abcdef".toList.getD n '0'

/-- The last `width` hexadecimal digits of a number. -/
def hexDigits : Nat → Nat → List Char
  | 0, _ => []
  | width + 1, n => hexDigits width (n / 16) ++ [hexDigit (n % 16)]

/-- One character between the quotes. -/
def quotedChar (quote c : Char) : List Char :=
  if c == quote || c == '\\' then ['\\', c]
  else if c == '\n' then ['\\', 'n']
  else if c == '\r' then ['\\', 'r']
  else if c == '\t' then ['\\', 't']
  else if isPrintable c then [c]
  else if c.toNat < 0x100 then '\\' :: 'x' :: hexDigits 2 c.toNat
  else if c.toNat < 0x10000 then '\\' :: 'u' :: hexDigits 4 c.toNat
  else '\\' :: 'U' :: hexDigits 8 c.toNat

/-- A surrogate by its number. -/
def surrogateText (n : Fin 0x800) : List Char :=
  '\\' :: 'u' :: hexDigits 4 (0xd800 + n)

def quotedPoint (quote : Char) : CodePoint → List Char
  | .char c => quotedChar quote c
  | .surrogate n => surrogateText n

/-- Code points in quotes: double quotes when they hold a single one and no double one, single
quotes otherwise. -/
def quotedPoints (text : List CodePoint) : String :=
  let quote := if text.contains (.char '\'') && !text.contains (.char '"') then '"' else '\''
  String.ofList (quote :: text.flatMap (quotedPoint quote) ++ [quote])

/-- A text in quotes. -/
def quoted (s : String) : String :=
  quotedPoints (points s)

def shownPoint : CodePoint → List Char
  | .char c => [c]
  | .surrogate n => surrogateText n

/-- Code points as the error stream shows them: characters as they are. -/
def shown (text : List CodePoint) : String :=
  String.ofList (text.flatMap shownPoint)

end CrateSurface.Text
