import CrateSurface.Log.Note
import CrateSurface.Number.Integer
import CrateSurface.Text.Case
import CrateSurface.Value.Display

namespace CrateSurface.Log

/-- A level as it was chosen. A truth value counts as 1 or 0 and is still shown as one. -/
inductive LevelChoice where
  | flag (b : Bool)
  | number (n : Int)
deriving Repr, DecidableEq

def LevelChoice.level : LevelChoice → Level
  | .flag b => if b then 1 else 0
  | .number n => n

/-- The names that choose a level. -/
def levelNames : List (String × Level) :=
  [("CRITICAL", 50), ("FATAL", 50), ("ERROR", 40), ("WARN", 30), ("WARNING", 30), ("INFO", 20),
    ("DEBUG", 10), ("NOTSET", 0)]

/-- The level that a text names: digits of any script as a number, else a name in any case. -/
def levelOfText (text : String) (fallback : LevelChoice) : Except IntegerFault LevelChoice :=
  let text := Text.strip text
  if text != "" && text.toList.all Text.isDigit then (readInteger 10 text.toList).map .number
  else .ok (((levelNames.lookup (Text.upper text)).map .number).getD fallback)

/-- The level that a value chooses, by its text if it is no number. Nothing, an empty text or an
unknown name chooses the fallback; no name of a level has surrogates in it. -/
def chooseLevel (value : Value) (fallback : LevelChoice) : Except IntegerFault LevelChoice :=
  match value with
  | .null => .ok fallback
  | .str "" => .ok fallback
  | .bool b => .ok (.flag b)
  | .int n => .ok (.number n)
  | .illFormed _ => .ok fallback
  | value => do
    let text ← value.written
    levelOfText text fallback

/-- The level in force where none is chosen. -/
def defaultLevel : LevelChoice := .number warning

end CrateSurface.Log
