import CrateSurface.Log.Session

namespace CrateSurface.Log

/-- The line of a record on a configured console. -/
def Record.line (time : String) (r : Record) : String :=
  time ++ " | " ++ levelName r.level ++ " | run_id=" ++ r.runId ++ " | phase=" ++ r.phase ++
    " | " ++ r.source ++ " | " ++ r.message ++ "\n"

/-- Whether a record passes a threshold. Levels of zero and below never do. -/
def Record.passes (threshold : Level) (r : Record) : Bool :=
  decide (0 < r.level) && decide (threshold ≤ r.level)

/-- What a console with a threshold shows of records. -/
def lines (time : String) (threshold : Level) (records : List Record) : String :=
  String.join ((records.filter (·.passes threshold)).map (·.line time))

/-- What is shown of records before the console is configured: warnings, as bare messages. -/
def bareLines (records : List Record) : String :=
  String.join ((records.filter (·.passes warning)).map fun r => r.message ++ "\n")

/-- A session with its console, which has no threshold until it is configured. -/
structure Console where
  session : Session
  threshold : Option Level

namespace Console

def start : Console := ⟨Session.start, none⟩

def configure (threshold : Level) (c : Console) : Console :=
  { c with threshold := some threshold }

/-- Logs a message; the text is what a configured console shows of it. -/
def log (time : String) (level : Level) (source message : String) (c : Console) :
    Console × String :=
  let record : Record := ⟨level, c.session.runId, c.session.phase, source, message⟩
  let shown := match c.threshold with
    | some threshold => lines time threshold [record]
    | none => ""
  ({ c with session := c.session.log level source message }, shown)

end Console

/-- The id of a run: the given one, unless it is missing or empty. -/
def runIdOr (fresh : String) : Option String → String
  | none => fresh
  | some "" => fresh
  | some given => given

end CrateSurface.Log
