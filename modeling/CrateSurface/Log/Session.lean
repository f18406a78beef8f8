import CrateSurface.Log.Note

namespace CrateSurface.Log

/-- A message as it was logged: with the run and the phase that it belongs to. -/
structure Record where
  level : Level
  runId : String
  phase : String
  source : String
  message : String
deriving Repr, DecidableEq

/-- The state that log messages are stamped with, and the messages so far. Phases nest: each open
scope has put aside the phase that it replaced, and `replaced` holds these, that of the innermost
scope first. -/
structure Session where
  runId : String
  phase : String
  replaced : List String
  records : List Record
deriving Repr

namespace Session

/-- No run has been named and no phase is open. -/
def start : Session := ⟨"-", "-", [], []⟩

def setRunId (runId : String) (s : Session) : Session :=
  { s with runId }

/-- Opens a scope, whose phase replaces the current one. -/
def enter (phase : String) (s : Session) : Session :=
  { s with phase, replaced := s.phase :: s.replaced }

/-- Ends the innermost scope: the phase that it replaced is the current one again. -/
def leave (s : Session) : Session :=
  match s.replaced with
  | [] => s
  | before :: rest => { s with phase := before, replaced := rest }

/-- Logs a message under a name. -/
def log (level : Level) (source message : String) (s : Session) : Session :=
  { s with records := s.records ++ [⟨level, s.runId, s.phase, source, message⟩] }

def add (note : Note) (s : Session) : Session :=
  s.log note.level note.source.name note.message

end Session

/-- A task that may log and may fail. What it logged before a failure stays. -/
abbrev Task (ε α : Type) := ExceptT ε (StateM Session) α

namespace Task

variable {ε α : Type}

def note (note : Note) : Task ε Unit :=
  modify (Session.add note)

def notes (notes : List Note) : Task ε Unit :=
  modify fun s => notes.foldl (fun s note => s.add note) s

/-- Runs a task inside a phase; the phase ends with the task, however that ends. -/
def inPhase (phase : String) (task : Task ε α) : Task ε α :=
  fun s =>
    let (result, after) := task (s.enter phase)
    (result, after.leave)

end Task

/-- The name of a level. -/
def levelName (level : Level) : String :=
  if level == 0 then "NOTSET"
  else if level == 10 then "DEBUG"
  else if level == 20 then "INFO"
  else if level == 30 then "WARNING"
  else if level == 40 then "ERROR"
  else if level == 50 then "CRITICAL"
  else "Level " ++ toString level

end CrateSurface.Log
