namespace CrateSurface.Log

/-- The weight of a message; messages below the level in force are dropped. -/
abbrev Level := Int

def debug : Level := 10
def info : Level := 20
def warning : Level := 30

/-- The part of the program that a message comes from. -/
inductive Source where
  | commandLine
  | settings
  | extraction
  | walk
  | parsing
  | items
  | signatures
  | impls
  | assembly
deriving Repr, DecidableEq

/-- The name under which messages of a part appear. -/
def Source.name : Source → String
  | .commandLine => "run_extractor"
  | .settings => "core.runtime_config"
  | .extraction => "surface.extractor"
  | .walk => "surface.walker"
  | .parsing => "surface.parser"
  | .items => "surface.items"
  | .signatures => "surface.signatures"
  | .impls => "surface.impls"
  | .assembly => "surface.assembler"

/-- A message for the log. -/
structure Note where
  level : Level
  source : Source
  message : String
deriving Repr, DecidableEq

end CrateSurface.Log
