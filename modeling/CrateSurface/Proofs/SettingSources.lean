import CrateSurface.Proofs.LevelVerdicts

namespace CrateSurface

/-- The text of the variable that overrides a setting, while it does: that for syntax errors wherever
it is set, the others where they are not empty. -/
def Environment.override? (env : Environment) : Settings.Key → Option String
  | .level => env.nonempty? Environment.logLevel
  | .allowFaults => env.lookup Environment.allowFaults
  | .reportDir => env.nonempty? Environment.reportDir

namespace Settings

section Files

/-- What a mapping has under the name of a key. -/
def valueUnder? (key : Key) : Value → Option Value
  | .map entries => (entries.find? fun entry => Key.ofValue? entry.1 == some key).map (·.2)
  | _ => none

/-- The value of the document that a path leads to, if it leads to one. -/
def valueAt? (tree : FileTree) (path : String) : Option Value := do
  let bytes ← (tree.readBytes path).toOption
  let text ← (Utf8.decode bytes).toOption
  (Yaml.load text).toOption

/-- What the settings file that the environment names has under the name of a key. -/
def fileValue? (tree : FileTree) (env : Environment) (key : Key) : Option Value := do
  let path ← env.nonempty? Environment.configPath
  let value ← valueAt? tree path
  valueUnder? key value

variable {tree : FileTree} {path : String} {env : Environment} {problems : List Problem}
  {entries : Entries}

end Files

/-- What a setting comes from: the text of a variable, or what the settings file has, if anything. -/
inductive Source where
  | variable (text : String)
  | file (value : Option Value)

/-- The source of a setting: the file's value counts only where no variable overrides it. -/
def source (tree : FileTree) (env : Environment) (key : Key) : Source :=
  match env.override? key with
  | some text => .variable text
  | none => .file (fileValue? tree env key)

namespace Source

/-- The level that a source gives. -/
def level : Source → Except IntegerFault Log.LevelChoice
  | .variable text => Log.levelOfText text Log.defaultLevel
  | .file (some value) => Log.chooseLevel value Log.defaultLevel
  | .file none => .ok Log.defaultLevel

/-- Whether a source allows faults. -/
def allowFaults : Source → Except IntegerFault Bool
  | .variable text => .ok (isYes text)
  | .file (some value) => meansYes value
  | .file none => .ok false

/-- The directory that a source gives. -/
def reportDir : Source → Except IntegerFault (Option RawPath)
  | .variable text => .ok (some (Text.points text))
  | .file (some value) => if isSet value then (pathOf value).map some else .ok none
  | .file none => .ok none

/-- The value that a source gives a setting. -/
def given (key : Key) : Source → Option Value
  | .variable text => some (match key with
    | .allowFaults => .bool (isYes text)
    | _ => .str text)
  | .file value => value

end Source

section Runs

variable {tree : FileTree} {env : Environment} {strict : Bool} {session after : Log.Session}
  {problems : List Problem} {entries : Entries} {settings : Settings}

end Runs

/-- Two runs have the same value for a setting. -/
def Alike (settings other : Settings) : Key → Prop
  | .level => settings.level = other.level
  | .allowFaults => settings.allowFaults = other.allowFaults
  | .reportDir => settings.reportDir = other.reportDir

namespace OverriddenFile

/-- A settings file with a report directory. -/
def tree : FileTree :=
  ⟨[(["s"], .file [114, 101, 112, 111, 114, 116, 95, 100, 105, 114, 58, 32, 97])], []⟩

/-- Variables that override all settings. -/
def overrides : Environment :=
  [(Environment.logLevel, "debug"), (Environment.allowFaults, ""), (Environment.reportDir, "out")]

/-- With the settings file, and without it but strict. -/
def env : Environment := (Environment.configPath, "s") :: overrides

def strictEnv : Environment := (Environment.strictness, "1") :: overrides

end OverriddenFile

section

open OverriddenFile

end

end Settings

end CrateSurface
