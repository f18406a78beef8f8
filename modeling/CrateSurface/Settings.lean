import CrateSurface.Files.RawPath
import CrateSurface.Files.Tree
import CrateSurface.Files.Utf8
import CrateSurface.Log.Level
import CrateSurface.Log.Session
import CrateSurface.Sorting
import CrateSurface.Yaml.Meaning

namespace CrateSurface

/-- The variables of the environment. -/
abbrev Environment := List (String × String)

namespace Environment

def configPath : String := "RUST_SURFACE_CONFIG"
def logLevel : String := "RUST_SURFACE_LOG_LEVEL"
def allowFaults : String := "RUST_SURFACE_ALLOW_SYNTAX_ERRORS"
def reportDir : String := "RUST_SURFACE_REPORT_DIR"
def strictness : String := "STRICT_CONFIG_VALIDATION"

/-- A variable that is set and not empty. -/
def nonempty? (env : Environment) (name : String) : Option String :=
  (env.lookup name).filter (· != "")

end Environment

/-- The resolved settings of a run. -/
structure Settings where
  level : Log.LevelChoice
  allowFaults : Bool
  reportDir : Option RawPath
deriving Repr

namespace Settings

/-- The texts that mean yes. -/
def isYes (text : String) : Bool :=
  ["1", "true", "yes", "on"].contains (Text.lower (Text.strip text))

/-- Whether settings that make no sense end the run. -/
def isStrict (env : Environment) (default : Bool) : Bool :=
  ((env.lookup Environment.strictness).map isYes).getD default

/-- What can be wrong with settings without making them unusable. -/
inductive Problem where
  | missingFile (path : String)
  | malformedFile (path : String) (fault : Yaml.Fault)
  | notMapping (typeName : String)
  | unknownKeys (path : String) (keys : List String)
  | unknownLevel (shown : String)
deriving Repr, DecidableEq

/-- The complaint about a setting. -/
def Problem.message : Problem → String
  | .missingFile path => "Settings file not found: " ++ path
  | .malformedFile path fault => "Failed to parse settings YAML at " ++ path ++ ": " ++ fault.text
  | .notMapping typeName => "Unexpected settings payload type: " ++ typeName
  | .unknownKeys path keys => "Unknown settings keys in " ++ path ++ ": " ++ ", ".intercalate keys
  | .unknownLevel shown => "Unknown log level " ++ shown

/-- What is done about a problem when settings need not be right. -/
def Problem.remedy : Problem → String
  | .unknownKeys .. => "ignoring them"
  | .unknownLevel _ => "using WARNING"
  | _ => "continuing with defaults"

/-- Why there are no settings. -/
inductive Failure where
  | invalid (problem : Problem)
  | path (fault : PathFault)
  | notUtf8 (fault : Utf8.Fault)
  | scalar (fault : Yaml.ValueFault)
  | keyOrder (fault : Value.OrderFault)
  | keyType (index : Nat) (typeName : String)
  | number (fault : IntegerFault)
deriving Repr

/-- A byte as messages show it. -/
def byteText (b : UInt8) : String :=
  "0x" ++ String.ofList (Text.hexDigits 2 b.toNat)

/-- The text of a refusal to read bytes. A character that the file ends in the middle of is looked
at by itself, so that its first byte is at position 0. -/
def utf8Text (fault : Utf8.Fault) : String :=
  let first := if fault.reason = .endOfData then 0 else fault.first
  let last := first + (fault.last - fault.first)
  "'utf-8' codec can't decode " ++
    (if first = last then "byte " ++ byteText fault.byte ++ " in position " ++ toString first
    else "bytes in position " ++ toString first ++ "-" ++ toString last) ++
    ": " ++ fault.reason.text

/-- The one line that a run without settings ends with. -/
def Failure.message : Failure → String
  | .invalid problem => problem.message
  | .path fault => fault.message
  | .notUtf8 fault => utf8Text fault
  | .scalar fault => fault.message
  | .keyOrder fault => fault.message
  | .keyType index typeName =>
    "sequence item " ++ toString index ++ ": expected str instance, " ++ typeName ++ " found"
  | .number fault => fault.message

/-- The note of a problem and of what is done about it. -/
def Problem.note (problem : Problem) : Log.Note :=
  ⟨Log.warning, .settings, problem.message ++ "; " ++ problem.remedy⟩

/-- Ends the run over a problem, or notes what is done about it. -/
def settle (strict : Bool) (problem : Problem) : Log.Task Failure Unit :=
  if strict then throw (.invalid problem) else Log.Task.note problem.note

/-- What a settings file may set. -/
inductive Key where
  | level
  | allowFaults
  | reportDir
deriving Repr, DecidableEq

/-- The name of a key in the settings file. -/
def Key.name : Key → String
  | .level => "log_level"
  | .allowFaults => "allow_syntax_errors"
  | .reportDir => "report_dir"

def Key.ofName? (name : String) : Option Key :=
  [Key.level, .allowFaults, .reportDir].find? fun key => key.name == name

def Key.ofValue? : Value → Option Key
  | .str name => Key.ofName? name
  | _ => none

/-- The settings that a file makes, in its order. -/
abbrev Entries := List (Key × Value)

/-- The text that a key is, as messages show it, if it is one; `index` is its place in a list of
keys. -/
def keyText (key : Value) (index : Nat) : Except Failure String :=
  match key with
  | .str name => .ok name
  | .illFormed text => .ok (Text.shown text.points)
  | key => .error (.keyType index key.fullTypeName)

/-- The unknown keys of a mapping, in order; keys that are no texts cannot be listed. -/
def listKeys (keys : List Value) : Except Failure (List String) :=
  let sorted := Sorting.sort Value.less keys
  match sorted.failure with
  | some fault => .error (.keyOrder fault)
  | none => sorted.items.zipIdx.mapM fun (key, index) => keyText key index

/-- The keys of a mapping that set nothing. -/
def unknownKeys (entries : List (Value × Value)) : List Value :=
  (entries.map (·.1)).filter fun key => (Key.ofValue? key).isNone

/-- The entries of a mapping that set something. -/
def knownEntries (entries : List (Value × Value)) : Entries :=
  entries.filterMap fun (key, value) => (Key.ofValue? key).map (·, value)

/-- The bytes of a settings file; none if there is no such file. -/
def fileBytes (tree : FileTree) (path : String) : Except Failure (Option (List UInt8)) :=
  match tree.readBytes path with
  | .ok bytes => .ok (some bytes)
  | .error (.system .notFound _) => .ok none
  | .error fault => .error (.path fault)

/-- The entries of a settings file's value. -/
def entriesOf (path : String) (strict : Bool) : Value → Log.Task Failure Entries
  | .null => return []
  | .map entries => do
    match listKeys (unknownKeys entries) with
    | .error failure => throw failure
    | .ok [] => pure ()
    | .ok names => settle strict (.unknownKeys path names)
    return knownEntries entries
  | value => do
    settle strict (.notMapping value.typeName)
    return []

/-- Reads a settings file. The whole file is decoded before any of it is parsed. A reader that takes a
long file in pieces meets what is wrong in the order of the file instead: in a file with both kinds
of faults it may report a malformed part where this reports a byte that comes later. -/
def ofFile (tree : FileTree) (path : String) (strict : Bool) : Log.Task Failure Entries := do
  match fileBytes tree path with
  | .error failure => throw failure
  | .ok none =>
    settle strict (.missingFile path)
    return []
  | .ok (some bytes) =>
    match Utf8.decode bytes with
    | .error fault => throw (.notUtf8 fault)
    | .ok text =>
      match Yaml.load text with
      | .error (.value fault) => throw (.scalar fault)
      | .error (.yaml fault) =>
        settle strict (.malformedFile path fault)
        return []
      | .ok value => entriesOf path strict value

/-- Whether a value counts as set: nothing, zero and empty values do not. -/
def isSet : Value → Bool
  | .null => false
  | .bool b => b
  | .int n => n != 0
  | .float x => x.compareInt? 0 != some .eq
  | .str s => s != ""
  | .bytes data => !data.isEmpty
  | .list items => !items.isEmpty
  | .set items => !items.isEmpty
  | .map entries => !entries.isEmpty
  | _ => true

/-- Whether a value means yes. -/
def meansYes : Value → Except IntegerFault Bool
  | .bool b => .ok b
  | .illFormed _ => .ok false
  | value => value.written.map isYes

/-- The value of a setting: the environment's, else the file's. -/
def settingOf (env : Environment) (entries : Entries) (key : Key) : Option Value :=
  let fromEnv : Option Value := match key with
    | .level => (env.nonempty? Environment.logLevel).map Value.str
    | .allowFaults => (env.lookup Environment.allowFaults).map fun text => .bool (isYes text)
    | .reportDir => (env.nonempty? Environment.reportDir).map Value.str
  fromEnv.or (entries.lookup key)

/-- The value that the level is chosen by. -/
def levelValue (env : Environment) (entries : Entries) : Value :=
  (settingOf env entries .level).getD .null

/-- Whether a setting for the level gives one: nothing and the empty text do not. -/
def isGiven : Value → Bool
  | .null => false
  | .str "" => false
  | _ => true

/-- Goes on with a number or a text that could be read or written. -/
def attempt {α : Type} : Except IntegerFault α → Log.Task Failure α
  | .ok a => pure a
  | .error fault => throw (.number fault)

/-- A value that chooses no level is a problem. -/
def checkLevel (strict : Bool) (value : Value) : Log.Task Failure Unit := do
  let level ← attempt (Log.chooseLevel value (.number (-1)))
  if level = .number (-1) then settle strict (.unknownLevel value.repr)

/-- The level that a value chooses. -/
def resolveLevel (strict : Bool) (value : Value) : Log.Task Failure Log.LevelChoice := do
  if isGiven value then checkLevel strict value
  attempt (Log.chooseLevel value Log.defaultLevel)

/-- The entries of the settings file that the environment names, if it names one. -/
def fileEntries (tree : FileTree) (env : Environment) (strict : Bool) :
    Log.Task Failure Entries :=
  match env.nonempty? Environment.configPath with
  | some path => ofFile tree path strict
  | none => pure []

def allowsFaults (env : Environment) (entries : Entries) : Except IntegerFault Bool :=
  match settingOf env entries .allowFaults with
  | some value => meansYes value
  | none => .ok false

/-- The path that a value is, or that its text is. -/
def pathOf : Value → Except IntegerFault RawPath
  | .illFormed text => .ok text.points
  | value => value.written.map Text.points

/-- The directory that is set for reports, if one is. -/
def reportPath? (env : Environment) (entries : Entries) : Except IntegerFault (Option RawPath) :=
  match (settingOf env entries .reportDir).filter isSet with
  | some value => (pathOf value).map some
  | none => .ok none

/-- The settings of a run: those of the file that the environment names, overridden by those of the
environment itself. -/
def resolveUnder (tree : FileTree) (env : Environment) (strict : Bool) :
    Log.Task Failure Settings := do
  let entries ← fileEntries tree env strict
  let level ← resolveLevel strict (levelValue env entries)
  let allowFaults ← attempt (allowsFaults env entries)
  let reportDir ← attempt (reportPath? env entries)
  return { level, allowFaults, reportDir }

/-- The settings of a run, as strict as the environment asks for. -/
def resolve (tree : FileTree) (env : Environment) : Log.Task Failure Settings :=
  resolveUnder tree env (isStrict env false)

end Settings

end CrateSurface
