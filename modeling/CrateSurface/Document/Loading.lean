import CrateSurface.Document.Basic
import CrateSurface.Json.Reader
import CrateSurface.Value.Display

namespace CrateSurface

/-- How a value fails to be the record or list that a document needs. -/
inductive Misfit where
  | missingKey (key : String)
  | notIterable (type : String)
  | notSubscriptable (type : String)
  | stringIndex
  | listIndex
deriving Repr, DecidableEq

/-- What does not fit, in the words of the reader. -/
def Misfit.message : Misfit → String
  | .missingKey key => Text.quoted key
  | .notIterable type => "'" ++ type ++ "' object is not iterable"
  | .notSubscriptable type => "'" ++ type ++ "' object is not subscriptable"
  | .stringIndex => "string indices must be integers, not 'str'"
  | .listIndex => "list indices must be integers or slices, not str"

/-- Why a text is no document. -/
inductive LoadError where
  | json (fault : Json.Fault)
  | schema (tag : Json)
  | malformed (misfit : Misfit)

/-- The text of a failure to load. -/
def LoadError.message (text : String) : LoadError → String
  | .json fault => fault.message text
  | .schema tag =>
    "Unsupported extractor schema " ++ (Value.ofJson tag).repr ++ " (expected " ++
      toString schemaVersion ++ ")."
  | .malformed misfit => "Malformed extractor output: " ++ misfit.message

namespace Json

/-- The member of an object with a key. -/
def member (value : Json) (key : String) : Except Misfit Json :=
  match value with
  | .obj members =>
    match members.lookup key with
    | some value => .ok value
    | none => .error (.missingKey key)
  | .str _ => .error .stringIndex
  | .arr _ => .error .listIndex
  | value => .error (.notSubscriptable value.typeName)

/-- The values that a value holds one after another: the items of an array, the characters of a
text, the keys of an object. -/
def elements (value : Json) : Except Misfit (List Json) :=
  match value with
  | .arr items => .ok items
  | .str s => .ok (s.toList.map fun c => .str (String.ofList [c]))
  | .obj members => .ok (members.map fun m => .str m.1)
  | value => .error (.notIterable value.typeName)

/-- The elements of a member. -/
def elementsAt (value : Json) (key : String) : Except Misfit (List Json) := do
  (← value.member key).elements

/-- The elements of a member, each read as a record. -/
def recordsAt {α : Type} (value : Json) (key : String) (read : Json → Except Misfit α) :
    Except Misfit (List α) := do
  (← value.elementsAt key).mapM read

def toField (value : Json) : Except Misfit (Field Json) := do
  return { name := ← value.member "name", type := ← value.member "type" }

def toFunction (value : Json) : Except Misfit (Function Json) := do
  return {
    name := ← value.member "name"
    typeParams := ← value.elementsAt "typeParams"
    params := ← value.recordsAt "params" toField
    returnType := ← value.member "returnType" }

def toEnum (value : Json) : Except Misfit (Enum Json) := do
  return {
    name := ← value.member "name"
    typeParams := ← value.elementsAt "typeParams"
    variants := ← value.elementsAt "variants" }

def toStruct (value : Json) : Except Misfit (Struct Json) := do
  return {
    name := ← value.member "name"
    typeParams := ← value.elementsAt "typeParams"
    fields := ← value.recordsAt "fields" toField }

def toTrait (value : Json) : Except Misfit (Trait Json) := do
  return {
    name := ← value.member "name"
    typeParams := ← value.elementsAt "typeParams"
    superTraits := ← value.elementsAt "superTraits"
    methods := ← value.recordsAt "methods" toFunction }

def toMethodGroup (value : Json) : Except Misfit (MethodGroup Json) := do
  return { target := ← value.member "target", methods := ← value.recordsAt "methods" toFunction }

def toIssue (value : Json) : Except Misfit (Issue Json) := do
  return {
    file := ← value.member "file"
    kind := ← value.member "kind"
    snippet := ← value.member "snippet"
    reason := ← value.member "reason" }

def toModule (value : Json) : Except Misfit (Module Json) := do
  return {
    file := ← value.member "file"
    parts := ← value.elementsAt "parts"
    consts := ← value.recordsAt "consts" toField
    enums := ← value.recordsAt "enums" toEnum
    structs := ← value.recordsAt "structs" toStruct
    traits := ← value.recordsAt "traits" toTrait
    functions := ← value.recordsAt "functions" toFunction
    pendingMethods := ← value.recordsAt "pendingMethods" toMethodGroup
    issues := ← value.recordsAt "issues" toIssue }

/-- The schema tag of a value, null if it has none. -/
def schemaTag : Json → Json
  | .obj members => (members.lookup "schema").getD .null
  | _ => .null

/-- The document that a value stands for. -/
def toDocument (value : Json) : Except LoadError Document :=
  if value.schemaTag.same (.int schemaVersion) then do
    let modules ← (value.recordsAt "modules" toModule).mapError .malformed
    return ⟨value.schemaTag, modules⟩
  else .error (.schema value.schemaTag)

end Json

/-- Reads the text of a document. -/
def Document.load (text : String) : Except LoadError Document := do
  let value ← (Json.read text).mapError .json
  value.toDocument

end CrateSurface
