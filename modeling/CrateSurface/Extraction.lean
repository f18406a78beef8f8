import CrateSurface.Document.Stats
import CrateSurface.Log.Session
import CrateSurface.Walk

namespace CrateSurface

/-- Why a crate has no document. -/
inductive ExtractionError where
  | walk (error : WalkError)
  | unserializable
deriving Repr, DecidableEq

/-- The one line that a failed run ends with. -/
def ExtractionError.message : ExtractionError → String
  | .walk error => error.message
  | .unserializable => CrateSurface.unserializable

/-- Whether an error is one that crates are expected to have; a path that the file system cannot
even be asked about is none. -/
def ExtractionError.isExpected : ExtractionError → Bool
  | .walk (.notCanonical _ .embeddedNul) => false
  | .walk (.unreadable _ (.path .embeddedNul)) => false
  | _ => true

namespace Extraction

open Log (Task)

/-- `src/lib.rs` beside a manifest. -/
def libraryRoot (view : FileView) (manifest : String) : Except WalkError String :=
  let root := Path.join (Path.join (Path.parent manifest) "src") "lib.rs"
  if view.isFile root then .ok root else .error (.missingRoot root)

/-- Finds the root file of a crate. -/
def resolveRoot (view : FileView) (manifest : String) : Task ExtractionError String :=
  Task.inPhase "resolve" do
    match libraryRoot view manifest with
    | .error error => throw (.walk error)
    | .ok root =>
      Task.note ⟨Log.info, .extraction, "Library root: " ++ Path.absolute view.workdir root⟩
      return root

/-- Walks the crate from its root file. -/
def walkCrate (view : FileView) (allowFaults : Bool) (root : String) :
    Task ExtractionError Visit :=
  Task.inPhase "extract" do
    let visit := walk view allowFaults root [] []
    Task.notes visit.notes
    match visit.failure with
    | some error => throw (.walk error)
    | none => return visit

/-- The records of a crate in the order of the walk. -/
def records (view : FileView) (manifest : String) (allowFaults : Bool) :
    Task ExtractionError (List (Module String)) := do
  let root ← resolveRoot view manifest
  let visit ← walkCrate view allowFaults root
  Task.note ⟨Log.info, .extraction, "Visited " ++ toString visit.seen.length ++ " files, " ++
    toString visit.records.length ++ " modules"⟩
  return visit.records

/-- Puts records in document order and counts them. -/
def assemble (records : List (Module String)) :
    Task ExtractionError (Document × Stats String) :=
  Task.inPhase "assemble" do
    let sorted := sortRecords records
    Task.note ⟨Log.info, .assembly, "Assembled " ++ toString sorted.length ++
      " modules (schema " ++ toString schemaVersion ++ ")"⟩
    return (Document.ofRecords records, Stats.ofModules sorted)

/-- The document of a crate, with counts over it. -/
def crate (view : FileView) (manifest : String) (allowFaults : Bool) :
    Task ExtractionError (Document × Stats String) := do
  let records ← records view manifest allowFaults
  let result ← assemble records
  Task.note ⟨Log.info, .extraction, "Extraction complete: " ++ result.2.summary⟩
  return result

/-- Writes a document. -/
def emit (document : Document) : Task ExtractionError String :=
  Task.inPhase "emit" do
    match document.serialize? with
    | some text => return text
    | none => throw .unserializable

/-- The text of a crate's document. -/
def crateText (view : FileView) (manifest : String) (allowFaults : Bool) :
    Task ExtractionError String := do
  let (document, _) ← crate view manifest allowFaults
  emit document

end Extraction

end CrateSurface
