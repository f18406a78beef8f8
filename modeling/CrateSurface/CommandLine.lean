import CrateSurface.Extraction
import CrateSurface.Log.Console
import CrateSurface.Report
import CrateSurface.Settings

namespace CrateSurface.CommandLine

/-- Whether a text is a negative number, with digits of any script and at most one line break
behind. -/
def isNegativeNumber (text : String) : Bool :=
  let cs := text.toList
  let cs := if cs.getLast? == some '\n' then cs.dropLast else cs
  match cs with
  | '-' :: body =>
    let whole := body.takeWhile Text.isDecimal
    match body.dropWhile Text.isDecimal with
    | [] => !whole.isEmpty
    | '.' :: fraction => !fraction.isEmpty && fraction.all Text.isDecimal
    | _ => false
  | _ => false

/-- Whether an argument is an option, of which the program has none. -/
def isOption (argument : String) : Bool :=
  argument.toList.head? == some '-' && argument != "-" && !isNegativeNumber argument &&
    !argument.toList.contains ' '

/-- The manifest that the arguments name: the only one of them. `--` ends the options. -/
def manifest? (arguments : List String) : Option String :=
  let isPlain (argument : String) : Bool := argument != "--"
  let before := arguments.takeWhile isPlain
  let after := (arguments.dropWhile isPlain).drop 1
  if before.any isOption then none
  else
    match before ++ after with
    | [manifest] => some manifest
    | _ => none

def usage : String := "Usage: rust-surface <manifest-path>"

/-- What distinguishes a run: its id, and the time as the log and as the report show it. -/
structure Stamp where
  runId : String
  logTime : String
  reportTime : String

/-- How the program ends: with a status, or broken off. -/
inductive Ending where
  | exit (status : Nat)
  | badSettings (failure : Settings.Failure)
  | badReport (fault : WriteFault)
deriving Repr

/-- What the program leaves behind: how it ended, what it wrote to both streams, and the files. -/
structure Outcome where
  ending : Ending
  output : String
  errors : String
  tree : FileTree

/-- The log of a run as the error stream shows it. -/
def shown (stamp : Stamp) (settings : Settings) (records : List Log.Record) : String :=
  Log.lines stamp.logTime settings.level.level records

/-- The line about a report that was or was not written. A path that the file system is not asked
about has none. -/
def reportNote (directory : RawPath) : Except WriteFault RawPath → Except WriteFault Log.Note
  | .ok path => .ok ⟨Log.info, .commandLine, "Wrote run report to " ++ Text.shown path⟩
  | .error (.system fault path) =>
    .ok ⟨Log.warning, .commandLine,
      "Could not write run report to " ++ Text.shown directory ++ ": " ++
        (WriteFault.system fault path).message⟩
  | .error fault => .error fault

/-- Ends a run with a status, after its report if one is wanted. -/
def finish (stamp : Stamp) (settings : Settings) (tree : FileTree) (session : Log.Session)
    (report : Report.Run) (status : Nat) (output errors : String) : Outcome :=
  match settings.reportDir with
  | none => ⟨.exit status, output, errors, tree⟩
  | some directory =>
    let (tree, written) :=
      Report.write tree (report.members tree.workdirText) stamp.runId stamp.reportTime directory
    match reportNote directory written with
    | .error fault => ⟨.badReport fault, output, errors, tree⟩
    | .ok note =>
      let session := { session with records := [] }.add note
      ⟨.exit status, output, errors ++ shown stamp settings session.records, tree⟩

/-- The line that tells why there is no document. -/
def failureLine (error : ExtractionError) : String :=
  if error.isExpected then error.message
  else "Unexpected extractor failure: " ++ error.message

/-- The extraction of a crate with its counts, and the document's text. -/
def extract (view : FileView) (manifest : String) (allowFaults : Bool) :
    Log.Task ExtractionError (Stats String × String) := do
  let (document, stats) ← Extraction.crate view manifest allowFaults
  let text ← Extraction.emit document
  return (stats, text)

/-- Extracts a crate under given settings. -/
def runWith (parse : List Char → Node) (stamp : Stamp) (settings : Settings) (tree : FileTree)
    (manifest : String) : Outcome :=
  let session := (Log.Session.start.setRunId stamp.runId).add ⟨Log.info, .commandLine,
    "Extracting " ++ manifest ++ " (run " ++ stamp.runId ++ ")"⟩
  let (result, session) :=
    (extract (tree.view parse) manifest settings.allowFaults).run.run session
  match result with
  | .ok (stats, text) =>
    finish stamp settings tree session ⟨manifest, "success", some stats.toJson, none⟩ 0
      (text ++ "\n") (shown stamp settings session.records)
  | .error error =>
    let session := session.add ⟨Log.debug, .commandLine,
      if error.isExpected then "Extraction failed" else "Unexpected extractor failure"⟩
    finish stamp settings tree session ⟨manifest, "failed", none, some error.message⟩ 1 ""
      (shown stamp settings session.records ++ failureLine error ++ "\n")

/-- The whole program, on the arguments, the environment and the files it finds. -/
def run (parse : List Char → Node) (stamp : Stamp) (env : Environment) (tree : FileTree)
    (arguments : List String) : Outcome :=
  match manifest? arguments with
  | none => ⟨.exit 1, "", usage ++ "\n", tree⟩
  | some manifest =>
    let (result, session) := (Settings.resolve tree env).run.run Log.Session.start
    let early := Log.bareLines session.records
    match result with
    | .error (.invalid problem) => ⟨.exit 1, "", early ++ problem.message ++ "\n", tree⟩
    | .error failure => ⟨.badSettings failure, "", early, tree⟩
    | .ok settings =>
      let outcome := runWith parse stamp settings tree manifest
      { outcome with errors := early ++ outcome.errors }

end CrateSurface.CommandLine
