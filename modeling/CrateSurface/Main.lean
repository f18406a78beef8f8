import CrateSurface.CommandLine
import CrateSurface.Grammar.Parse
import Std.Time.Format

namespace CrateSurface.Main

open Std.Time (DateTime PlainDateTime Timestamp)

/-- The place that an absolute path names. -/
def placeOf (path : String) : Location :=
  (Path.names path).filter (· != "")

/-- Puts something at a place below directories. -/
def putBelow (tree : FileTree) (place : Location) (inode : Inode) : FileTree :=
  let tree := (List.range place.length).foldl (fun tree n =>
    if (tree.inode? (place.take n)).isSome then tree else tree.put (place.take n) .directory) tree
  tree.put place inode

/-- Adds what the file system has at a path, and the link that leads there if the path is not the
canonical one. -/
def fetch (tree : FileTree) (path : String) : IO FileTree := do
  try
    let canonical := placeOf (← IO.FS.realPath path).toString
    let inode : Inode ←
      try
        let bytes ← IO.FS.readBinFile path
        pure (.file bytes.toList)
      catch
        | .permissionDenied .. => pure (.locked false)
        | _ => pure .directory
    let place := placeOf (Path.absolute tree.workdirText path)
    if (tree.inode? canonical).isNone then
      let tree := putBelow tree canonical inode
      if place == canonical then return tree
      return putBelow tree place (.link ("/" ++ "/".intercalate canonical))
    else return tree
  catch _ => return tree

/-- The paths above a path, and the path itself. -/
def above (path : String) : List String :=
  let names := Path.names path
  (List.range names.length).map fun n => "/".intercalate (names.take (n + 1))

/-- Adds the files of a crate, each when the walk asks for it. -/
partial def fetchCrate (tree : FileTree) (manifest : String) (allowFaults : Bool) :
    IO FileTree := do
  let records := Extraction.records (tree.view Grammar.parse) manifest allowFaults
  match (records.run.run Log.Session.start).1 with
  | .error (.walk (.unresolved name base)) =>
    let direct ← fetch tree (Path.join base (name ++ ".rs"))
    let found ← fetch direct (Path.join (Path.join base name) "mod.rs")
    if found.entries.length == tree.entries.length then return tree
    fetchCrate found manifest allowFaults
  | _ => return tree

/-- The environment as far as the program looks at it. -/
def environment : IO Environment := do
  let names := [Environment.configPath, Environment.logLevel, Environment.allowFaults,
    Environment.reportDir, Environment.strictness]
  names.filterMapM fun name => do
    return (← IO.getEnv name).map (name, ·)

/-- The part of the file system that a run looks at. -/
def files (env : Environment) (arguments : List String) : IO FileTree := do
  let workdir := placeOf (← IO.currentDir).toString
  let start := putBelow ⟨[], workdir⟩ workdir .directory
  let configured ← match env.nonempty? Environment.configPath with
    | some path => fetch start path
    | none => pure start
  let (result, _) := (Settings.resolve configured env).run.run Log.Session.start
  match result, CommandLine.manifest? arguments with
  | .ok settings, some manifest =>
    let root := Path.join (Path.join (Path.parent manifest) "src") "lib.rs"
    let crate ← fetchCrate (← fetch configured root) manifest settings.allowFaults
    (((settings.reportDir.bind Text.string?).map above).getD []).foldlM fetch crate
  | _, _ => return configured

/-- A new run id: a random UUID of version 4. -/
def freshId : IO String := do
  let bytes := (← IO.getRandomBytes 16).toList.map (·.toNat)
  let marked := bytes.zipIdx.map fun (b, i) =>
    if i == 6 then 0x40 + b % 0x10 else if i == 8 then 0x80 + b % 0x40 else b
  let digits := marked.flatMap (Text.hexDigits 2)
  let part (start length : Nat) : String := String.ofList ((digits.drop start).take length)
  return "-".intercalate [part 0 8, part 8 4, part 12 4, part 16 4, part 20 12]

def stamp : IO CommandLine.Stamp := do
  let moment := DateTime.ofTimestamp (← Timestamp.now) (.fixedOffsetZone 0)
  return {
    runId := ← freshId
    logTime := (← PlainDateTime.now).format "uuuu-MM-dd HH:mm:ss,SSS"
    reportTime := moment.format "uuuu-MM-dd'T'HH:mm:ss.SSSSSS'+00:00'" }

/-- Writes what a run has added to the files, as far as its path is a text. -/
def store (before after : FileTree) : IO Unit := do
  for (place, inode) in after.entries do
    let path := "/" ++ "/".intercalate place
    if path.toList.contains '\x00' then continue
    match inode, before.inode? place with
    | .directory, none => IO.FS.createDirAll path
    | .file bytes, none => IO.FS.writeBinFile path ⟨bytes.toArray⟩
    | _, _ => pure ()

def status : CommandLine.Ending → UInt32 × String
  | .exit status => (status.toUInt32, "")
  | .badSettings failure => (1, failure.message ++ "\n")
  | .badReport fault => (1, fault.message ++ "\n")

end CrateSurface.Main

open CrateSurface in
/-- Writes the document of the crate whose manifest is given to standard output. -/
def main (arguments : List String) : IO UInt32 := do
  let env ← Main.environment
  let tree ← Main.files env arguments
  let outcome := CommandLine.run Grammar.parse (← Main.stamp) env tree arguments
  let (status, last) := Main.status outcome.ending
  IO.print outcome.output
  IO.eprint (outcome.errors ++ last)
  Main.store tree outcome.tree
  return status
