import CrateSurface.Files.Writing
import CrateSurface.Json.Writer

namespace CrateSurface.Report

/-- The directory for reports where none is given. -/
def defaultDirectory : String := "output/run_reports"

/-- What a run has to report: the manifest it was for, how it ended, counts and the error. -/
structure Run where
  manifest : String
  status : String
  stats : Option Json
  error : Option String

/-- The members of a run's report; the manifest's path is made absolute. -/
def Run.members (workdir : String) (run : Run) : List (String × Json) :=
  [("manifest_path", .str (Path.absolute workdir run.manifest)), ("status", .str run.status)] ++
    (run.stats.map fun stats => ("stats", stats)).toList ++
    (run.error.map fun error => ("error", .str error)).toList

/-- Adds a member unless there is one of that name. -/
def withDefault (members : List (String × Json)) (key : String) (value : Json) :
    List (String × Json) :=
  if (members.lookup key).isSome then members else members ++ [(key, value)]

/-- The text of a report, with the id and the time of the run unless it has its own. -/
def text (members : List (String × Json)) (runId time : String) : String :=
  (Json.obj (withDefault (withDefault members "run_id" (.str runId))
    "timestamp_utc" (.str time))).indented

/-- The path of a report. -/
def path (directory : RawPath) (runId : String) : RawPath :=
  directory.join (Text.points (runId ++ ".json"))

/-- Writes a report into a directory, which is made if it is missing. Directories made before a
refusal stay. -/
def write (tree : FileTree) (members : List (String × Json)) (runId time : String)
    (directory : RawPath) : FileTree × Except WriteFault RawPath :=
  match tree.makeDirectories directory (directory.length + 1) with
  | (tree, some fault) => (tree, .error fault)
  | (tree, none) =>
    let path := path directory runId
    match tree.putFile path (Utf8.encode (text members runId time)) with
    | .ok tree => (tree, .ok path)
    | .error fault => (tree, .error fault)

end CrateSurface.Report
