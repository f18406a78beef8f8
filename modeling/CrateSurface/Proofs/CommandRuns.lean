import CrateSurface.Grammar.Parse
import CrateSurface.Proofs.ExpectedFailures
import CrateSurface.Proofs.JsonLines
import CrateSurface.Proofs.WrittenReports

namespace CrateSurface

/-- A task that yields one result yields no other. -/
theorem Log.Task.Yields.unique {ε α : Type} {task : Task ε α} {first second : Except ε α}
    (one : task.Yields first) (other : task.Yields second) : first = second :=
  (one Session.start).symm.trans (other Session.start)

namespace CommandLine

section Extracting

variable {view : FileView} {manifest : String} {allowFaults : Bool}

end Extracting

section Finishing

variable {parse : List Char → Node} {stamp : Stamp} {settings : Settings} {tree : FileTree}
  {manifest : String}

end Finishing

section Endings

variable {parse : List Char → Node} {stamp : Stamp} {env : Environment} {tree : FileTree}
  {argument : String} {settings : Settings} {session : Log.Session}

end Endings

namespace ReportedCrate

/-- The bytes of a text in ASCII. -/
def bytes (text : String) : List UInt8 :=
  text.toList.map fun c => UInt8.ofNat c.toNat

/-- A crate with a constant and a function. -/
def tree : FileTree :=
  ⟨[(["src"], .directory),
    (["src", "lib.rs"], .file (bytes "pub const A: u8 = 1; pub fn f() \x7b\x7d"))], []⟩

/-- The crate with a settings file that sends reports to a surrogate. -/
def configured : FileTree :=
  tree.put ["s"] (.file (bytes "report_dir: \"\\ud800\"\n"))

/-- A run with an id and without times. -/
def stamp : Stamp :=
  ⟨"7", "", ""⟩

/-- Reports are to go to a new directory. -/
def env : Environment :=
  [(Environment.reportDir, "out")]

/-- What the settings are resolved to. -/
def settings : Settings :=
  ⟨Log.defaultLevel, false, some (Text.points "out")⟩

/-- The document of the crate on a line. -/
def line : String :=
  "\x7b\"schema\":1,\"modules\":[\x7b\"file\":\"/src/lib.rs\",\"parts\":[]," ++
    "\"consts\":[\x7b\"name\":\"A\",\"type\":\"u8\"\x7d],\"enums\":[],\"structs\":[]," ++
    "\"traits\":[],\"functions\":[\x7b\"name\":\"f\",\"typeParams\":[],\"params\":[]," ++
    "\"returnType\":\"()\"\x7d],\"pendingMethods\":[],\"issues\":[]\x7d]\x7d\n"

theorem resolved : (Settings.resolve tree env).run.run Log.Session.start =
    (.ok settings, Log.Session.start) := by
  rfl

end ReportedCrate

section

open ReportedCrate

end

end CommandLine

end CrateSurface
