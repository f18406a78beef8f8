import CrateSurface.Document.Basic
import CrateSurface.Document.Order
import CrateSurface.Json.Order
import CrateSurface.Sorting

namespace CrateSurface

/-- Counts over a list of modules. -/
structure Stats (α : Type) where
  modules : Nat
  files : Nat
  consts : Nat
  enums : Nat
  structs : Nat
  traits : Nat
  functions : Nat
  methodGroups : Nat
  issuesByKind : List (α × Nat)

namespace Stats

variable {α : Type} [BEq α]

/-- Adds one to the count of a kind; a kind that is new comes last. -/
def tally (counts : List (α × Nat)) (kind : α) : List (α × Nat) :=
  if counts.any fun c => c.1 == kind then
    counts.map fun c => if c.1 == kind then (c.1, c.2 + 1) else c
  else counts ++ [(kind, 1)]

/-- The distinct values of a list, in order of first occurrence. -/
def distinct (values : List α) : List α :=
  values.foldl (fun seen value => if seen.any (· == value) then seen else seen ++ [value]) []

/-- The kinds of the issues of modules, in order. -/
def kinds (modules : List (Module α)) : List α :=
  modules.flatMap fun m => m.issues.map (·.kind)

def sumOf (f : Module α → Nat) (modules : List (Module α)) : Nat :=
  (modules.map f).foldr (· + ·) 0

def ofModules (modules : List (Module α)) : Stats α where
  modules := modules.length
  files := (distinct (modules.map (·.file))).length
  consts := sumOf (·.consts.length) modules
  enums := sumOf (·.enums.length) modules
  structs := sumOf (·.structs.length) modules
  traits := sumOf (·.traits.length) modules
  functions := sumOf (·.functions.length) modules
  methodGroups := sumOf (·.pendingMethods.length) modules
  issuesByKind := (kinds modules).foldl tally []

omit [BEq α] in
def issues (s : Stats α) : Nat :=
  (s.issuesByKind.map (·.2)).foldr (· + ·) 0

omit [BEq α] in
/-- The counts on one line. -/
def summary (s : Stats α) : String :=
  "ExtractionStats(modules=" ++ toString s.modules ++ ", files=" ++ toString s.files ++
    ", functions=" ++ toString s.functions ++ ", structs=" ++ toString s.structs ++
    ", issues=" ++ toString s.issues ++ ")"

omit [BEq α] in
/-- The counts as an object, given the counts by kind in order. -/
def encode (s : Stats α) (byKind : List (String × Json)) : Json :=
  .obj [("modules", .int s.modules), ("files", .int s.files), ("consts", .int s.consts),
    ("enums", .int s.enums), ("structs", .int s.structs), ("traits", .int s.traits),
    ("functions", .int s.functions), ("pending_method_groups", .int s.methodGroups),
    ("issues", .int s.issues), ("issues_by_kind", .obj byKind)]

/-- The counts over the records of a walk as an object. -/
def toJson (s : Stats String) : Json :=
  s.encode ((sortWith (fun a b => a.1 < b.1) s.issuesByKind).map fun c => (c.1, .int c.2))

end Stats

/-- Why modules that were read cannot be counted. -/
inductive StatsError where
  | unhashable (type : String)
  | incomparable (values : Json.Incomparable)
deriving Repr, DecidableEq

def StatsError.message : StatsError → String
  | .unhashable type => "unhashable type: '" ++ type ++ "'"
  | .incomparable values => values.message

namespace Json

/-- Only values without parts can be counted. -/
def isHashable : Json → Bool
  | .arr _ => false
  | .obj _ => false
  | _ => true

/-- A value as the key of an object. -/
def keyText : Json → String
  | .str s => s
  | .null => "null"
  | .bool b => if b then "true" else "false"
  | .int n => String.ofList (intText n)
  | .float x => String.ofList (writeFloat x)
  | value => value.typeName

end Json

namespace Stats

/-- The values that counting goes by, in the order it meets them. -/
def counted (modules : List (Module Json)) : List Json :=
  modules.flatMap fun m => m.file :: m.issues.map (·.kind)

/-- Counts modules that were read. -/
def ofLoaded (modules : List (Module Json)) : Except StatsError (Stats Json) :=
  match (counted modules).find? fun value => !value.isHashable with
  | some value => .error (.unhashable value.typeName)
  | none => .ok (ofModules modules)

/-- The counts as an object, if the kinds have an order. -/
def toJson? (s : Stats Json) : Except StatsError Json :=
  let outcome := Sorting.sort
    (fun a b : Json × Nat => Json.lessPair (a.1, .int a.2) (b.1, .int b.2)) s.issuesByKind
  match outcome.failure with
  | some failure => .error (.incomparable failure)
  | none => .ok (s.encode (outcome.items.map fun c => (c.1.keyText, .int c.2)))

end Stats

end CrateSurface
