import CrateSurface.Document.Basic
import CrateSurface.Json.Order
import CrateSurface.Sorting

namespace CrateSurface

/-- Why modules cannot be put in order. -/
inductive OrderError where
  | pathPart (index : Nat) (type : String)
  | incomparable (values : Json.Incomparable)
deriving Repr, DecidableEq

def OrderError.message : OrderError → String
  | .pathPart index type =>
    "sequence item " ++ toString index ++ ": expected str instance, " ++ type ++ " found"
  | .incomparable values => values.message

/-- The parts of a path, which must all be texts; `index` of them came before. -/
def pathTexts (index : Nat) : List Json → Except OrderError (List String)
  | [] => .ok []
  | .str s :: rest => do return s :: (← pathTexts (index + 1) rest)
  | value :: _ => .error (.pathPart index value.typeName)

/-- The module path of a module that was read. -/
def Module.pathKey? (m : Module Json) : Except OrderError String := do
  return pathKey (← pathTexts 0 m.parts)

namespace Document

/-- A module with its path and its place in the list that it comes from. -/
structure Keyed where
  path : String
  place : Nat
  module : Module Json

def Keyed.less (a b : Keyed) : Except Json.Incomparable Bool :=
  Json.lessPair (.str a.path, a.module.file) (.str b.path, b.module.file)

/-- Modules with their paths, from a place on. -/
def keyedFrom (place : Nat) : List (Module Json) → Except OrderError (List Keyed)
  | [] => .ok []
  | m :: rest => do
    let path ← m.pathKey?
    return ⟨path, place, m⟩ :: (← keyedFrom (place + 1) rest)

/-- Sorts the method groups of each module by target, up to the first pair without an order. The
modules are returned as far as they were changed. -/
def sortGroups : List (Module Json) → List (Module Json) × Option Json.Incomparable
  | [] => ([], none)
  | m :: rest =>
    let groups := Sorting.sort (fun a b : MethodGroup Json => a.target.less b.target)
      m.pendingMethods
    let sorted := { m with pendingMethods := groups.items }
    match groups.failure with
    | some failure => (sorted :: rest, some failure)
    | none =>
      let (modules, failure) := sortGroups rest
      (sorted :: modules, failure)

/-- Puts modules back at the places that they had. -/
def restore (places : List Nat) (modules : List (Module Json)) : List (Module Json) :=
  (List.range places.length).filterMap fun place => (places.zip modules).lookup place

/-- Modules in the order of their paths, root first, and then of their files, each with its method
groups in the order of their targets. Where some values have no order, the modules keep their
places, and the groups that were sorted before stay sorted. -/
def arrange (modules : List (Module Json)) : Sorting.Outcome (Module Json) OrderError :=
  match keyedFrom 0 modules with
  | .error error => ⟨modules, some error⟩
  | .ok keyed =>
    let ordered := Sorting.sort Keyed.less keyed
    match ordered.failure with
    | some failure => ⟨modules, some (.incomparable failure)⟩
    | none =>
      match sortGroups (ordered.items.map (·.module)) with
      | (sorted, none) => ⟨sorted, none⟩
      | (sorted, some failure) =>
        ⟨restore (ordered.items.map (·.place)) sorted, some (.incomparable failure)⟩

/-- The document with its modules in order, as far as they have one. -/
def sort (d : Document) : Document × Option OrderError :=
  let outcome := arrange d.modules
  (⟨d.schema, outcome.items⟩, outcome.failure)

/-- A document of the current schema with the modules in order; the old document, as far as it was
changed, if they have none. -/
def assemble (d : Document) : Document × Option OrderError :=
  match d.sort with
  | (sorted, none) => (⟨.int schemaVersion, sorted.modules⟩, none)
  | (left, failure) => (left, failure)

end Document

/-- The order of the records of a walk: by path, then by file. -/
def Module.precedes (a b : Module String) : Bool :=
  let p := pathKey a.parts
  let q := pathKey b.parts
  p < q || (p == q && a.file < b.file)

/-- Puts the method groups of a module in the order of their targets. -/
def Module.sortGroups (m : Module String) : Module String :=
  { m with pendingMethods := sortWith (fun a b => a.target < b.target) m.pendingMethods }

/-- The records of a walk in document order. -/
def sortRecords (records : List (Module String)) : List (Module String) :=
  (sortWith Module.precedes records).map Module.sortGroups

/-- The document of a walk. -/
def Document.ofRecords (records : List (Module String)) : Document :=
  ⟨.int schemaVersion, (sortRecords records).map Module.ofRecord⟩

end CrateSurface
