import CrateSurface.Value.Order
import CrateSurface.Yaml.Base64
import CrateSurface.Yaml.Node
import CrateSurface.Yaml.Scalar

namespace CrateSurface.Yaml

/-- The kinds of data that a tag can ask for. -/
inductive Kind where
  | null
  | truth
  | integer
  | decimal
  | binary
  | timestamp
  | text
  | sequence
  | mapping
  | set
  | pairs
deriving Repr, DecidableEq

def kinds : List (String × Kind) :=
  [("null", .null), ("bool", .truth), ("int", .integer), ("float", .decimal), ("binary", .binary),
    ("timestamp", .timestamp), ("str", .text), ("seq", .sequence), ("map", .mapping),
    ("set", .set), ("omap", .pairs), ("pairs", .pairs)]

def kind? (tag : String) : Option Kind :=
  (kinds.find? fun kind => standardTag kind.1 == tag).map (·.2)

/-- Whether a scalar that is a key asks for the entries of other mappings. -/
def isMerge : Node → Bool
  | .scalar (some tag) _ _ => tag == standardTag "merge"
  | .scalar none text plain => plain && text == Text.points "<<"
  | _ => false

/-- A key; `=` is a text there. -/
def asKey : Node → Node
  | .scalar none text plain => .scalar none text (plain && text != Text.points "=")
  | .scalar (some tag) text plain =>
    .scalar (some (if tag == standardTag "value" then standardTag "str" else tag)) text plain
  | node => node

/-- A tag that nothing has, for what cannot be merged. -/
def noSuchTag : String := "!"

/-- The entries that a node gives to the mapping that merges it. Of several mappings an earlier one
wins, so it comes later. -/
def merged : Node → List (Node × Node)
  | .mapping _ entries => entries
  | .sequence _ items =>
    items.reverse.flatMap fun
      | .mapping _ entries => entries
      | _ => [(.scalar (some noSuchTag) [] false, .absent)]
  | _ => [(.scalar (some noSuchTag) [] false, .absent)]

mutual

/-- The node with the entries of merged mappings in place, before a mapping's own entries. -/
def Node.flat : Node → Node
  | .sequence tag items => .sequence tag (flatItems items)
  | .mapping tag entries =>
    let (given, own) := flatEntries entries
    .mapping tag (given ++ own)
  | node => node

def flatItems : List Node → List Node
  | [] => []
  | item :: rest => item.flat :: flatItems rest

/-- The merged entries and the own entries of a mapping. -/
def flatEntries : List (Node × Node) → List (Node × Node) × List (Node × Node)
  | [] => ([], [])
  | (key, value) :: rest =>
    let (given, own) := flatEntries rest
    if isMerge key then (merged value.flat ++ given, own)
    else (given, (asKey key.flat, value.flat) :: own)

end

/-- The form of a scalar without tag: a text in quotes, and one with surrogates in it, is a text. -/
def formOf (text : List CodePoint) (plain : Bool) : PlainForm :=
  if plain then ((Text.string? text).map plainForm).getD .text else .text

/-- The value of a scalar without tag. -/
def plainValue (text : List CodePoint) (plain : Bool) : Except LoadFault Value :=
  match formOf text plain with
  | .truth b => .ok (.bool b)
  | .decimal => ((decimal text).map .float).mapError .value
  | .integer => ((integer text).map .int).mapError .value
  | .null => .ok .null
  | .timestamp day clock => (timestamp day clock).mapError .value
  | .merge => .error (.yaml .unknownTag)
  | .value => .error (.yaml .unknownTag)
  | .text => .ok (.ofPoints text)

/-- The value of a scalar of a given kind. -/
def scalarValue (kind : Kind) (text : List CodePoint) : Except LoadFault Value :=
  match kind with
  | .null => .ok .null
  | .truth =>
    let word := lowerPoints text
    match (Text.string? word).bind fun s => truthValues.lookup s with
    | some b => .ok (.bool b)
    | none => .error (.value (.truth word))
  | .integer => ((integer text).map .int).mapError .value
  | .decimal => ((decimal text).map .float).mapError .value
  | .binary =>
    match (Text.string? text).bind fun s => Base64.decode? s.toList with
    | some data => .ok (.bytes data)
    | none => .error (.yaml .wrongKind)
  | .timestamp =>
    match (Text.string? text).bind fun s => timestamp? s.toList with
    | some (day, clock) => (timestamp day clock).mapError .value
    | none => .error (.value .notTimestamp)
  | .text => .ok (.ofPoints text)
  | _ => .error (.yaml .wrongKind)

/-- A value, and the faults met in building it, sorted by how deep they lie. Of all faults of a
document the first one of the least depth is reported. -/
structure Reading where
  value : Value
  faults : List (List LoadFault)

namespace Reading

def ofResult : Except LoadFault Value → Reading
  | .ok value => ⟨value, []⟩
  | .error fault => ⟨.null, [[fault]]⟩

def faulty (fault : Fault) : Reading :=
  ⟨.null, [[.yaml fault]]⟩

/-- Faults of two parts, the first before the second at every depth. -/
def both : List (List LoadFault) → List (List LoadFault) → List (List LoadFault)
  | [], later => later
  | earlier, [] => earlier
  | fs :: earlier, gs :: later => (fs ++ gs) :: both earlier later

def all (readings : List Reading) : List (List LoadFault) :=
  readings.foldr (fun reading faults => both reading.faults faults) []

/-- A collection; the faults of its parts lie one step deeper. -/
def collection (value : Value) (faults : List (List LoadFault)) : Reading :=
  ⟨value, if faults.isEmpty then [] else [] :: faults⟩

def list (items : List Reading) : Reading :=
  collection (.list (items.map (·.value))) (all items)

/-- The faults of an entry. A collection as a key is a fault by itself, whatever it holds. -/
def ofEntry (entry : Reading × Reading) : List (List LoadFault) :=
  if entry.1.value.isKey then both entry.1.faults entry.2.faults
  else [[.yaml .unhashableKey]]

def entryFaults (entries : List (Reading × Reading)) : List (List LoadFault) :=
  entries.foldr (fun entry faults => both (ofEntry entry) faults) []

def mapping (entries : List (Reading × Reading)) : Reading :=
  collection (.ofEntries (entries.map fun entry => (entry.1.value, entry.2.value)))
    (entryFaults entries)

/-- The keys of a mapping as a set. -/
def set (entries : List (Reading × Reading)) : Reading :=
  let keys := entries.foldl (fun done entry => Value.setEntry done entry.1.value .null) []
  collection (.set (keys.map (·.1))) (entryFaults entries)

/-- A sequence of mappings of one entry each as a list of pairs. -/
def pairs (items : List (Option (Reading × Reading))) : Reading :=
  let pair : Option (Reading × Reading) → Reading
    | some (key, value) => ⟨.pair key.value value.value, both key.faults value.faults⟩
    | none => faulty .wrongKind
  list (items.map pair)

end Reading

/-- What a sequence is under its tag. -/
def sequenceReading (tag : Option String) (items : List Reading)
    (single : List (Option (Reading × Reading))) : Reading :=
  match tag.map kind? with
  | none => .list items
  | some none => .faulty .unknownTag
  | some (some .sequence) => .list items
  | some (some .pairs) => .pairs single
  | some (some .mapping) => .collection .null [[.yaml .wrongKind]]
  | some (some .set) => .collection .null [[.yaml .wrongKind]]
  | some (some _) => .faulty .wrongKind

/-- What a mapping is under its tag. -/
def mappingReading (tag : Option String) (entries : List (Reading × Reading)) : Reading :=
  match tag.map kind? with
  | none => .mapping entries
  | some none => .faulty .unknownTag
  | some (some .mapping) => .mapping entries
  | some (some .set) => .set entries
  | some (some .sequence) => .collection .null [[.yaml .wrongKind]]
  | some (some .pairs) => .collection .null [[.yaml .wrongKind]]
  | some (some _) => .faulty .wrongKind

/-- What a scalar is under its tag. -/
def scalarReading (tag : Option String) (text : List CodePoint) (plain : Bool) : Reading :=
  match tag.map kind? with
  | none => .ofResult (plainValue text plain)
  | some none => .faulty .unknownTag
  | some (some kind) =>
    if [.sequence, .mapping, .set, .pairs].contains kind then
      .collection .null [[.yaml .wrongKind]]
    else .ofResult (scalarValue kind text)

mutual

/-- What a node without merge keys stands for. -/
def Node.reading : Node → Reading
  | .scalar tag text plain => scalarReading tag text plain
  | .sequence tag items => sequenceReading tag (readings items) (singleEntries items)
  | .mapping tag entries => mappingReading tag (entryReadings entries)
  | .enclosing isMapping => ⟨.cycle isMapping, []⟩

def readings : List Node → List Reading
  | [] => []
  | item :: rest => item.reading :: readings rest

def entryReadings : List (Node × Node) → List (Reading × Reading)
  | [] => []
  | (key, value) :: rest => (key.reading, value.reading) :: entryReadings rest

/-- The entries of the items that are mappings of one entry. -/
def singleEntries : List Node → List (Option (Reading × Reading))
  | [] => []
  | .mapping _ [(key, value)] :: rest =>
    some (key.reading, value.reading) :: singleEntries rest
  | _ :: rest => none :: singleEntries rest

end

/-- The value that a node stands for. -/
def Node.value (node : Node) : Except LoadFault Value :=
  let reading := node.flat.reading
  match reading.faults.flatten with
  | [] => .ok reading.value
  | fault :: _ => .error fault

/-- Line breaks as files are read: each of the forms of a line break counts as one. -/
def plainBreaks : List Char → List Char
  | '\r' :: '\n' :: rest => '\n' :: plainBreaks rest
  | '\r' :: rest => '\n' :: plainBreaks rest
  | c :: rest => c :: plainBreaks rest
  | [] => []

/-- The value of a text; one that holds no document stands for null. -/
def load (text : List Char) : Except LoadFault Value := do
  let tokens ← tokens (plainBreaks text)
  match ← document? tokens with
  | some node => node.value
  | none => return .null

end CrateSurface.Yaml
