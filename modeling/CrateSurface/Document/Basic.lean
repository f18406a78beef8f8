import CrateSurface.Json.Writer
import CrateSurface.Surface.Module

namespace CrateSurface

/-- The version of the schema that documents are written in. -/
def schemaVersion : Nat := 1

/-- The public surface of a crate: a schema tag and modules in order. A document that was read may
hold any values at its leaves. -/
structure Document where
  schema : Json
  modules : List (Module Json)
deriving BEq

section Encoding

def Field.toJson (x : Field Json) : Json :=
  .obj [("name", x.name), ("type", x.type)]

def Function.toJson (x : Function Json) : Json :=
  .obj [("name", x.name), ("typeParams", .arr x.typeParams),
    ("params", .arr (x.params.map Field.toJson)), ("returnType", x.returnType)]

def Enum.toJson (x : Enum Json) : Json :=
  .obj [("name", x.name), ("typeParams", .arr x.typeParams), ("variants", .arr x.variants)]

def Struct.toJson (x : Struct Json) : Json :=
  .obj [("name", x.name), ("typeParams", .arr x.typeParams),
    ("fields", .arr (x.fields.map Field.toJson))]

def Trait.toJson (x : Trait Json) : Json :=
  .obj [("name", x.name), ("typeParams", .arr x.typeParams), ("superTraits", .arr x.superTraits),
    ("methods", .arr (x.methods.map Function.toJson))]

def MethodGroup.toJson (x : MethodGroup Json) : Json :=
  .obj [("target", x.target), ("methods", .arr (x.methods.map Function.toJson))]

def Issue.toJson (x : Issue Json) : Json :=
  .obj [("file", x.file), ("kind", x.kind), ("snippet", x.snippet), ("reason", x.reason)]

def Module.toJson (x : Module Json) : Json :=
  .obj [("file", x.file), ("parts", .arr x.parts), ("consts", .arr (x.consts.map Field.toJson)),
    ("enums", .arr (x.enums.map Enum.toJson)), ("structs", .arr (x.structs.map Struct.toJson)),
    ("traits", .arr (x.traits.map Trait.toJson)),
    ("functions", .arr (x.functions.map Function.toJson)),
    ("pendingMethods", .arr (x.pendingMethods.map MethodGroup.toJson)),
    ("issues", .arr (x.issues.map Issue.toJson))]

def Document.toJson (d : Document) : Json :=
  .obj [("schema", d.schema), ("modules", .arr (d.modules.map Module.toJson))]

end Encoding

/-- The records of a walk as parts of a document. -/
def Module.ofRecord (record : Module String) : Module Json :=
  record.map Json.str

/-- The text of a document on one line. A document with a number that is not finite has none. -/
def Document.serialize? (d : Document) : Option String :=
  d.toJson.compact?

/-- What is said of a document that has no text. -/
def unserializable : String :=
  "Failed to serialize extractor output: Out of range float values are not JSON compliant"

end CrateSurface
