namespace CrateSurface

/-- A named, typed slot: a constant, a field of a struct or a parameter. The records of this file
are generic in what stands at their leaves: text where they come from source code, any JSON value
where they come from a document. -/
structure Field (α : Type) where
  name : α
  type : α
deriving Repr, DecidableEq, BEq

/-- A function, a method, or the stand-in for an exported macro. -/
structure Function (α : Type) where
  name : α
  typeParams : List α
  params : List (Field α)
  returnType : α
deriving Repr, DecidableEq, BEq

structure Struct (α : Type) where
  name : α
  typeParams : List α
  fields : List (Field α)
deriving Repr, DecidableEq, BEq

structure Enum (α : Type) where
  name : α
  typeParams : List α
  variants : List α
deriving Repr, DecidableEq, BEq

/-- A trait; its associated types stand after its type parameters. -/
structure Trait (α : Type) where
  name : α
  typeParams : List α
  superTraits : List α
  methods : List (Function α)
deriving Repr, DecidableEq, BEq

/-- The public methods of one inherent block. Blocks of the same target stay apart. -/
structure MethodGroup (α : Type) where
  target : α
  methods : List (Function α)
deriving Repr, DecidableEq, BEq

/-- A construct that was left out because the schema cannot express it. -/
structure Issue (α : Type) where
  file : α
  kind : α
  snippet : α
  reason : α
deriving Repr, DecidableEq, BEq

/-- What one module, a file or an inline block, makes public. -/
structure Module (α : Type) where
  file : α
  parts : List α
  consts : List (Field α)
  enums : List (Enum α)
  structs : List (Struct α)
  traits : List (Trait α)
  functions : List (Function α)
  pendingMethods : List (MethodGroup α)
  issues : List (Issue α)
deriving Repr, DecidableEq, BEq

/-- A module path in `a::b` form; the crate root has the empty path. -/
def pathKey (parts : List String) : String :=
  "::".intercalate parts

/-- The path as messages show it. -/
def pathLabel (parts : List String) : String :=
  let key := pathKey parts
  if key == "" then "<root>" else key

section Map

variable {α β : Type} (f : α → β)

def Field.map (x : Field α) : Field β :=
  ⟨f x.name, f x.type⟩

def Function.map (x : Function α) : Function β :=
  ⟨f x.name, x.typeParams.map f, x.params.map (·.map f), f x.returnType⟩

def Struct.map (x : Struct α) : Struct β :=
  ⟨f x.name, x.typeParams.map f, x.fields.map (·.map f)⟩

def Enum.map (x : Enum α) : Enum β :=
  ⟨f x.name, x.typeParams.map f, x.variants.map f⟩

def Trait.map (x : Trait α) : Trait β :=
  ⟨f x.name, x.typeParams.map f, x.superTraits.map f, x.methods.map (·.map f)⟩

def MethodGroup.map (x : MethodGroup α) : MethodGroup β :=
  ⟨f x.target, x.methods.map (·.map f)⟩

def Issue.map (x : Issue α) : Issue β :=
  ⟨f x.file, f x.kind, f x.snippet, f x.reason⟩

def Module.map (x : Module α) : Module β :=
  ⟨f x.file, x.parts.map f, x.consts.map (·.map f), x.enums.map (·.map f),
    x.structs.map (·.map f), x.traits.map (·.map f), x.functions.map (·.map f),
    x.pendingMethods.map (·.map f), x.issues.map (·.map f)⟩

end Map

end CrateSurface
