import CrateSurface.Spelling
import CrateSurface.Surface.Finding

namespace CrateSurface

namespace Node

/-- Whether a generic parameter is a lifetime, also one with bounds. -/
def isLifetimeParam (param : Node) : Bool :=
  param.kind == "lifetime" || param.kind == "lifetime_parameter" ||
    (param.kind == "constrained_type_parameter" &&
      match param.childByField? "left" with
      | some left => left.kind == "lifetime"
      | none => false)

/-- The node that names a type parameter, if the node is one. -/
def typeParamName? (param : Node) : Option Node :=
  if param.kind == "type_identifier" then some param
  else if param.kind == "type_parameter" then
    (param.childByField? "name").or
      (param.namedChildren.find? fun child => child.kind == "type_identifier")
  else if param.kind == "constrained_type_parameter" then param.childByField? "left"
  else if param.kind == "optional_type_parameter" then
    match param.childByField? "name" with
    | some name =>
      if name.kind == "constrained_type_parameter" then name.childByField? "left" else some name
    | none => none
  else none

end Node

/-- What one entry of a generic parameter list stands for. -/
inductive GenericParam where
  | kept (name : String)
  | dropped (finding : Finding)
  | nothing
deriving Repr

namespace GenericParam

def name? : GenericParam → Option String
  | .kept name => some name
  | _ => none

def finding? : GenericParam → Option Finding
  | .dropped finding => some finding
  | _ => none

/-- Lifetimes and constants are dropped with a finding, type parameters count by their name. -/
def ofNode (owner : Owner) (ownerName : String) (param : Node) : GenericParam :=
  if param.isLifetimeParam then .dropped ⟨.lifetimeParameter owner ownerName, param.render⟩
  else if param.kind == "const_parameter" then
    .dropped ⟨.constParameter owner ownerName, param.render⟩
  else
    match param.typeParamName? with
    | some name => if name.textOrEmpty == "" then .nothing else .kept name.textOrEmpty
    | none => .nothing

/-- The entries of a parameter list that may be absent. -/
def ofList (owner : Owner) (ownerName : String) (list : Option Node) : List GenericParam :=
  match list with
  | none => []
  | some list => list.namedChildren.map (ofNode owner ownerName)

end GenericParam

/-- The type parameters of an item, with a finding for each parameter of another sort. -/
def typeParams (owner : Owner) (ownerName : String) (item : Node) : Noted (List String) :=
  let entries := GenericParam.ofList owner ownerName (item.childByField? "type_parameters")
  ⟨entries.filterMap (·.name?), entries.filterMap (·.finding?), []⟩

/-- The way a method takes its receiver. -/
inductive Receiver where
  | byValue
  | byRef
  | byMutRef
deriving Repr, DecidableEq

def Receiver.text : Receiver → String
  | .byValue => "self"
  | .byRef => "&self"
  | .byMutRef => "&mut self"

def Receiver.field (r : Receiver) : Field String :=
  ⟨r.text, "self"⟩

def Receiver.ofNode (param : Node) : Receiver :=
  if (param.childOfKind? "&").isSome then
    if (param.childOfKind? "mutable_specifier").isSome then .byMutRef else .byRef
  else .byValue

namespace Node

/-- Whether a pattern is a name under `mut` or `ref`. -/
def isBindingWrapper (kind : String) : Bool :=
  kind == "mut_pattern" || kind == "ref_pattern"

mutual

/-- The name that a pattern binds if it is a plain name under `mut` and `ref` wrappers. A wrapper
must hold one pattern and, besides it, only mutability markers. -/
def bindingName? : Node → Option String
  | ⟨kind, text, _, _, _, _, children⟩ =>
    if isBindingWrapper kind then
      match innerBindings children with
      | [binding] => binding
      | _ => none
    else if kind == "identifier" then some (text.getD "")
    else none

/-- The bindings of the patterns among the children of a wrapper. -/
def innerBindings : List Node → List (Option String)
  | [] => []
  | child :: rest =>
    if child.named && child.kind != "mutable_specifier" then
      child.bindingName? :: innerBindings rest
    else innerBindings rest

end

end Node

/-- One entry of a parameter list, with a finding if it has no plain name. -/
structure Param where
  field : Field String
  finding : Option Finding
deriving Repr

namespace Param

/-- A parameter with the text that stands for it in a finding. -/
def ofBinding (name : Option String) (type snippet : String) : Param :=
  match name with
  | some name => ⟨⟨name, type⟩, none⟩
  | none => ⟨⟨"unsupported", type⟩, some ⟨.parameterPattern, snippet⟩⟩

/-- A parameter with a pattern and a type. -/
def ofPattern (param : Node) : Param :=
  let pattern := param.childByField? "pattern"
  if pattern.any fun p => p.kind == "self" then ⟨Receiver.byValue.field, none⟩
  else
    ofBinding (pattern.bind (·.bindingName?)) (Node.renderOption (param.childByField? "type"))
      (Node.renderOption pattern)

/-- The entry for a child of a parameter list. A child of an unknown kind is a bare type. -/
def ofNode (child : Node) : Param :=
  if child.kind == "self_parameter" then ⟨(Receiver.ofNode child).field, none⟩
  else if child.kind == "parameter" then ofPattern child
  else ofBinding none child.render child.render

/-- Attributes, comments and the variadic marker take no place in the list. -/
def isListed (child : Node) : Bool :=
  !(child.isAttribute || child.isComment || child.kind == "variadic_parameter")

def ofList (list : Option Node) : List Param :=
  match list with
  | none => []
  | some list => (list.namedChildren.filter isListed).map ofNode

end Param

namespace Node

/-- The text of the child that names an item. -/
def nameText (item : Node) : String :=
  ((item.childByField? "name").map textOrEmpty).getD ""

/-- The record of a function or of a function without body. -/
def signature (item : Node) : Noted (Function String) :=
  let generics := typeParams .function item.nameText item
  let params := Param.ofList (item.childByField? "parameters")
  ⟨⟨item.nameText, generics.value, params.map (·.field),
      renderReturn (item.childByField? "return_type")⟩,
    generics.findings ++ params.filterMap (·.finding),
    [.signature item.nameText params.length]⟩

end Node

end CrateSurface
