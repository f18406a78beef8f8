import CrateSurface.Surface.Signature

namespace CrateSurface.Node

/-- A child with a name and a type as a slot. -/
def slot (n : Node) : Field String :=
  ⟨n.nameText, renderOption (n.childByField? "type")⟩

/-- The public named fields of a struct body. -/
def publicFields (body : Node) : List (Field String) :=
  (body.namedChildren.filter fun child =>
    child.kind == "field_declaration" && child.isPublic).map slot

/-- A struct with its public named fields. The fields of a tuple struct are left out with a
finding. -/
def structRecord (item : Node) : Noted (Struct String) :=
  let generics := typeParams .struct item.nameText item
  match item.childOfKind? "field_declaration_list" with
  | some body => ⟨⟨item.nameText, generics.value, body.publicFields⟩, generics.findings, []⟩
  | none =>
    let tuple := (item.childOfKind? "ordered_field_declaration_list").isSome
    ⟨⟨item.nameText, generics.value, []⟩,
      generics.findings ++ (if tuple then [⟨.tupleStruct, item.nameText⟩] else []), []⟩

/-- Whether a variant has fields, with names or without. -/
def hasPayload (variant : Node) : Bool :=
  variant.children.any fun child =>
    child.kind == "field_declaration_list" || child.kind == "ordered_field_declaration_list"

/-- The named children of the body of an item, if it has a body. -/
def members (item : Node) : List Node :=
  match item.childByField? "body" with
  | some body => body.namedChildren
  | none => []

/-- An enum as the list of its variants. A payload is left out with a finding. -/
def enumRecord (item : Node) : Noted (Enum String) :=
  let generics := typeParams .enum item.nameText item
  let variants := item.members.filter fun child => child.kind == "enum_variant"
  ⟨⟨item.nameText, generics.value, variants.map nameText⟩,
    generics.findings ++
      (variants.filter hasPayload).map fun variant => ⟨.variantPayload, variant.nameText⟩,
    []⟩

end CrateSurface.Node

namespace CrateSurface

/-- What a member of a trait body stands for. -/
inductive TraitMember where
  | method (signature : Noted (Function String))
  | associatedType (name : String)
  | unsupported (finding : Finding)
  | nothing

namespace TraitMember

def ofNode (member : Node) : TraitMember :=
  if member.isAttribute || member.isComment || member.kind == "empty_statement" then .nothing
  else if member.kind == "function_signature_item" || member.kind == "function_item" then
    .method member.signature
  else if member.kind == "associated_type" then .associatedType member.nameText
  else .unsupported ⟨.traitMember, member.render⟩

def method? : TraitMember → Option (Function String)
  | .method signature => some signature.value
  | _ => none

def associatedType? : TraitMember → Option String
  | .associatedType name => some name
  | _ => none

def findings : TraitMember → List Finding
  | .method signature => signature.findings
  | .unsupported finding => [finding]
  | _ => []

def remarks : TraitMember → List Remark
  | .method signature => signature.remarks
  | _ => []

end TraitMember

/-- Adds a name at the end of a list unless it is empty or already there. -/
def addName (names : List String) (name : String) : List String :=
  if name == "" || names.contains name then names else names ++ [name]

namespace Node

/-- A trait with its generics, associated types, supertraits and methods. -/
def traitRecord (item : Node) : Noted (Trait String) :=
  let generics := typeParams .trait item.nameText item
  let members := item.members.map TraitMember.ofNode
  ⟨⟨item.nameText, (members.filterMap (·.associatedType?)).foldl addName generics.value,
      renderBounds (item.childByField? "bounds"), members.filterMap (·.method?)⟩,
    generics.findings ++ members.flatMap (·.findings), members.flatMap (·.remarks)⟩

mutual

/-- The last path segment of a type that names a nominal type; none for references, tuples and the
like. -/
def nominalName? : Node → Option String
  | ⟨kind, text, _, _, _, _, children⟩ =>
    if kind == "generic_type" then nominalByField? "type" children
    else if kind == "scoped_type_identifier" then nominalByField? "name" children
    else if kind == "type_identifier" || kind == "primitive_type" then
      if text.getD "" == "" then none else some (text.getD "")
    else none

def nominalByField? (role : String) : List Node → Option String
  | [] => none
  | child :: rest =>
    if child.field == some role then child.nominalName? else nominalByField? role rest

end

/-- The public methods of an inherent block. A block that implements a trait or has no public
method gives nothing; one whose target is no nominal type gives a finding. -/
def methodGroup? (item : Node) : Noted (Option (MethodGroup String)) :=
  if (item.childByField? "trait").isSome then ⟨none, [], []⟩
  else
    match (item.childByField? "type").bind (·.nominalName?) with
    | none => ⟨none, [⟨.implTarget, renderOption (item.childByField? "type")⟩], []⟩
    | some target =>
      let methods := Noted.sequence <| (item.members.filter fun member =>
        member.kind == "function_item" && member.isPublic).map signature
      if methods.value.isEmpty then ⟨none, methods.findings, methods.remarks ++ [.emptyImpl target]⟩
      else methods.map fun ms => some ⟨target, ms⟩

/-- The path of an attribute, without its arguments. -/
def attributePath (item : Node) : String :=
  match item.namedChildren.find? fun child => child.kind == "attribute" with
  | some inner => renderOption inner.namedChildren.head?
  | none => ""

/-- The attributes directly before an item, nearest first, given its earlier siblings, nearest
first. -/
def attachedAttributes (earlier : List Node) : List Node :=
  (earlier.takeWhile fun n => n.isAttribute || n.isComment).filter fun n =>
    n.kind == "attribute_item"

/-- Whether an attribute before the item exports macros. -/
def isExported (earlier : List Node) : Bool :=
  (attachedAttributes earlier).any fun item => item.attributePath == "macro_export"

end Node

/-- An exported macro as a function from tokens to tokens. -/
def macroStub (name : String) : Function String :=
  ⟨name, [], [⟨"tokens", "Tokens"⟩], "Tokens"⟩

end CrateSurface
