import CrateSurface.Surface.Declaration

namespace CrateSurface

/-- The one thing that an item adds to the record of its module. -/
inductive Declaration where
  | const (field : Field String)
  | enum (record : Enum String)
  | struct (record : Struct String)
  | trait (record : Trait String)
  | function (record : Function String)
  | methods (group : MethodGroup String)
deriving Repr

namespace Declaration

def const? : Declaration → Option (Field String)
  | .const x => some x
  | _ => none

def enum? : Declaration → Option (Enum String)
  | .enum x => some x
  | _ => none

def struct? : Declaration → Option (Struct String)
  | .struct x => some x
  | _ => none

def trait? : Declaration → Option (Trait String)
  | .trait x => some x
  | _ => none

def function? : Declaration → Option (Function String)
  | .function x => some x
  | _ => none

def methods? : Declaration → Option (MethodGroup String)
  | .methods x => some x
  | _ => none

end Declaration

/-- What an item adds to its module: at most one declaration, and what was noticed. -/
abbrev Contribution := Noted (Option Declaration)

namespace Contribution

def nothing : Contribution := ⟨none, [], []⟩

/-- An exported macro becomes a stub if it is a definition with a name. -/
def ofExportedMacro (node : Node) : Contribution :=
  let name := if node.kind == "macro_definition" then node.nameText else ""
  if name == "" then ⟨none, [⟨.namelessMacro, node.render⟩], []⟩
  else ⟨some (.function (macroStub name)), [], []⟩

/-- A public item of a kind that stands in documents, or a remark that it is of no such kind. -/
def ofPublicItem (item : Node) : Contribution :=
  if item.kind == "const_item" then ⟨some (.const item.slot), [], []⟩
  else if item.kind == "function_item" then item.signature.map (some ∘ .function)
  else if item.kind == "struct_item" then item.structRecord.map (some ∘ .struct)
  else if item.kind == "enum_item" then item.enumRecord.map (some ∘ .enum)
  else if item.kind == "trait_item" then item.traitRecord.map (some ∘ .trait)
  else ⟨none, [], [.ignored item.kind]⟩

/-- The contribution of an item, given its earlier siblings, nearest first. -/
def ofItem (earlier : List Node) (item : Node) : Contribution :=
  if item.kind == "expression_statement" then
    match item.namedChildren with
    | [inner] =>
      if inner.kind == "macro_invocation" && Node.isExported earlier then ofExportedMacro inner
      else nothing
    | _ => nothing
  else if item.kind == "impl_item" then item.methodGroup?.map (Option.map .methods)
  else if item.kind == "macro_definition" || item.kind == "macro_invocation" then
    if Node.isExported earlier then ofExportedMacro item else nothing
  else if item.isPublic then ofPublicItem item
  else nothing

end Contribution

/-- An item of a module body as the walk through the crate sees it. -/
inductive Entry where
  | item (contribution : Contribution)
  | inlineModule (name : String) (body : List Entry)
  | fileModule (name : String)

namespace Node

mutual

/-- The entries of a module body: private modules are left out, public ones followed. -/
def outline : Node → List Entry
  | ⟨_, _, _, _, _, _, children⟩ => entriesAfter [] children

/-- The entries of the children after the earlier named siblings, nearest first. -/
def entriesAfter (earlier : List Node) : List Node → List Entry
  | [] => []
  | child :: rest =>
    if child.named then (child.entry? earlier).toList ++ entriesAfter (child :: earlier) rest
    else entriesAfter earlier rest

/-- What an item is in the outline, given the items before it. -/
def entry? (earlier : List Node) : Node → Option Entry
  | ⟨kind, text, field, named, error, missing, children⟩ =>
    let node : Node := ⟨kind, text, field, named, error, missing, children⟩
    if kind == "mod_item" then
      if node.isPublic then
        match bodyOutline? children with
        | some body => some (.inlineModule node.nameText body)
        | none => some (.fileModule node.nameText)
      else none
    else some (.item (Contribution.ofItem earlier node))

/-- The entries of the body among the children of a module declaration. -/
def bodyOutline? : List Node → Option (List Entry)
  | [] => none
  | child :: rest => if child.field == some "body" then some child.outline else bodyOutline? rest

end

end Node

/-- The contributions of the items that stand directly in a body. -/
def contributions (body : List Entry) : List Contribution :=
  body.filterMap fun
    | .item contribution => some contribution
    | _ => none

/-- The record of a module: the contributions of its items, list by list, in source order. -/
def Module.ofBody (file : String) (parts : List String) (body : List Entry) : Module String :=
  let noted := contributions body
  let declared := noted.filterMap (·.value)
  { file, parts,
    consts := declared.filterMap (·.const?),
    enums := declared.filterMap (·.enum?),
    structs := declared.filterMap (·.struct?),
    traits := declared.filterMap (·.trait?),
    functions := declared.filterMap (·.function?),
    pendingMethods := declared.filterMap (·.methods?),
    issues := (noted.flatMap (·.findings)).map (Finding.issue file) }

end CrateSurface
