import CrateSurface.Proofs.Census
import CrateSurface.Proofs.ModuleTree
import Mathlib.Tactic.MkIffOfInductiveProp

namespace CrateSurface.Node

section Constructs

/-- A generic parameter that is a lifetime, with or without bounds. -/
inductive IsLifetime (param : Node) : Prop
  | bare : param.kind = "lifetime" ∨ param.kind = "lifetime_parameter" → IsLifetime param
  | bounded {left : Node} : param.kind = "constrained_type_parameter" →
      param.childByField? "left" = some left → left.kind = "lifetime" → IsLifetime param

/-- A pattern that is a name, possibly under `mut` and `ref` wrappers that hold nothing else but
mutability markers. Children that do not count are as if they were not there. -/
inductive PlainBinding (counts : Node → Bool) : Node → Prop
  | identifier {n : Node} : n.kind = "identifier" → PlainBinding counts n
  | wrapped {n inner : Node} : n.kind = "mut_pattern" ∨ n.kind = "ref_pattern" →
      (n.namedChildren.filter fun child => child.kind != "mutable_specifier" && counts child) = [inner] →
      PlainBinding counts inner → PlainBinding counts n

/-- A type that names a nominal type: a name, or a path or an instance of one. -/
inductive NamesType : Node → Prop
  | name {n : Node} : n.kind = "type_identifier" ∨ n.kind = "primitive_type" → n.textOrEmpty ≠ "" →
      NamesType n
  | generic {n inner : Node} : n.kind = "generic_type" → n.childByField? "type" = some inner →
      NamesType inner → NamesType n
  | path {n inner : Node} : n.kind = "scoped_type_identifier" →
      n.childByField? "name" = some inner → NamesType inner → NamesType n

/-- Items, nearest first, of which the first ones are attributes and comments with a `macro_export`
among them. -/
inductive MacroExport : List Node → Prop
  | here {n : Node} {rest : List Node} : n.kind = "attribute_item" →
      n.attributePath = "macro_export" → MacroExport (n :: rest)
  | behind {n : Node} {rest : List Node} : n.isAttribute = true ∨ n.isComment = true →
      MacroExport rest → MacroExport (n :: rest)

end Constructs

section Unsupported

variable (counts : Node → Bool)

/-- A lifetime parameter or a const parameter. -/
inductive UnsupportedGeneric (owner : Owner) (name : String) (param : Node) : Finding → Prop
  | lifetime : param.IsLifetime →
      UnsupportedGeneric owner name param ⟨.lifetimeParameter owner name, param.render⟩
  | const : param.kind = "const_parameter" →
      UnsupportedGeneric owner name param ⟨.constParameter owner name, param.render⟩

/-- The lifetime and const parameters of an item. -/
inductive UnsupportedGenerics (owner : Owner) (item : Node) : Place → Finding → Prop
  | param {list param : Node} {k : Nat} {f : Finding} :
      item.childByField? "type_parameters" = some list → list.namedChildren[k]? = some param →
      UnsupportedGeneric owner item.nameText param f → UnsupportedGenerics owner item [k] f

/-- A parameter that is neither a receiver nor a plain binding nor variadic. -/
inductive UnsupportedParam (param : Node) : Finding → Prop
  | pattern : param.kind = "parameter" →
      (∀ p, param.childByField? "pattern" = some p → p.kind ≠ "self" ∧ ¬ PlainBinding counts p) →
      UnsupportedParam param ⟨.parameterPattern, renderOption (param.childByField? "pattern")⟩
  | bare : param.kind ∉ ["self_parameter", "parameter", "variadic_parameter", "attribute_item",
        "inner_attribute_item", "line_comment", "block_comment"] →
      UnsupportedParam param ⟨.parameterPattern, param.render⟩

/-- What a function or method has of unsupported generics, at 0, and parameters, at 1. -/
inductive UnsupportedInCallable (callable : Node) : Place → Finding → Prop
  | generic {place : Place} {f : Finding} : UnsupportedGenerics .function callable place f →
      UnsupportedInCallable callable (0 :: place) f
  | param {list param : Node} {k : Nat} {f : Finding} :
      callable.childByField? "parameters" = some list → list.namedChildren[k]? = some param →
      UnsupportedParam counts param f → UnsupportedInCallable callable [1, k] f

/-- What a struct has of unsupported generics, at 0, and fields without names, at 1. -/
inductive UnsupportedInStruct (item : Node) : Place → Finding → Prop
  | generic {place : Place} {f : Finding} : UnsupportedGenerics .struct item place f →
      UnsupportedInStruct item (0 :: place) f
  | tuple : item.childOfKind? "field_declaration_list" = none →
      (item.childOfKind? "ordered_field_declaration_list").isSome = true →
      UnsupportedInStruct item [1] ⟨.tupleStruct, item.nameText⟩

/-- What an enum has of unsupported generics, at 0, and variants with payloads, at 1. -/
inductive UnsupportedInEnum (item : Node) : Place → Finding → Prop
  | generic {place : Place} {f : Finding} : UnsupportedGenerics .enum item place f →
      UnsupportedInEnum item (0 :: place) f
  | payload {variant child : Node} {k : Nat} : item.members[k]? = some variant →
      variant.kind = "enum_variant" → child ∈ variant.children →
      child.kind = "field_declaration_list" ∨ child.kind = "ordered_field_declaration_list" →
      UnsupportedInEnum item [1, k] ⟨.variantPayload, variant.nameText⟩

/-- What a trait has of unsupported generics, at 0, and members, at 1. -/
inductive UnsupportedInTrait (item : Node) : Place → Finding → Prop
  | generic {place : Place} {f : Finding} : UnsupportedGenerics .trait item place f →
      UnsupportedInTrait item (0 :: place) f
  | method {member : Node} {k : Nat} {place : Place} {f : Finding} : item.members[k]? = some member →
      member.kind = "function_item" ∨ member.kind = "function_signature_item" →
      UnsupportedInCallable counts member place f → UnsupportedInTrait item (1 :: k :: place) f
  | member {member : Node} {k : Nat} : item.members[k]? = some member →
      member.kind ∉ ["function_item", "function_signature_item", "associated_type", "empty_statement",
        "attribute_item", "inner_attribute_item", "line_comment", "block_comment"] →
      UnsupportedInTrait item [1, k] ⟨.traitMember, member.render⟩

/-- What an inherent block has of unsupported: its target, or else its public methods have it. -/
inductive UnsupportedInImpl (item : Node) : Place → Finding → Prop
  | target : (∀ type, item.childByField? "type" = some type → ¬ NamesType type) →
      UnsupportedInImpl item [] ⟨.implTarget, renderOption (item.childByField? "type")⟩
  | method {type member : Node} {k : Nat} {place : Place} {f : Finding} :
      item.childByField? "type" = some type → NamesType type → item.members[k]? = some member →
      member.kind = "function_item" → member.isPublic = true →
      UnsupportedInCallable counts member place f → UnsupportedInImpl item (k :: place) f

/-- A macro item without a name: a definition that lacks one, or a call. -/
@[mk_iff]
inductive NamelessMacro (item : Node) : Node → Prop
  | definition : item.kind = "macro_definition" → item.nameText = "" → NamelessMacro item item
  | call : item.kind = "macro_invocation" → NamelessMacro item item
  | statement {inner : Node} : item.kind = "expression_statement" →
      item.namedChildren.filter counts = [inner] → inner.kind = "macro_invocation" →
      NamelessMacro item inner

/-- What an item has of unsupported constructs, after the items `before` it, nearest first. -/
@[mk_iff]
inductive Unsupported (before : List Node) (item : Node) : Place → Finding → Prop
  | function {place : Place} {f : Finding} : item.kind = "function_item" → item.isPublic = true →
      UnsupportedInCallable counts item place f → Unsupported before item place f
  | struct {place : Place} {f : Finding} : item.kind = "struct_item" → item.isPublic = true →
      UnsupportedInStruct item place f → Unsupported before item place f
  | enum {place : Place} {f : Finding} : item.kind = "enum_item" → item.isPublic = true →
      UnsupportedInEnum item place f → Unsupported before item place f
  | trait {place : Place} {f : Finding} : item.kind = "trait_item" → item.isPublic = true →
      UnsupportedInTrait counts item place f → Unsupported before item place f
  | impl {place : Place} {f : Finding} : item.kind = "impl_item" →
      item.childByField? "trait" = none → UnsupportedInImpl counts item place f →
      Unsupported before item place f
  | exported {m : Node} : MacroExport before → NamelessMacro counts item m →
      Unsupported before item [] ⟨.namelessMacro, m.render⟩

/-- The unsupported constructs of a module body. Modules in it have bodies of their own. -/
def UnsupportedIn (items : List Node) (place : Place) (f : Finding) : Prop :=
  ∃ (i : Nat) (item : Node) (rest : Place), items[i]? = some item ∧ place = i :: rest ∧
    Unsupported counts (items.take i).reverse item rest f

end Unsupported

end CrateSurface.Node
