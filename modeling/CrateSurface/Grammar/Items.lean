import CrateSurface.Grammar.Expressions
import CrateSurface.Grammar.TokenTrees
import CrateSurface.Grammar.Types

namespace CrateSurface.Grammar.Part

/-- A path without type arguments, as in attributes and imports. -/
def path : Part :=
  .grow (any [selfWord, superWord, crateWord, dollarName, anyIdentifier,
      .node "scoped_identifier" (.seq pathSep (.role "name" anyIdentifier))])
    [("scoped_identifier", some "path", .seq pathSep (.role "name" anyIdentifier))]

def visibility : Part :=
  .node "visibility_modifier" (any [
    .seq (word "pub") (opt (all [punct "(",
      any [selfWord, superWord, crateWord, .seq (word "in") (.ref .path)], punct ")"])),
    .seq crateWord (.butNot pathSep)])

def attributeBody : Part :=
  .node "attribute" (.seq (.ref .path)
    (opt (any [.seq assign (.role "value" (.ref (.expression true))),
      .role "arguments" (.ref .tokenTree)])))

def attributeItem : Part :=
  .node "attribute_item" (all [punct "#", punct "[", attributeBody, punct "]"])

def innerAttributeItem : Part :=
  .node "inner_attribute_item" (all [punct "#", punct "!", punct "[", attributeBody, punct "]"])

def generics : Part :=
  opt (.role "type_parameters" (.ref .typeParameters))

def conditions : Part :=
  opt (.ref .whereClause)

def itemName : Part :=
  .role "name" anyTypeIdentifier

def fieldList : Part :=
  .node "field_declaration_list" (bracketed openBrace (attributed (.node "field_declaration"
    (all [opt (.ref .visibility), .role "name" anyFieldIdentifier, colon,
      .role "type" (.ref .type)]))) closeBrace)

def tupleFieldList : Part :=
  .node "ordered_field_declaration_list" (bracketed (punct "(")
    (attributed (.seq (opt (.ref .visibility)) (.role "type" (.ref .type)))) (punct ")"))

def structItem : Part :=
  .node "struct_item" (all [opt (.ref .visibility), word "struct", itemName, generics,
    any [.seq conditions (.role "body" (.ref .fieldList)),
      all [.role "body" (.ref .tupleFieldList), conditions, semicolon],
      semicolon]])

def unionItem : Part :=
  .node "union_item" (all [opt (.ref .visibility), word "union", itemName, generics, conditions,
    .role "body" (.ref .fieldList)])

def variantList : Part :=
  .node "enum_variant_list" (bracketed openBrace (attributed (.node "enum_variant"
    (all [opt (.ref .visibility), .role "name" anyIdentifier,
      opt (.role "body" (any [.ref .fieldList, .ref .tupleFieldList])),
      opt (.seq assign (.role "value" (.ref (.expression true))))]))) closeBrace)

def enumItem : Part :=
  .node "enum_item" (all [opt (.ref .visibility), word "enum", itemName, generics, conditions,
    .role "body" (.ref .variantList)])

/-- A type alias, or an associated type without a value. -/
def typeItem : Part :=
  .fork (all [opt (.ref .visibility), word "type", itemName, generics,
      opt (.role "bounds" (.ref .traitBounds)), conditions]) [
    ("associated_type", none, semicolon),
    ("type_item", none, all [assign, .role "type" (.ref .type), conditions, semicolon])]

/-- A function, with a body or without. -/
def function : Part :=
  .fork (all [opt (.ref .visibility), opt functionModifiers, word "fn",
      .role "name" (any [dollarName, anyIdentifier]), generics,
      .role "parameters" (.ref .parameters),
      opt (.seq arrow (.role "return_type" (.ref .type))), conditions]) [
    ("function_item", none, .role "body" (.ref .block)),
    ("function_signature_item", none, semicolon)]

def implItem : Part :=
  .node "impl_item" (all [opt (word "unsafe"), word "impl", generics,
    opt (all [opt bang, .role "trait" (.ref .bareType), word "for"]),
    .role "type" (.ref .type), conditions,
    any [.role "body" (.ref .memberList), semicolon]])

def traitItem : Part :=
  .node "trait_item" (all [opt (.ref .visibility), opt (word "unsafe"), word "trait", itemName,
    generics, opt (.role "bounds" (.ref .traitBounds)), conditions,
    .role "body" (.ref .memberList)])

def constItem : Part :=
  .node "const_item" (all [opt (.ref .visibility), word "const", .role "name" anyIdentifier, colon,
    .role "type" (.ref .type), opt (.seq assign (.role "value" (.ref (.expression true)))),
    semicolon])

def staticItem : Part :=
  .node "static_item" (all [opt (.ref .visibility), word "static", opt (word "ref"), opt mutable,
    .role "name" anyIdentifier, colon, .role "type" (.ref .type),
    opt (.seq assign (.role "value" (.ref (.expression true)))), semicolon])

/-- A module with its body, which holds what a file may hold, or without it. -/
def modItem : Part :=
  .node "mod_item" (all [opt (.ref .visibility), word "mod", .role "name" anyIdentifier,
    any [semicolon, .role "body" (.node "declaration_list"
      (all [openBrace, .many (.ref (.statement false)), closeBrace]))]])

def foreignModItem : Part :=
  .node "foreign_mod_item" (all [opt (.ref .visibility), opt (word "unsafe"),
    .node "extern_modifier" (.seq (word "extern")
      (opt (any [.token stringLiteral, .token rawStringLiteral]))),
    any [semicolon, .role "body" (.ref .memberList)]])

def externCrate : Part :=
  .node "extern_crate_declaration" (all [opt (.ref .visibility), word "extern", crateWord,
    .role "name" anyIdentifier, opt (.seq (word "as") (.role "alias" anyIdentifier)), semicolon])

def useList : Part :=
  .node "use_list" (bracketed openBrace (.ref .useClause) closeBrace)

def useClause : Part :=
  any [
    .ref .useList,
    .node "use_wildcard" (.seq (opt pathSep) (punct "*")),
    .node "scoped_use_list" (.seq pathSep (.role "list" (.ref .useList))),
    .grow (.ref .path) [
      ("scoped_use_list", some "path", .seq pathSep (.role "list" (.ref .useList))),
      ("use_wildcard", none, .seq pathSep (punct "*")),
      ("use_as_clause", some "path", .seq (word "as") (.role "alias" anyIdentifier))]]

def useItem : Part :=
  .node "use_declaration" (all [opt (.ref .visibility), word "use",
    .role "argument" (.ref .useClause), semicolon])

def letItem : Part :=
  .node "let_declaration" (all [word "let", opt mutable, .role "pattern" (.ref .pattern),
    opt (.seq colon (.role "type" (.ref .type))),
    opt (.seq assign (.role "value" (.ref (.expression true)))),
    opt (.seq (word "else") (.role "alternative" (.ref .block))), semicolon])

/-- Everything that begins with a word of its own, and attributes. -/
def item : Part :=
  any [
    .node "empty_statement" semicolon,
    .ref .attributeItem,
    .ref .innerAttributeItem,
    macroDefinition,
    .ref .function,
    structItem, enumItem, traitItem, implItem, constItem, modItem, useItem, typeItem, staticItem,
    unionItem, letItem, externCrate, foreignModItem]

/-- A call of a macro by itself. -/
def macroCall (tree : Part) : Part :=
  let path := Rule.grow (any [selfWord, superWord, crateWord, identifier, dollarName,
      .node "scoped_identifier" (.seq pathSep (.role "name" anyIdentifier))])
    [("scoped_identifier", some "path", .seq pathSep (.role "name" anyIdentifier))]
  .node "macro_invocation" (all [.role "macro" path, bang, tree])

/-- The word that begins a definition of a macro calls none. -/
def notDefinition : Part :=
  .butNot (punct "macro_rules!")

/-- The body of a trait, of an implementation or of a foreign module. -/
def memberList : Part :=
  .node "declaration_list" (all [openBrace,
    .many (any [.ref .item, .seq notDefinition (macroCall (.ref .tokenTree))]), closeBrace])

/-- A statement of a file, a module or a block. At the end of a block an expression needs no
semicolon. -/
def statement (inBlock : Bool) : Part :=
  let braced := Rule.seq (.ahead openBrace) (.ref .tokenTree)
  let last : List (String × Option String × Part) :=
    if inBlock then [("", none, .ahead closeBrace)] else []
  any [
    .ref .item,
    all [.butNot blockStart, notDefinition, any [
      .seq (macroCall braced) standsAlone,
      .fork (.ref (.expression true)) (("expression_statement", none, semicolon) :: last),
      macroCall (.ref .tokenTree)]],
    .fork (.ref .blockLike) [
      ("expression_statement", none, standsAlone),
      ("expression_statement", none, .seq afterBlock
        (if inBlock then any [semicolon, .ahead closeBrace] else semicolon))]]

end CrateSurface.Grammar.Part
