import CrateSurface.Grammar.Symbol

namespace CrateSurface.Grammar.Part

/-- `Name`, `a::Name`, `Name<A>`, `Fn(A) -> B`, `name!(…)` and what can be built from these. -/
def pathType : Part :=
  let head := any [
    .token (primitiveType "primitive_type"),
    .seq (.token (name "identifier")) (.ahead pathSep),
    .token (name "type_identifier"),
    .seq (any [selfWord, superWord, crateWord]) (.ahead pathSep),
    dollarName,
    .seq (.node "bracketed_type" (all [punct "<",
      .grow (.ref .type) [("qualified_type", some "type",
        all [word "as", .role "alias" (.ref .type)])],
      punct ">"])) (.ahead pathSep),
    .node "scoped_identifier" (all [pathSep, .role "name" anyIdentifier, .ahead pathSep]),
    .node "scoped_type_identifier" (all [pathSep, .role "name" anyTypeIdentifier])]
  .grow head [
    ("macro_invocation", some "macro", .seq bang (.ref .tokenTree)),
    ("function_type", some "trait", .seq (.role "parameters" (.ref .parameters))
      (opt (.seq arrow (.role "return_type" (.ref .bareType))))),
    ("generic_type", some "type", .role "type_arguments" (.ref .typeArguments)),
    ("generic_type", some "type", .seq pathSep (.role "type_arguments" (.ref .typeArguments))),
    ("scoped_identifier", some "path",
      all [pathSep, .role "name" anyIdentifier, .ahead pathSep]),
    ("scoped_type_identifier", some "path", .seq pathSep (.role "name" anyTypeIdentifier))]

/-- Words before `fn`. -/
def functionModifiers : Part :=
  let modifier := any [word "async", word "default", word "const", word "unsafe",
    .node "extern_modifier" (.seq (word "extern")
      (opt (any [.token stringLiteral, .token rawStringLiteral])))]
  .node "function_modifiers" (.seq modifier (.many modifier))

def forLifetimes : Part :=
  .node "for_lifetimes" (all [word "for", punct "<", separated lifetimePart, opt comma, punct ">"])

def functionPointer : Part :=
  .node "function_type" (all [opt forLifetimes, opt functionModifiers, word "fn",
    .role "parameters" (.ref .parameters),
    opt (.seq arrow (.role "return_type" (.ref .bareType)))])

/-- `for<'a> Fn(&'a T)`. -/
def higherRanked : Part :=
  .node "higher_ranked_trait_bound" (all [word "for",
    .role "type_parameters" (.ref .typeParameters), .role "type" (.ref .bareType)])

/-- `use<'a, T>`. -/
def useBounds : Part :=
  .node "use_bounds" (all [word "use", punct "<",
    opt (separated (any [lifetimePart, anyTypeIdentifier])), opt comma, punct ">"])

/-- A type without `+` at its top. -/
def bareType : Part :=
  any [
    .node "reference_type" (all [punct "&", opt lifetimePart, opt mutable,
      .role "type" (.ref .bareType)]),
    .node "pointer_type" (all [punct "*", any [word "const", mutable],
      .role "type" (.ref .bareType)]),
    .node "unit_type" (.seq (punct "(") (punct ")")),
    .node "tuple_type" (all [punct "(", separated (.ref .type), opt comma, punct ")"]),
    .node "array_type" (all [punct "[", .role "element" (.ref .type),
      opt (.seq semicolon (.role "length" (.ref (.expression true)))), punct "]"]),
    .node "abstract_type" (all [word "impl",
      opt (.seq (word "for") (.ref .typeParameters)),
      .role "trait" (any [useBounds, .ref .bareType])]),
    .node "dynamic_type" (.seq (word "dyn") (.role "trait" (any [higherRanked, .ref .bareType,
      .seq lifetimePart (.ahead (punct "+"))]))),
    functionPointer,
    higherRanked,
    .node "removed_trait_bound" (.seq (punct "?") (.ref .bareType)),
    .node "never_type" bang,
    pathType]

/-- A type, or several with `+` between them. -/
def type : Part :=
  let more : List (String × Option String × Part) := [("bounded_type", none,
    .seq (operator "+" "=") (any [lifetimePart, useBounds, .ref .bareType]))]
  any [.grow (.ref .bareType) more,
    .grow (.seq (any [lifetimePart, useBounds]) (.ahead (punct "+"))) more]

def bound : Part :=
  any [lifetimePart, higherRanked, useBounds, .ref .bareType]

def traitBounds : Part :=
  .node "trait_bounds" (all [colon, .ref .bound,
    .many (.seq (operator "+" "=") (.ref .bound))])

/-- One argument of a generic type. -/
def typeArgument : Part :=
  let binding : List (String × Option String × Part) := [("type_binding", some "name",
    .seq assign (.role "type" (.ref .type)))]
  any [
    .grow (.seq (.token (name "type_identifier")) (.ahead assign)) binding,
    .seq lifetimePart (.butNot (punct "+")),
    .ref .literal,
    .node "negative_literal" (.seq (punct "-") (.ref .literal)),
    .ref .block,
    .grow (.ref .type) binding]

def typeArguments : Part :=
  .node "type_arguments" (all [punct "<",
    separated (.seq typeArgument (opt (.ref .traitBounds))), opt comma, punct ">"])

def typeParameter : Part :=
  any [
    .node "const_parameter" (all [word "const", .role "name" anyIdentifier, colon,
      .role "type" (.ref .type),
      opt (.seq assign (.role "value" (any [.ref .block, .ref .literal,
        .node "negative_literal" (.seq (punct "-") (.ref .literal)), identifier])))]),
    .node "lifetime_parameter" (.seq (.role "name" lifetimePart)
      (opt (.role "bounds" (.ref .traitBounds)))),
    .node "type_parameter" (all [.role "name" (.token (name "type_identifier")),
      opt (.role "bounds" (.ref .traitBounds)),
      opt (.seq assign (.role "default_type" (.ref .type)))]),
    dollarName]

def typeParameters : Part :=
  .node "type_parameters" (all [punct "<", separated (attributed typeParameter), opt comma,
    punct ">"])

/-- `x: T`, with an optional `mut` in front that belongs to the parameter. -/
def parameter : Part :=
  .node "parameter" (all [opt mutable, .role "pattern" (any [.seq selfWord (.ahead colon),
    .ref .pattern]), colon, .role "type" (.ref .type)])

def selfParameter : Part :=
  .node "self_parameter" (all [opt (punct "&"), opt lifetimePart, opt mutable, selfWord,
    .butNot (punct ":")])

def variadicParameter : Part :=
  .node "variadic_parameter" (all [opt mutable,
    opt (all [.role "pattern" (.ref .pattern), colon]), punct "..."])

def parameters : Part :=
  bracketed (punct "(") (attributed (any [selfParameter, .ref .parameter, variadicParameter,
    .seq (word "_") (.ahead (any [comma, punct ")"])), .ref .type])) (punct ")")

def whereClause : Part :=
  let predicate := Rule.node "where_predicate" (.seq
    (.role "left" (any [lifetimePart, higherRanked, .ref .bareType]))
    (.role "bounds" (.ref .traitBounds)))
  .node "where_clause" (.seq (word "where") (opt (.seq (separated predicate) (opt comma))))

end CrateSurface.Grammar.Part
