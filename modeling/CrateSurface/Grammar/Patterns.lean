import CrateSurface.Grammar.Symbol

namespace CrateSurface.Grammar.Part

def literal : Part :=
  any [.token floatLiteral, .token integerLiteral, .token stringLiteral,
    .token rawStringLiteral, .token charLiteral,
    .token (keywordNode "boolean_literal" "true"), .token (keywordNode "boolean_literal" "false")]

def negativeLiteral : Part :=
  .node "negative_literal" (.seq (punct "-") (any [.token floatLiteral, .token integerLiteral]))

/-- A bound of a range of patterns. -/
def rangeBound : Part :=
  any [negativeLiteral, .ref .literal, .ref .valuePath]

def rangeTails : List (String × Option String × Part) :=
  [("range_pattern", some "left", .seq (any [punct "...", punct "..="]) (.role "right" rangeBound)),
    ("range_pattern", some "left", .seq dots (opt (.role "right" rangeBound)))]

def fieldPattern : Part :=
  any [.node "remaining_field_pattern" dots,
    .node "field_pattern" (all [opt (word "ref"), opt mutable,
      any [all [.role "name" (any [anyFieldIdentifier, .token integerLiteral]), colon,
          .role "pattern" (.ref .pattern)],
        .role "name" (.token (name "shorthand_field_identifier"))]])]

/-- A pattern without `|` at its top. -/
def barePattern : Part :=
  any [
    .seq (word "_") (.butNot pathSep),
    .node "ref_pattern" (.seq (word "ref") (.ref .barePattern)),
    .node "mut_pattern" (.seq mutable (.ref .barePattern)),
    .node "reference_pattern" (all [punct "&", opt mutable, .ref .barePattern]),
    .node "tuple_pattern" (bracketed (punct "(") (.ref .pattern) (punct ")")),
    .node "slice_pattern" (bracketed (punct "[") (.ref .pattern) (punct "]")),
    .grow (any [negativeLiteral, .ref .literal]) rangeTails,
    .node "range_pattern" (.seq (any [punct "..=", dots]) (.role "right" rangeBound)),
    .node "remaining_field_pattern" dots,
    .node "const_block" (.seq (word "const") (.role "body" (.ref .block))),
    .node "captured_pattern" (all [identifier, punct "@", .ref .barePattern]),
    .grow (.ref .valuePath) ([
      ("tuple_struct_pattern", some "type",
        bracketed (punct "(") (.ref .pattern) (punct ")")),
      ("struct_pattern", some "type",
        bracketed openBrace (attributed fieldPattern) closeBrace),
      ("macro_invocation", some "macro", .seq bang (.ref .tokenTree))] ++ rangeTails)]

def pattern : Part :=
  let more : List (String × Option String × Part) :=
    [("or_pattern", none, .seq (operator "|" "|=") (.ref .barePattern))]
  any [
    .grow (.node "or_pattern" (.seq (operator "|" "|=") (.ref .barePattern))) more,
    .grow (.ref .barePattern) more]

end CrateSurface.Grammar.Part
