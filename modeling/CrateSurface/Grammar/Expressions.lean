import CrateSurface.Grammar.Symbol

namespace CrateSurface.Grammar.Part

/-- `a::b::c`, as the name of a value, a function or a macro, with type arguments after `::`. -/
def valuePath : Part :=
  let head := any [
    .seq (.node "bracketed_type" (all [punct "<",
      .grow (.ref .type) [("qualified_type", some "type",
        all [word "as", .role "alias" (.ref .type)])],
      punct ">"])) (.ahead pathSep),
    selfWord, superWord, crateWord, identifier, dollarName,
    .node "scoped_identifier" (.seq pathSep (.role "name" anyIdentifier))]
  .grow head [
    ("generic_function", some "function", .seq pathSep (.role "type_arguments" (.ref .typeArguments))),
    ("scoped_identifier", some "path", .seq pathSep (.role "name" anyIdentifier))]

/-- The binary operators from the loosest level to the tightest, each with the characters that
would make it a longer one. -/
def operatorLevels : List (List (String × String)) :=
  [[("||", "")],
    [("&&", "")],
    [("==", ""), ("!=", ""), ("<=", ""), (">=", ""), ("<", "<="), (">", ">=")],
    [("|", "|=")],
    [("^", "=")],
    [("&", "&=")],
    [("<<", "="), (">>", "=")],
    [("+", "="), ("-", "=>")],
    [("*", "="), ("/", "=/*"), ("%", "=")]]

def operation (level : Nat) (braces : Bool) : Part :=
  match operatorLevels[level]? with
  | none => .ref (.cast braces)
  | some operators =>
    .grow (.ref (.operation (level + 1) braces)) [("binary_expression", some "left",
      .seq (.role "operator" (any (operators.map fun (text, longer) => operator text longer)))
        (.role "right" (.ref (.operation (level + 1) braces))))]

def cast (braces : Bool) : Part :=
  .grow (.ref (.operand braces)) [("type_cast_expression", some "value",
    .seq (word "as") (.role "type" (.ref .bareType)))]

/-- The end of a range; where braces begin a body, the end of a range does not. -/
def rangeEnd (braces : Bool) : Part :=
  if braces then .ref (.operation 0 braces)
  else .seq (.butNot openBrace) (.ref (.operation 0 braces))

def range (braces : Bool) : Part :=
  let closed := any [punct "...", punct "..="]
  any [
    .node "range_expression" (any [.seq closed (rangeEnd braces), .seq dots (opt (rangeEnd braces))]),
    .grow (.ref (.operation 0 braces)) [
      ("range_expression", none, .seq closed (rangeEnd braces)),
      ("range_expression", none, .seq dots (opt (rangeEnd braces)))]]

def compoundAssignments : List String :=
  ["+=", "-=", "*=", "/=", "%=", "&=", "|=", "^=", "<<=", ">>="]

def expression (braces : Bool) : Part :=
  .grow (.ref (.range braces)) [
    ("assignment_expression", some "left",
      .seq assign (.role "right" (.ref (.expression braces)))),
    ("compound_assignment_expr", some "left",
      .seq (.role "operator" (any (compoundAssignments.map punct)))
        (.role "right" (.ref (.expression braces))))]

def closure (braces : Bool) : Part :=
  let parameter := Rule.node "parameter" (all [opt mutable, .role "pattern" (.ref .barePattern),
    colon, .role "type" (.ref .type)])
  .node "closure_expression" (all [opt (word "static"), opt (word "async"), opt (word "move"),
    .role "parameters" (.node "closure_parameters" (bracketed (punct "|")
      (attributed (any [parameter, .ref .barePattern])) (punct "|"))),
    any [all [arrow, .role "return_type" (.ref .type), .role "body" (.ref .block)],
      .role "body" (.ref (.expression braces))]])

/-- `let pattern = value` in the head of an `if` or a `while`. -/
def letCondition : Part :=
  .node "let_condition" (all [word "let", .role "pattern" (.ref .pattern), assign,
    .role "value" (.ref (.operation 2 false))])

/-- An expression with operators in front of it, or one that reaches as far as it can. -/
def operand (braces : Bool) : Part :=
  any ([
    .node "unary_expression" (.seq (any [punct "-", punct "*", bang]) (.ref (.operand braces))),
    .node "reference_expression" (all [punct "&",
      opt (any [all [word "raw", any [word "const", mutable]], mutable]),
      .role "value" (.ref (.operand braces))]),
    closure braces,
    .node "return_expression" (.seq (word "return") (opt (.ref (.expression braces)))),
    .node "yield_expression" (.seq (word "yield") (opt (.ref (.expression braces)))),
    .node "break_expression" (all [word "break", opt (.token (lifetime "label")),
      opt (.ref (.expression braces))]),
    .node "continue_expression" (.seq (word "continue") (opt (.token (lifetime "label"))))] ++
    (if braces then [] else [letCondition]) ++ [.ref (.chain braces)])

/-- Calls, indices, fields and question marks behind an expression. -/
def chain (braces : Bool) : Part :=
  .grow (.ref (.primary braces)) [
    ("call_expression", some "function", .role "arguments" (.ref .arguments)),
    ("index_expression", none, all [punct "[", .ref (.expression true), punct "]"]),
    ("try_expression", none, punct "?"),
    ("await_expression", none, .seq dot (word "await")),
    ("generic_function", none, all [dot, .role "field" anyFieldIdentifier, pathSep,
      .role "type_arguments" (.ref .typeArguments)]),
    ("field_expression", some "value",
      .seq dot (.role "field" (any [anyFieldIdentifier, .token integerLiteral])))]

def primary (braces : Bool) : Part :=
  let fields : List (String × Option String × Part) :=
    if braces then [("struct_expression", some "name", .role "body" (.ref .fieldInitializers))]
    else []
  any [
    .ref .literal,
    .node "unit_expression" (.seq (punct "(") (punct ")")),
    .fork (all [punct "(", attributes, .ref (.expression true)]) [
      ("parenthesized_expression", none, punct ")"),
      ("tuple_expression", none, all [comma, opt (separated (.ref (.expression true))), opt comma,
        punct ")"])],
    .node "array_expression" (all [punct "[", opt (all [attributes, .ref (.expression true),
      any [.seq semicolon (.role "length" (.ref (.expression true))),
        .many (.seq comma (attributed (.ref (.expression true))))]]), opt comma, punct "]"]),
    .ref .blockLike,
    .grow (.ref .valuePath)
      (("macro_invocation", some "macro", .seq bang (.ref .tokenTree)) :: fields)]

def arguments : Part :=
  .node "arguments" (bracketed (punct "(") (attributed (.ref (.expression true))) (punct ")"))

def fieldInitializers : Part :=
  .node "field_initializer_list" (bracketed openBrace (any [
    .node "base_field_initializer" (.seq dots (opt (.ref (.expression true)))),
    .node "field_initializer" (all [attributes,
      .role "field" (any [anyFieldIdentifier, .token integerLiteral]), colon,
      .role "value" (.ref (.expression true))]),
    .node "shorthand_field_initializer" (attributed identifier)]) closeBrace)

def block : Part :=
  .node "block" (all [opt (.seq (.token (lifetime "label")) colon), openBrace,
    .many (.ref (.statement true)), closeBrace])

def ifExpression : Part :=
  .node "if_expression" (all [word "if", .role "condition" (.ref (.expression false)),
    .role "consequence" (.ref .block),
    opt (.role "alternative" (.node "else_clause" (.seq (word "else")
      (any [.ref .block, .ref .ifExpression]))))])

/-- What an expression that ends with a block begins with. -/
def blockStart : Part :=
  any ([openBrace, .seq (.token (lifetime "label")) colon] ++
    ["if", "match", "while", "loop", "for", "unsafe"].map word ++
    [all [any (["async", "gen", "try", "const"].map word), opt (word "move"), openBrace]])

/-- What goes on with an expression and cannot begin another one. -/
def continuation : Part :=
  any ([dot, punct "?", word "as", assign] ++ ["+", "/", "%", "^", "==", "!=", "<=", "<<", ">",
    "&&", "||", "-=", "*=", "&=", "|="].map punct)

/-- An expression with a block at its end stands by itself unless something goes on with it. -/
def standsAlone : Part :=
  .butNot continuation

/-- The rest of an expression that begins with a block, as a row of parts. -/
def afterBlock : Part :=
  let operators := operatorLevels.flatten.map fun (text, longer) => operator text longer
  let part := any [
    .seq dot (any [word "await", anyFieldIdentifier, .token integerLiteral]),
    .seq pathSep (.ref .typeArguments),
    .ref .arguments,
    all [punct "[", .ref (.expression true), punct "]"],
    punct "?",
    .seq (word "as") (.ref .bareType),
    .seq (any (assign :: compoundAssignments.map punct)) (.ref (.expression true)),
    .seq (any operators) (.ref (.operand true)),
    .seq (any [punct "...", punct "..="]) (rangeEnd true),
    .seq dots (opt (rangeEnd true))]
  .seq part (.many part)

def matchArm : Part :=
  let ending := any [comma, .ahead closeBrace]
  .node "match_arm" (all [.many (any [.ref .attributeItem, .ref .innerAttributeItem]),
    .role "pattern" (.node "match_pattern" (.seq (.ref .pattern)
      (opt (.seq (word "if") (.role "condition" (.ref (.expression false))))))),
    punct "=>",
    any [all [.butNot blockStart, .role "value" (.ref (.expression true)), ending],
      .fork (.role "value" (.ref .blockLike)) [
        ("", none, comma),
        ("", none, .seq standsAlone (.butNot (punct "*"))),
        ("", none, .seq afterBlock ending)]]])

def matchBlock : Part :=
  .node "match_block" (all [openBrace, .many (.ref .innerAttributeItem), .many matchArm, closeBrace])

/-- Expressions with a block at their end. -/
def blockLike : Part :=
  let body := Rule.role "body" (.ref .block)
  let label := opt (.seq (.token (lifetime "label")) colon)
  any [
    .node "loop_expression" (all [label, word "loop", body]),
    .node "while_expression" (all [label, word "while",
      .role "condition" (.ref (.expression false)), body]),
    .node "for_expression" (all [label, word "for", .role "pattern" (.ref .pattern), word "in",
      .role "value" (.ref (.expression false)), body]),
    .ref .ifExpression,
    .node "match_expression" (all [word "match", .role "value" (.ref (.expression false)),
      .role "body" (.ref .matchBlock)]),
    .node "unsafe_block" (.seq (word "unsafe") (.ref .block)),
    .node "async_block" (all [word "async", opt (word "move"), .ref .block]),
    .node "gen_block" (all [word "gen", opt (word "move"), .ref .block]),
    .node "try_block" (.seq (word "try") (.ref .block)),
    .node "const_block" (.seq (word "const") body),
    .ref .block]

end CrateSurface.Grammar.Part
