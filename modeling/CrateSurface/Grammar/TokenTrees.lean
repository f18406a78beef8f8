import CrateSurface.Grammar.Symbol

namespace CrateSurface.Grammar.Part

/-- Tokens in any of the three sorts of brackets. -/
def delimited (tokens : Part) : Part :=
  any [all [punct "(", .many tokens, punct ")"], all [punct "[", .many tokens, punct "]"],
    all [openBrace, .many tokens, closeBrace]]

/-- A token of a token tree that is no bracket. A lifetime is a quote and a word here. -/
def treeToken : Part :=
  any [.ref .literal, mutable, anyIdentifier, .token treeMark, punct "'"]

/-- The tokens of a macro call. A dollar sign stands by itself. -/
def tokenTree : Part :=
  .node "token_tree" (delimited (any [.ref .tokenTree, treeToken, punct "$"]))

def repetitionMark : Part :=
  any [punct "+", punct "*", punct "?"]

/-- The text between a repetition and its mark, which is no token. -/
def separator (cs : List Char) : Option (List Char) :=
  let isMark (c : Char) : Bool := c == '+' || c == '*' || c == '?'
  match cs with
  | [] => none
  | c :: _ => if isMark c then none else some (cs.dropWhile fun c => !isMark c)

/-- `$( … ) sep *` around the tokens of a rule. -/
def repetition (kind : String) (token : Part) : Part :=
  .node kind (all [punct "$", punct "(", .many token, punct ")", opt (.skip separator),
    repetitionMark])

/-- A token on the right side of a macro rule. -/
def ruleToken : Part :=
  any [.ref .ruleTree, repetition "token_repetition" (.ref .ruleToken), dollarName, treeToken]

/-- The right side of a macro rule. -/
def ruleTree : Part :=
  .node "token_tree" (delimited (.ref .ruleToken))

/-- A token on the left side of a macro rule. -/
def rulePatternToken : Part :=
  any [.ref .rulePattern, repetition "token_repetition_pattern" (.ref .rulePatternToken),
    dollarName, treeToken]

/-- The left side of a macro rule. -/
def rulePattern : Part :=
  .node "token_tree_pattern" (delimited (.ref .rulePatternToken))

/-- A definition of a macro by rules. -/
def macroDefinition : Part :=
  let rule := Rule.node "macro_rule" (all [.role "left" (.ref .rulePattern), punct "=>",
    .role "right" (.ref .ruleTree)])
  let rules := Rule.seq (.many (.seq rule semicolon)) (opt rule)
  .node "macro_definition" (all [punct "macro_rules!", .role "name" anyIdentifier,
    any [all [punct "(", rules, punct ")", semicolon],
      all [punct "[", rules, punct "]", semicolon],
      all [openBrace, rules, closeBrace]]])

end CrateSurface.Grammar.Part
