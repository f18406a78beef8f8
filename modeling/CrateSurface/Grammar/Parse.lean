import CrateSurface.Grammar.Items
import CrateSurface.Grammar.Patterns

namespace CrateSurface.Grammar

/-- The rules of the Rust grammar. -/
def rust : Symbol → Part
  | .type => Part.type
  | .bareType => Part.bareType
  | .traitBounds => Part.traitBounds
  | .bound => Part.bound
  | .typeArguments => Part.typeArguments
  | .typeParameters => Part.typeParameters
  | .parameters => .node "parameters" Part.parameters
  | .parameter => Part.parameter
  | .whereClause => Part.whereClause
  | .path => Part.path
  | .valuePath => Part.valuePath
  | .visibility => Part.visibility
  | .attributeItem => Part.attributeItem
  | .innerAttributeItem => Part.innerAttributeItem
  | .tokenTree => Part.tokenTree
  | .ruleTree => Part.ruleTree
  | .ruleToken => Part.ruleToken
  | .rulePattern => Part.rulePattern
  | .rulePatternToken => Part.rulePatternToken
  | .pattern => Part.pattern
  | .barePattern => Part.barePattern
  | .literal => Part.literal
  | .expression braces => Part.expression braces
  | .range braces => Part.range braces
  | .operation level braces => Part.operation level braces
  | .cast braces => Part.cast braces
  | .operand braces => Part.operand braces
  | .chain braces => Part.chain braces
  | .primary braces => Part.primary braces
  | .block => Part.block
  | .blockLike => Part.blockLike
  | .ifExpression => Part.ifExpression
  | .arguments => Part.arguments
  | .fieldInitializers => Part.fieldInitializers
  | .matchBlock => Part.matchBlock
  | .fieldList => Part.fieldList
  | .tupleFieldList => Part.tupleFieldList
  | .variantList => Part.variantList
  | .useClause => Part.useClause
  | .useList => Part.useList
  | .memberList => Part.memberList
  | .function => Part.function
  | .item => Part.item
  | .statement inBlock => Part.statement inBlock

/-- A line at the start of a file that names its interpreter; `#![` begins an attribute. -/
def shebang : Scanner
  | '#' :: '!' :: rest =>
    let line := rest.takeWhile (· != '\n')
    match line.dropWhile isGapChar with
    | [] => none
    | c :: _ =>
      if c == '[' then none
      else some (Node.leaf "shebang" (String.ofList ('#' :: '!' :: line)), rest.drop line.length)
  | _ => none

def sourceFile : Part :=
  .seq (Part.opt (.token shebang)) (.many (.ref (.statement false)))

/-- The tree of a text that follows the grammar. -/
def wellFormedTree (children : List Node) : Node :=
  ⟨"source_file", none, none, true, false, false, children⟩

/-- The tree of a text that does not: all of it is at fault. -/
def faultyTree (text : List Char) : Node :=
  ⟨"source_file", none, none, true, false, false,
    [⟨"ERROR", some (String.ofList text), none, true, true, false, []⟩]⟩

/-- The depth of a derivation grows with the length of the text, by less than this per character. -/
def depthPerChar : Nat := 400

/-- The syntax tree of a source text. A mark of byte order at its start is skipped. -/
def parse (text : List Char) : Node :=
  let body := match text with
    | '\ufeff' :: rest => rest
    | _ => text
  match run rust (depthPerChar * (body.length + 1)) sourceFile (.after body) with
  | some (forest, ⟨comments, []⟩) => wellFormedTree (forest ++ comments)
  | _ => faultyTree text

end CrateSurface.Grammar
