import CrateSurface.Proofs.ScannedTokens

namespace CrateSurface.Grammar

-- A property of all rules is checked by unfolding the grammar down to its scanners.
attribute [simp] rust Part.all Part.any Part.opt Part.word Part.punct Part.operator Part.comma
  Part.semicolon Part.colon Part.pathSep Part.arrow Part.assign Part.dot Part.bang Part.dots
  Part.openBrace Part.closeBrace Part.mutable Part.selfWord Part.superWord Part.crateWord
  Part.identifier Part.anyIdentifier Part.anyTypeIdentifier Part.anyFieldIdentifier
  Part.lifetimePart Part.dollarName Part.separated Part.bracketed Part.attributes Part.attributed
  Part.pathType Part.functionModifiers Part.forLifetimes Part.functionPointer Part.higherRanked
  Part.useBounds Part.bareType Part.type Part.bound Part.traitBounds Part.typeArgument
  Part.typeArguments Part.typeParameter Part.typeParameters Part.parameter Part.selfParameter
  Part.variadicParameter Part.parameters Part.whereClause Part.delimited Part.treeToken
  Part.tokenTree Part.repetitionMark Part.repetition Part.ruleToken Part.ruleTree
  Part.rulePatternToken Part.rulePattern Part.macroDefinition Part.valuePath Part.operatorLevels
  Part.operation Part.cast Part.rangeEnd Part.range Part.compoundAssignments Part.expression
  Part.closure Part.letCondition Part.operand Part.chain Part.primary Part.arguments
  Part.fieldInitializers Part.block Part.ifExpression Part.blockStart Part.continuation
  Part.standsAlone Part.afterBlock Part.matchArm Part.matchBlock Part.blockLike Part.literal
  Part.negativeLiteral Part.rangeBound Part.rangeTails Part.fieldPattern Part.barePattern
  Part.pattern Part.path Part.visibility Part.attributeBody Part.attributeItem
  Part.innerAttributeItem Part.generics Part.conditions Part.itemName Part.fieldList
  Part.tupleFieldList Part.structItem Part.unionItem Part.variantList Part.enumItem Part.typeItem
  Part.function Part.implItem Part.traitItem Part.constItem Part.staticItem Part.modItem
  Part.foreignModItem Part.externCrate Part.useList Part.useClause Part.useItem Part.letItem
  Part.item Part.macroCall Part.notDefinition Part.memberList Part.statement

-- A run is followed through one rule, or one tail, at a time.
attribute [simp] run extend firstTail

/-- What rules may be built of: scanners, symbols, and sequences that are admitted as they stand. -/
structure Permit (σ : Type) where
  token : Scanner → Prop
  skip : (List Char → Option (List Char)) → Prop
  ref : σ → Prop
  whole : Rule σ → Rule σ → Prop

section Within

variable {σ : Type} (permit : Permit σ)

mutual

/-- Whether a rule is built of what is permitted. -/
@[simp]
def Rule.Within : Rule σ → Prop
  | .token scan => permit.token scan
  | .skip scan => permit.skip scan
  | .ref symbol => permit.ref symbol
  | .empty => True
  | .seq first second => permit.whole first second ∨ first.Within ∧ second.Within
  | .alt first second => first.Within ∧ second.Within
  | .many body | .node _ body | .role _ body | .ahead body | .butNot body => body.Within
  | .grow head tails | .fork head tails => head.Within ∧ TailsWithin tails

/-- A rule within its permissions in every tail. -/
@[simp]
def TailsWithin : List (String × Option String × Rule σ) → Prop
  | [] => True
  | (_, _, rule) :: tails => rule.Within ∧ TailsWithin tails

end

end Within

/-- Scanners that return what they take, and skipped text that is not empty. -/
def faithful {σ : Type} : Permit σ where
  token scan := Faithful scan
  skip scan := ∀ {cs rest}, scan cs = some rest → rest.length < cs.length
  ref _ := True
  whole _ _ := False

theorem separator_length_lt {cs rest : List Char} (found : Part.separator cs = some rest) :
    rest.length < cs.length := by
  unfold Part.separator at found
  split at found
  · cases found
  · next c body =>
    dsimp only at found
    split at found
    · cases found
    · next noMark =>
      have shorter := (List.dropWhile_suffix
        (fun c => !(c == '+' || c == '*' || c == '?')) (l := body)).length_le
      rw [← Option.some.inj found, List.dropWhile_cons_of_pos (by simpa using noMark)]
      simp only [List.length_cons]
      omega

/-- Every symbol of the grammar reads only scanners that take what they give. -/
theorem rust_faithful (s : Symbol) : (rust s).Within faithful := by
  cases s with
  | operation level braces =>
    match level with
    | 0 | 1 | 2 | 3 | 4 | 5 | 6 | 7 | 8 => simp [faithful]
    | n + 9 => simp [faithful]
  | range braces | operand braces | primary braces | statement braces =>
    cases braces <;> simp [faithful]
  | ruleToken | rulePatternToken =>
    simp [faithful]
    exact separator_length_lt
  | _ => simp [faithful]

end CrateSurface.Grammar
