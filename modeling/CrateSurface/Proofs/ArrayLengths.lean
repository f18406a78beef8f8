import CrateSurface.Proofs.SpeltTokens

namespace CrateSurface.Grammar

/-- The words that rules look for. -/
def keywords : List String :=
  ["_", "as", "async", "await", "break", "const", "continue", "crate", "default", "dyn", "else",
    "enum", "extern", "false", "fn", "for", "gen", "if", "impl", "in", "let", "loop", "match",
    "mod", "move", "mut", "pub", "raw", "ref", "return", "self", "static", "struct", "super",
    "trait", "true", "try", "type", "union", "unsafe", "use", "where", "while", "yield"]

theorem isName_keyword : ∀ word ∈ keywords, isName word.toList = true := by
  decide

/-- The punctuation that rules look for, apart from the bracket that ends an array. -/
def signs : List String :=
  ["!", "!=", "#", "$", "%", "%=", "&", "&&", "&=", "'", "(", ")", "*", "*=", "+", "+=", ",", "-",
    "-=", "->", ".", "..", "...", "..=", "/", "/=", ":", "::", ";", "<", "<<", "<<=", "<=", "=",
    "==", "=>", ">", ">=", ">>", ">>=", "?", "@", "[", "^", "^=", "|", "|=", "||", "\x7b", "\x7d"]

/-- The length of an array and the bracket behind it, in two texts. -/
inductive AtLength (length x x' y y' : List Char) : List Char → List Char → Prop
  | length : AtLength length x x' y y' (length ++ x) (length ++ x')
  | closing : AtLength length x x' y y' (']' :: y) (']' :: y')

section AtLength

variable {length x x' y y' : List Char}

/-- A name or a number in front of a closing bracket. -/
structure IsLength (length x y : List Char) : Prop where
  word : isName length = true ∨ isNumeral length = true
  stops : Stops (runsOn length) x
  closed : (Cursor.after x).rest = ']' :: y

theorem IsLength.shape (isLength : IsLength length x y) : TokenShape length :=
  isLength.word.elim .name .numeral

theorem IsLength.head (isLength : IsLength length x y) : ∃ c rest, length = c :: rest ∧
    (Text.isIdentStart c = true ∨ c.isDigit = true) := by
  rcases isLength.word with named | numeral
  · obtain ⟨c, rest, same, start⟩ := isName_head named
    exact ⟨c, rest, same, .inl start⟩
  · obtain ⟨c, rest, same, digit, -⟩ := isNumeral_cons numeral
    exact ⟨c, rest, same, .inr digit⟩

/-- A scanner that settles on the length, and that does not look for the bracket, finds the same in
both texts and goes no further than the bracket. -/
theorem agrees_atLength {scan : Scanner} (left : IsLength length x y) (right : IsLength length x' y')
    (settles : Settles scan length) (closing : ∀ text, scan (']' :: text) = none) :
    Agrees (AtLength length x x' y y') scan := by
  intro u v place
  cases place with
  | length =>
    rcases settles with none | ⟨n, rest, ending, found⟩
    · exact .inl ⟨none x left.stops, none x' right.stops⟩
    · rcases ending with rfl | ⟨rfl, -⟩ | ⟨rfl, -⟩
      · refine .inr ⟨n, x, x', found x left.stops, found x' right.stops, ?_⟩
        rw [left.closed, right.closed]
        exact .closing
      · exact absurd left.word (by decide)
      · exact absurd left.word (by decide)
  | closing => exact .inl ⟨closing y, closing y'⟩

theorem sign_head {sign : String} (member : sign ∈ signs) : ∃ a more, sign.toList = a :: more ∧
    a ≠ ']' ∧ Text.isIdentStart a = false ∧ a.isDigit = false := by
  have heads : ∀ sign ∈ signs, (sign.toList.head?.any fun a =>
      a != ']' && !Text.isIdentStart a && !a.isDigit) = true := by decide
  have head := heads sign member
  cases front : sign.toList with
  | nil => rw [front] at head; cases head
  | cons a more =>
    refine ⟨a, more, rfl, ?_⟩
    simpa [front, and_assoc] using head

/-- No sign begins as a length does, nor with a closing bracket. -/
theorem sign_other {sign : String} {length x y : List Char} (isLength : IsLength length x y)
    (member : sign ∈ signs) : ∃ a more, sign.toList = a :: more ∧ a ≠ ']' ∧
      ∃ c rest, length = c :: rest ∧ a ≠ c := by
  obtain ⟨a, more, front, bracket, notStart, notDigit⟩ := sign_head member
  obtain ⟨c, rest, same, kind⟩ := isLength.head
  refine ⟨a, more, front, bracket, c, rest, same, ?_⟩
  rintro rfl
  rcases kind with start | digit
  · rw [notStart] at start
    cases start
  · rw [notDigit] at digit
    cases digit

theorem sign_atLength {sign : String} (longer : String) (left : IsLength length x y)
    (right : IsLength length x' y') (member : sign ∈ signs) :
    Agrees (AtLength length x x' y y') (mark sign longer) := by
  obtain ⟨a, more, front, bracket, c, rest, rfl, other⟩ := sign_other left member
  exact agrees_atLength left right (.inl fun text _ => mark_other front other _)
    (mark_other front bracket)

/-- The definition of a macro does not begin at a length: no exclamation mark follows it. -/
theorem macroRules_atLength (left : IsLength length x y) (right : IsLength length x' y') :
    Agrees (AtLength length x x' y y') (mark "macro_rules!" "") := by
  have none : ∀ {x y : List Char}, IsLength length x y →
      mark "macro_rules!" "" (length ++ x) = none := by
    intro x y isLength
    cases dropped : dropFront? "macro_rules!".toList (length ++ x) with
    | none => simp only [mark, dropped]
    | some rest =>
      have split := dropFront?_eq_some.mp dropped
      rcases isLength.word with named | numeral
      · have inside : "macro_rules".toList.all Text.isIdentContinue = true := by decide
        have ends : Stops Text.isIdentContinue ('!' :: rest) := by
          intro c head
          rw [← Option.some.inj head]
          decide
        have stops := (stops_name named isLength.stops).ident
        have behind : x = '!' :: rest := by
          rw [← stops.dropWhile (isName_all named), split]
          exact ends.dropWhile inside
        have closed := isLength.closed
        rw [behind, after_cons (by decide) (by decide)] at closed
        cases closed
      · obtain ⟨c, digits, rfl, digit, -⟩ := isNumeral_cons numeral
        rw [(List.cons.inj split).1] at digit
        cases digit
  intro u v place
  cases place with
  | length => exact .inl ⟨none left, none right⟩
  | closing => exact .inl ⟨rfl, rfl⟩

theorem treeMark_atLength (left : IsLength length x y) (right : IsLength length x' y') :
    Agrees (AtLength length x x' y y') treeMark := by
  have isSign : ∀ mark ∈ treeMarks, mark ∈ signs := by decide
  have none : ∀ {c : Char}, c ≠ '/' →
      (∀ mark ∈ treeMarks, ∃ a more, mark.toList = a :: more ∧ a ≠ c) → ∀ rest,
      treeMark (c :: rest) = none := by
    intro c slash heads rest
    simp only [treeMark]
    split
    · next same => exact absurd (List.cons.inj same).1 slash
    · rw [List.findSome?_eq_none_iff]
      intro mark member
      obtain ⟨a, more, front, other⟩ := heads mark member
      simp [dropFront?, front, other]
  obtain ⟨a, more, front, -, c, rest, rfl, slash⟩ := sign_other left (by decide : "/" ∈ signs)
  refine agrees_atLength left right (.inl fun text _ => none ?_ (fun mark member => ?_) _)
    (none (by decide) fun mark member => ?_)
  · have same : ['/'] = a :: more := front
    rw [(List.cons.inj same).1]
    exact slash.symm
  · obtain ⟨b, more, front, -, d, rest, same, other⟩ := sign_other left (isSign mark member)
    obtain ⟨rfl, -⟩ := List.cons.inj same
    exact ⟨b, more, front, other⟩
  · obtain ⟨b, more, front, bracket, -⟩ := sign_other left (isSign mark member)
    exact ⟨b, more, front, bracket⟩

/-- A part in brackets does not begin at a length, nor at the bracket behind it. -/
theorem bracket_atLength (left : IsLength length x y) (right : IsLength length x' y') {sign : String}
    (member : sign ∈ signs) (second : Part) :
    Leads rust (AtLength length x x' y y') (AtLength length x x' y y')
      (.seq (Part.punct sign) second) := by
  have fails : ∀ {u v : List Char}, AtLength length x x' y y' u v →
      mark sign "" u = none ∧ mark sign "" v = none := by
    obtain ⟨a, more, front, bracket, c, rest, rfl, other⟩ := sign_other left member
    intro u v place
    cases place with
    | length => exact ⟨mark_other front other _, mark_other front other _⟩
    | closing => exact ⟨mark_other front bracket _, mark_other front bracket _⟩
  exact Leads.of_fails fun place =>
    ⟨(Fails.token (fails place).1).seq second, (Fails.token (fails place).2).seq second⟩

/-- Every rule of the grammar matches alike at the same length of an array, and goes no further. -/
theorem rust_atLength (left : IsLength length x y) (right : IsLength length x' y') (s : Symbol) :
    (rust s).Within (inStep rust (AtLength length x x' y y') fun _ => True) := by
  have shape := left.shape
  have ident : Text.isIdentStart ']' = false := by decide
  -- Every scanner of the grammar agrees here: on the token of the length, or on the bracket behind it.
  have found : ∀ word ∈ keywords, Agrees (AtLength length x x' y y') (keyword word) :=
    fun word member => agrees_atLength left right (keyword_settles (isName_keyword word member) shape)
      (keyword_other (isName_keyword word member) ident)
  have nodes : ∀ word ∈ keywords, ∀ kind, Agrees (AtLength length x x' y y') (keywordNode kind word) :=
    fun word member kind => agrees_atLength left right
      (keywordNode_settles (isName_keyword word member) shape) fun text => by
        rw [keywordNode, keyword_other (isName_keyword word member) ident, Option.map_none]
  have marks : ∀ sign ∈ signs, ∀ longer, Agrees (AtLength length x x' y y') (mark sign longer) :=
    fun sign member longer => sign_atLength longer left right member
  have words : ∀ kind, Agrees (AtLength length x x' y y') (anyWord kind) := fun kind =>
    agrees_atLength left right (anyWord_settles kind shape) fun text => by
      rw [anyWord, word?_other ident, Option.map_none]
  have names : ∀ kind, Agrees (AtLength length x x' y y') (name kind) := fun kind =>
    agrees_atLength left right (name_settles kind shape) fun text => by rw [name, word?_other ident]
  have primitives : ∀ kind, Agrees (AtLength length x x' y y') (primitiveType kind) := fun kind =>
    agrees_atLength left right (primitiveType_settles kind shape) fun text => by
      rw [primitiveType, plainWord?_other ident]
  have lifetimes : ∀ kind, Agrees (AtLength length x x' y y') (lifetime kind) := fun kind =>
    agrees_atLength left right (lifetime_settles kind shape) (lifetime_other kind (by decide))
  have metavariables : Agrees (AtLength length x x' y y') metavariable :=
    agrees_atLength left right (metavariable_settles shape) (metavariable_other (by decide))
  have integers : Agrees (AtLength length x x' y y') integerLiteral :=
    agrees_atLength left right (integerLiteral_settles shape) (integerLiteral_other (by decide))
  have floats : Agrees (AtLength length x x' y y') floatLiteral :=
    agrees_atLength left right (floatLiteral_settles shape) (floatLiteral_other (by decide))
  have strings : Agrees (AtLength length x x' y y') stringLiteral :=
    agrees_atLength left right (stringLiteral_settles shape) (stringLiteral_other (by decide))
  have raws : Agrees (AtLength length x x' y y') rawStringLiteral :=
    agrees_atLength left right (rawStringLiteral_settles shape) (rawStringLiteral_other (by decide))
  have chars : Agrees (AtLength length x x' y y') charLiteral :=
    agrees_atLength left right (charLiteral_settles shape) fun text =>
      charLiteral_eq_none (by simp) (by simp)
  have trees := treeMark_atLength left right
  have macros := macroRules_atLength left right
  have barred : ∀ sign ∈ signs, ∀ second,
      Leads rust (AtLength length x x' y y') (AtLength length x x' y y')
        (.seq (.token (mark sign "")) second) :=
    fun sign member second => bracket_atLength left right member second
  simp only [keywords, signs, List.forall_mem_cons] at found nodes marks barred
  -- The rule of a symbol is made of those scanners, and of sequences that stop at the bracket.
  cases s with
  | operation level braces =>
    rcases level with _ | _ | _ | _ | _ | _ | _ | _ | _ | level <;> simp [inStep, marks]
  | range braces | operand braces | primary braces | statement braces =>
    cases braces <;> simp [inStep, found, nodes, marks, words, names, lifetimes, integers, macros,
      barred, metavariables]
  | _ => simp [inStep, found, nodes, marks, words, names, primitives, lifetimes, metavariables,
      integers, floats, strings, raws, chars, trees, macros, barred]

end AtLength

end CrateSurface.Grammar
