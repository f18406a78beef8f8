import CrateSurface.Proofs.PlainTypes

namespace CrateSurface.Grammar

section Opening

variable {left right : List Char}

/-- Two texts, at the beginning of a function. -/
def AtFunction (left right u v : List Char) : Prop :=
  u = "fn ".toList ++ left ∧ v = "fn ".toList ++ right

/-- The symbols that are read where a function may begin, apart from those of functions. -/
def opens : Symbol → Bool
  | .visibility | .attributeItem | .innerAttributeItem | .literal | .valuePath | .expression _
  | .range _ | .operation _ _ | .cast _ | .operand _ | .chain _ | .primary _ | .block | .blockLike
  | .ifExpression | .arguments | .fieldInitializers | .matchBlock | .memberList | .tokenTree => true
  | _ => false

/-- A scanner finds nothing where a function begins. -/
def IsIdle (scan : Scanner) : Prop :=
  ∀ rest, scan ("fn ".toList ++ rest) = none

theorem IsIdle.agrees {scan : Scanner} (idle : IsIdle scan) : Agrees (AtFunction left right) scan := by
  rintro u v ⟨rfl, rfl⟩
  exact .inl ⟨idle left, idle right⟩

theorem IsIdle.leads {scan : Scanner} (idle : IsIdle scan) (second : Part) :
    Leads rust (AtFunction left right) (AtFunction left right) (.seq (.token scan) second) := by
  refine Leads.of_fails fun {c d} ⟨first, other⟩ => ⟨?_, ?_⟩
  · exact (Fails.token (first ▸ idle left)).seq second
  · exact (Fails.token (other ▸ idle right)).seq second

/-- Everything that is looked for at the beginning of a statement, apart from a function, leaves the
place as it is. -/
theorem within_opening :
    (∀ s, opens s = true → (rust s).Within (inStep rust (AtFunction left right) (opens · = true))) ∧
    (∃ front back, rust .item = Part.any (front ++ .ref .function :: back) ∧
      ∀ part ∈ front ++ back, part.Within (inStep rust (AtFunction left right) (opens · = true))) ∧
    (∃ parts, rust (.statement false) = Part.any (.ref .item :: parts) ∧
      ∀ part ∈ parts, part.Within (inStep rust (AtFunction left right) (opens · = true))) := by
  have stops : ∀ rest, Stops continuesWord (' ' :: rest) := by
    intro rest c head
    rw [← Option.some.inj head]
    decide +kernel
  have named : isName "fn".toList = true := by decide +kernel
  -- No scanner that is tried here finds anything before the word `fn`.
  have found : ∀ word ∈ keywords, word ≠ "fn" → IsIdle (keyword word) := by
    intro word member other rest
    refine (keyword_name (isName_keyword word member) named (stops rest)).trans (if_neg ?_)
    exact fun same => other (String.toList_inj.mp same.symm)
  have nodes : ∀ word ∈ keywords, word ≠ "fn" → ∀ kind, IsIdle (keywordNode kind word) := by
    intro word member other kind rest
    rw [keywordNode, found word member other, Option.map_none]
  have marks : ∀ sign ∈ "macro_rules!" :: signs, ∀ longer, IsIdle (mark sign longer) := by
    intro sign member longer rest
    have heads : ∀ sign ∈ "macro_rules!" :: signs, (sign.toList.head?.any (· != 'f')) = true := by decide
    have head := heads sign member
    cases front : sign.toList with
    | nil => rw [front] at head; cases head
    | cons a more => exact mark_other (c := 'f') front (by simpa [front] using head) _
  have names : ∀ kind, IsIdle (name kind) := by
    intro kind rest
    have read : word? ("fn ".toList ++ rest) = some ("fn".toList, ' ' :: rest) :=
      word?_name named (stops rest)
    simp only [name, read]
    rfl
  have lifetimes : ∀ kind, IsIdle (lifetime kind) := fun kind rest => rfl
  have metavariables : IsIdle metavariable := fun rest => rfl
  have integers : IsIdle integerLiteral := fun rest => integerLiteral_other rfl _
  have floats : IsIdle floatLiteral := fun rest => floatLiteral_other rfl _
  have strings : IsIdle stringLiteral := fun rest => stringLiteral_other (c := 'f') (by decide) _
  have raws : IsIdle rawStringLiteral := fun rest => rawStringLiteral_other (c := 'f') (by decide) _
  have chars : IsIdle charLiteral := fun rest => charLiteral_eq_none (by simp) (by simp)
  simp only [keywords, signs, List.forall_mem_cons] at found nodes marks
  refine ⟨fun s open? => ?_, ⟨[_, _, _, _], [_, _, _, _, _, _, _, _, _, _, _, _, _], rfl, ?_⟩,
    ⟨[_, _], rfl, ?_⟩⟩
  · cases s with
    | operation level braces =>
      rcases level with _ | _ | _ | _ | _ | _ | _ | _ | _ | level <;>
        simp [inStep, opens, marks, IsIdle.agrees]
    | range braces | operand braces | primary braces =>
      cases braces <;> simp [inStep, opens, IsIdle.agrees, IsIdle.leads, found, marks]
    | _ => cases open? <;> simp [inStep, opens, IsIdle.agrees, IsIdle.leads, found, nodes, marks,
        names, lifetimes, metavariables, integers, floats, strings, raws, chars]
  · simp [inStep, opens, IsIdle.agrees, IsIdle.leads, found, marks, strings, raws]
  · simp [inStep, opens, IsIdle.agrees, IsIdle.leads, found, nodes, marks, names, lifetimes,
      metavariables, integers]

/-- A part that may begin a function leaves both texts at the function, or fails in both. -/
theorem leads_opening {part : Part}
    (within : part.Within (inStep rust (AtFunction left right) (opens · = true))) :
    Leads rust (AtFunction left right) (AtFunction left right) part :=
  fun fuel _ _ => (run_inStep within_opening.1 fuel).1 within

theorem leads_any {R S : List Char → List Char → Prop} {parts : List Part} (some : parts ≠ [])
    (all : ∀ each ∈ parts, Leads rust R S each) : Leads rust R S (Part.any parts) := by
  induction parts with
  | nil => exact absurd rfl some
  | cons part parts ih =>
    have first := all part (List.mem_cons_self ..)
    cases parts with
    | nil => exact first
    | cons next parts =>
      exact first.alt (ih (List.cons_ne_nil _ _) fun each member => all each (List.mem_cons_of_mem _ member))

/-- A body of a function stands where the texts are the same again. -/
theorem leads_block : Leads rust (SameTokens ending) Eq (.ref .block) := by
  have label : (Part.opt (.seq (.token (lifetime "label")) Part.colon)).Within
      (inStep rust (SameTokens ending) (readsTypes · = true)) :=
    ⟨.inr ⟨agrees_of_settles ending_stops (lifetime_settles _),
      agrees_of_settles ending_stops (typeScans_settle (by decide))⟩, trivial⟩
  refine .ref (.node "block" (Leads.seq (S := SameTokens ending) ?_ (leads_brace _)))
  exact fun fuel _ _ => (run_inStep typeRules fuel).1 label

/-- A function leads to the same rests, up to the length in its last array type. -/
theorem leads_function : Leads rust (SameTokens ending) SameOrLength (.ref .function) := by
  refine .ref (Leads.fork (S := SameTokens ending) ?_ ?_)
  · exact fun fuel _ _ => (run_inStep typeRules fuel).1 (typeRules .function rfl).1
  · simp only [List.forall_mem_cons]
    exact ⟨(leads_block.role "body").mono fun same => same ▸ .same _, leads_semicolon, by simp⟩

/-- Two texts at the beginning of a function, or behind it. -/
def AroundFunction (left right u v : List Char) : Prop :=
  AtFunction left right u v ∨ SameOrLength u v

/-- A statement is the function, or leaves both texts at it. -/
theorem leads_statement (same : SameTokens ending ("fn ".toList ++ left) ("fn ".toList ++ right)) :
    Leads rust (AtFunction left right) (AroundFunction left right) (.ref (.statement false)) := by
  obtain ⟨-, ⟨front, back, items, itemsWithin⟩, parts, statements, statementsWithin⟩ :=
    @within_opening left right
  have function : Leads rust (AtFunction left right) (AroundFunction left right) (.ref .function) := by
    intro fuel c d step
    refine (leads_function ⟨step.left, step.right, ?_⟩).mono .inr
    rw [step.ahead.1, step.ahead.2]
    exact same
  have item : Leads rust (AtFunction left right) (AroundFunction left right) (.ref .item) := by
    refine .ref (items ▸ leads_any ?_ fun part member => ?_)
    · simp
    · rcases List.mem_append.mp member with early | late
      · exact (leads_opening (itemsWithin part (List.mem_append_left _ early))).mono .inl
      · rcases List.mem_cons.mp late with rfl | late
        · exact function
        · exact (leads_opening (itemsWithin part (List.mem_append_right _ late))).mono .inl
  refine .ref (statements ▸ leads_any (by simp) fun part member => ?_)
  rcases List.mem_cons.mp member with rfl | late
  · exact item
  · exact (leads_opening (statementsWithin part late)).mono .inl

theorem leads_sourceFile (same : SameTokens ending ("fn ".toList ++ left) ("fn ".toList ++ right)) :
    Leads rust (AtFunction left right) (AroundFunction left right) sourceFile := by
  have start : Leads rust (AtFunction left right) (AtFunction left right)
      (Part.opt (.token shebang)) := by
    have idle : IsIdle shebang := fun _ => rfl
    exact leads_opening ⟨idle.agrees, trivial⟩
  exact start.seq (.many (leads_statement same) (leads_sameOrLength _ trivial))

end Opening

end CrateSurface.Grammar
