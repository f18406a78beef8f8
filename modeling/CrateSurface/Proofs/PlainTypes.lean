import CrateSurface.Proofs.ArrayLengths

namespace CrateSurface.Grammar

/-- The symbols that are read before, in and behind the type of a parameter. -/
def readsTypes : Symbol → Bool
  | .type | .bareType | .traitBounds | .bound | .typeArguments | .typeParameters | .parameters
  | .parameter | .whereClause | .path | .valuePath | .visibility | .attributeItem | .pattern
  | .barePattern | .literal | .block | .function => true
  | _ => false

/-- What stands behind the type of the parameter. -/
def ending : List Char :=
  [')', ' ', '\x7b', '\x7d']

theorem ending_stops (token : List Char) : Stops (runsOn token) ending := by
  intro c head
  obtain rfl : ')' = c := Option.some.inj head
  have word : isWordChar ')' = false := by decide
  rw [runsOn]
  split
  · rfl
  · simp [word]

/-- A token that begins with a mark is one. -/
theorem TokenShape.mark_of_head {c : Char} {rest : List Char} (shape : TokenShape (c :: rest))
    (head : isMarkHead c = true) : ∃ mark ∈ typeMarks, mark.toList = c :: rest := by
  generalize whole : c :: rest = token at shape
  cases shape with
  | name named =>
    subst whole
    obtain ⟨d, letters, same, start⟩ := isName_head named
    rw [← (List.cons.inj same).1, isMarkHead_ident head] at start
    cases start
  | lifetime =>
    rw [(List.cons.inj whole).1] at head
    exact absurd head (by decide)
  | numeral numeral =>
    subst whole
    obtain ⟨d, digits, same, digit, -⟩ := isNumeral_cons numeral
    rw [← (List.cons.inj same).1] at digit
    simp [isMarkHead, digit] at head
  | quoted quoted =>
    subst whole
    obtain ⟨body, same, -⟩ := isQuoted_split quoted
    rw [(List.cons.inj same).1] at head
    exact absurd head (by decide)
  | mark member => exact ⟨_, member, rfl⟩

theorem run_token_eq_some {scan : Scanner} {fuel : Nat} {c d : Cursor} {xs : List Node}
    (found : run rust fuel (.token scan) c = some (xs, d)) :
    ∃ n rest, scan c.rest = some (n, rest) ∧ xs = c.comments ++ [n] ∧ d = .after rest := by
  cases fuel with
  | zero => cases found
  | succ fuel =>
    rw [run] at found
    split at found
    · next n rest read =>
      obtain ⟨rfl, rfl⟩ := Prod.mk.inj (Option.some.inj found)
      exact ⟨n, rest, read, rfl, rfl⟩
    · cases found

theorem mark_self (mark : String) (rest : List Char) :
    Grammar.mark mark "" (mark.toList ++ rest) = some (Node.token mark, rest) := by
  have front : dropFront? mark.toList (mark.toList ++ rest) = some rest := dropFront?_eq_some.mpr rfl
  simp only [Grammar.mark, front]
  cases rest <;> rfl

theorem isWordChar_bracket : isWordChar ']' = false := by
  decide

section PlainTypes

/-- A rule that fails before every token of a type matches in equal texts only. -/
theorem leads_of_fails {rule : Part} (fails : ∀ {token : String} {tokens : List String}
    {c : Cursor} {text : List Char}, isPlainType (token :: tokens) = true → Spells tokens text →
    c.rest = token.toList ++ (text ++ ending) → Fails rust rule c) :
    Leads rust (SameTokens ending) Eq rule := by
  intro fuel c d step
  obtain ⟨comments, u⟩ := c
  obtain ⟨comments', v⟩ := d
  obtain ⟨left, right, ahead⟩ := step
  cases ahead with
  | same => exact leads_sameText rule ⟨left, right, rfl⟩
  | token plain leftSpelt rightSpelt =>
    rw [fails plain leftSpelt rfl fuel, fails plain rightSpelt rfl fuel]
    exact .none

/-- A sequence whose first mark begins no token of a type. -/
theorem leads_barred {mark : String} {a : Char} {more : List Char} (front : mark.toList = a :: more)
    (head : isMarkHead a = true) (never : ∀ mark ∈ typeMarks, mark.toList.head? ≠ some a)
    (second : Part) : Leads rust (SameTokens ending) Eq (.seq (Part.punct mark) second) := by
  refine leads_of_fails fun plain _ ahead => (Fails.token ?_).seq second
  have shape := tokenShape (isPlainType_cons plain).1
  obtain ⟨b, rest, same, -⟩ := shape.solid
  rw [ahead, same]
  refine mark_other front ?_ _
  rintro rfl
  rw [same] at shape
  obtain ⟨mark, member, letters⟩ := shape.mark_of_head head
  exact never mark member (by rw [letters]; rfl)

theorem leads_brace (second : Part) :
    Leads rust (SameTokens ending) Eq (.seq Part.openBrace second) :=
  leads_barred (a := '\x7b') rfl (by decide) (by decide) second

theorem leads_hash (second : Part) :
    Leads rust (SameTokens ending) Eq (.seq (Part.punct "#") second) :=
  leads_barred (a := '#') rfl (by decide) (by decide) second

/-- Without an opening bracket there is no token tree. -/
theorem tokenTree_fails {c : Cursor} {a : Char} {rest : List Char} (ahead : c.rest = a :: rest)
    (other : a ∉ ['(', '[', '\x7b']) : Fails rust (.ref .tokenTree) c := by
  have mark : ∀ {mark : String} (b : Char), mark.toList = [b] → b ∈ ['(', '[', '\x7b'] →
      ∀ second, Fails rust (.seq (Part.punct mark) second) c := by
    intro mark b front member second
    refine (Fails.token ?_).seq second
    rw [ahead]
    refine mark_other front ?_ _
    rintro rfl
    exact other member
  refine Fails.ref (Fails.node ?_ _)
  exact (mark '(' rfl (by simp) _).alt
    ((mark '[' rfl (by simp) _).alt (mark '\x7b' rfl (by simp) _))

/-- The mark with which a text of type tokens begins is its first token. -/
theorem token_of_mark {mark longer : String} {token : String} {text rest : List Char} {n : Node}
    {a : Char} (typeToken : isTypeToken token = true) (front : mark.toList = [a])
    (head : isMarkHead a = true)
    (single : ∀ other ∈ typeMarks, other.toList.head? = some a → other = mark)
    (read : Grammar.mark mark longer (token.toList ++ text) = some (n, rest)) :
    token = mark ∧ rest = text := by
  obtain ⟨-, split⟩ := mark_eq_some read
  have shape := tokenShape typeToken
  obtain ⟨b, more, same, -⟩ := shape.solid
  rw [same, front] at split
  obtain ⟨rfl, -⟩ := List.cons.inj split
  rw [same] at shape
  obtain ⟨other, member, letters⟩ := shape.mark_of_head head
  obtain rfl := single other member (by rw [letters]; rfl)
  rw [front] at letters
  obtain ⟨-, rfl⟩ := List.cons.inj letters
  refine ⟨String.toList_inj.mp (by rw [same, front]), (List.cons.inj split).2.symm⟩

/-- An exclamation mark in a plain type calls no macro. -/
theorem leads_bang : Leads rust (SameTokens ending) Eq (.seq Part.bang (.ref .tokenTree)) := by
  refine leads_of_fails fun {token tokens c text} plain spelt ahead => ?_
  refine Fails.seq_second fun fuel xs d found => ?_
  obtain ⟨typeToken, fits, plainRest⟩ := isPlainType_cons plain
  obtain ⟨n, rest, read, -, rfl⟩ := run_token_eq_some found
  rw [ahead] at read
  obtain ⟨rfl, rfl⟩ := token_of_mark typeToken rfl (by decide) (by decide) read
  -- The place behind the mark is the end of the type or another token.
  cases spelt with
  | nil gap => exact tokenTree_fails (gap ending) (by decide)
  | @cons gap next tokens text isGap _ spelt =>
    have nextToken := (isPlainType_cons plainRest).1
    have shape := tokenShape nextToken
    obtain ⟨b, more, same, -⟩ := shape.solid
    have place : (Cursor.after (gap ++ (next.toList ++ text) ++ ending)).rest =
        b :: (more ++ (text ++ ending)) := by
      rw [List.append_assoc, isGap, List.append_assoc, after_token shape, same, List.cons_append]
    refine tokenTree_fails place fun member => ?_
    have opening : ∀ other ∈ typeMarks, other.toList.head?.any ['(', '[', '\x7b'].contains = true →
        other = "(" ∨ other = "[" := by decide
    have brackets : ∀ b ∈ ['(', '[', '\x7b'], isMarkHead b = true :=
      forall_mem_of_all (by decide)
    rw [same] at shape
    obtain ⟨other, isMark, letters⟩ := shape.mark_of_head (brackets b member)
    obtain rfl : other = next := String.toList_inj.mp (by rw [letters, same])
    have opens : other.toList.head?.any ['(', '[', '\x7b'].contains = true := by
      rw [letters]
      exact List.contains_iff_mem.mpr member
    rcases opening other isMark opens with rfl | rfl <;> cases fits

theorem fitsBefore_semicolon {tokens : List String} (fits : fitsBefore ";" tokens = true) :
    ∃ length more, tokens = length :: "]" :: more ∧
      (isName length.toList = true ∨ isNumeral length.toList = true) := by
  match tokens with
  | [] => cases fits
  | [_] => cases fits
  | length :: bracket :: more =>
    by_cases closes : bracket = "]"
    · subst closes
      exact ⟨length, more, rfl, by simpa [fitsBefore] using fits⟩
    · simp [fitsBefore, closes] at fits

/-- A length, what stands behind it up to the end of the type, and what stands behind its
bracket. -/
structure LengthIn (length : String) (tokens : List String) (x y : List Char) : Prop where
  plain : isPlainType (length :: "]" :: tokens) = true
  closed : Spells ("]" :: tokens) x
  behind : Spells tokens y
  isLength : IsLength length.toList (x ++ ending) (y ++ ending)

/-- Two texts are the same, or have the same tokens from the length of an array on. -/
inductive SameOrLength : List Char → List Char → Prop
  | same (text : List Char) : SameOrLength text text
  | length {length : String} {tokens : List String} {x x' y y' u v : List Char} :
      LengthIn length tokens x y → LengthIn length tokens x' y' →
      AtLength length.toList (x ++ ending) (x' ++ ending) (y ++ ending) (y' ++ ending) u v →
      SameOrLength u v

theorem SameOrLength.sameTokens {u v : List Char} (place : SameOrLength u v) :
    SameTokens ending u v := by
  cases place with
  | same => exact .same _
  | length left right place =>
    have closes : ∀ text, Stops (runsOn "]".toList) text := by
      intro text c _
      simp [runsOn, isWordChar_bracket]
    cases place with
    | length =>
      exact .token left.plain left.closed right.closed left.isLength.stops right.isLength.stops
    | closing =>
      exact .token (isPlainType_cons left.plain).2.2 left.behind right.behind (closes _) (closes _)

/-- Behind a semicolon, a rule goes no further than the bracket behind the length. -/
theorem leads_sameOrLength (rule : Part) (within : ∀ {length x x' y y'},
    rule.Within (inStep rust (AtLength length x x' y y') fun _ => True)) :
    Leads rust SameOrLength SameOrLength rule := by
  intro fuel c d step
  obtain ⟨left, right, ahead⟩ := step
  generalize first : c.rest = u at ahead
  generalize second : d.rest = v at ahead
  cases ahead with
  | same =>
    exact (leads_sameText rule ⟨left, right, first.trans second.symm⟩).mono fun same => same ▸ .same _
  | length isLength isLengthToo place =>
    rw [← first, ← second] at place
    exact ((run_inStep (fun s _ => rust_atLength isLength.isLength isLengthToo.isLength s) fuel).1
      within ⟨left, right, place⟩).mono (.length isLength isLengthToo)

theorem lengthIn_of_spells {length : String} {tokens : List String} {text : List Char}
    (word : isName length.toList = true ∨ isNumeral length.toList = true)
    (plain : isPlainType (length :: "]" :: tokens) = true)
    (spelt : Spells (length :: "]" :: tokens) text) : ∃ x y, LengthIn length tokens x y ∧
      (Cursor.after (text ++ ending)).rest = length.toList ++ (x ++ ending) := by
  cases spelt with
  | @cons gap _ _ x isGap stops rest =>
    cases rest with
    | @cons front _ _ y isFront closes behind =>
      refine ⟨_, y, ⟨plain, .cons isFront closes behind, behind, word, stops.append (ending_stops _),
        ?_⟩, ?_⟩
      · rw [List.append_assoc, isFront, List.append_assoc, after_token (.mark (by decide))]
        rfl
      · rw [List.append_assoc, isGap, List.append_assoc, after_token (word.elim .name .numeral)]

theorem leads_semicolon : Leads rust (SameTokens ending) SameOrLength Part.semicolon := by
  refine Leads.token fun u v ahead => ?_
  cases ahead with
  | same => exact passes_sameText .same _ rfl
  | @token token tokens u v plain leftSpelt rightSpelt leftStops rightStops =>
    obtain ⟨typeToken, fits, plainRest⟩ := isPlainType_cons plain
    by_cases semicolon : token = ";"
    · subst semicolon
      obtain ⟨length, more, rfl, word⟩ := fitsBefore_semicolon fits
      obtain ⟨x, y, isLength, place⟩ := lengthIn_of_spells word plainRest leftSpelt
      obtain ⟨x', y', isLengthToo, placeToo⟩ := lengthIn_of_spells word plainRest rightSpelt
      refine .inr ⟨_, _, _, mark_self ";" _, mark_self ";" _, ?_⟩
      rw [place, placeToo]
      exact .length isLength isLengthToo .length
    · have none : ∀ text, mark ";" "" (token.toList ++ text) = none := by
        intro text
        cases read : mark ";" "" (token.toList ++ text) with
        | none => rfl
        | some found =>
          exact absurd (token_of_mark typeToken rfl (by decide) (by decide) read).1 semicolon
      exact .inl ⟨none _, none _⟩

/-- The length of an array is read alike. -/
theorem leads_length : Leads rust (SameTokens ending) (SameTokens ending)
    (.seq Part.semicolon (.role "length" (.ref (.expression true)))) :=
  (leads_semicolon.seq (leads_sameOrLength (.role "length" (.ref (.expression true))) trivial)).mono
    SameOrLength.sameTokens

theorem typeRules (s : Symbol) (reads : readsTypes s = true) :
    (rust s).Within (inStep rust (SameTokens ending) (readsTypes · = true)) := by
  have found : ∀ word ∈ keywords, Agrees (SameTokens ending) (keyword word) :=
    fun word member => agrees_of_settles ending_stops (keyword_settles (isName_keyword word member))
  have nodes : ∀ word ∈ keywords, ∀ kind, Agrees (SameTokens ending) (keywordNode kind word) :=
    fun word member kind => agrees_of_settles ending_stops
      (keywordNode_settles (isName_keyword word member))
  have marks : ∀ scanned ∈ typeScans, Agrees (SameTokens ending) (mark scanned.1 scanned.2) :=
    fun scanned member => agrees_of_settles ending_stops (typeScans_settle member)
  have words := fun kind => agrees_of_settles ending_stops (anyWord_settles kind)
  have names := fun kind => agrees_of_settles ending_stops (name_settles kind)
  have primitives := fun kind => agrees_of_settles ending_stops (primitiveType_settles kind)
  have lifetimes := fun kind => agrees_of_settles ending_stops (lifetime_settles kind)
  have metavariables := agrees_of_settles ending_stops metavariable_settles
  have integers := agrees_of_settles ending_stops integerLiteral_settles
  have floats := agrees_of_settles ending_stops floatLiteral_settles
  have strings := agrees_of_settles ending_stops stringLiteral_settles
  have raws := agrees_of_settles ending_stops rawStringLiteral_settles
  have chars := agrees_of_settles ending_stops charLiteral_settles
  have equal : ∀ {u v}, u = v → SameTokens ending u v := fun same => same ▸ .same _
  have braces := fun second => (leads_brace second).mono equal
  have hashes := fun second => (leads_hash second).mono equal
  have bangs := leads_bang.mono equal
  have lengths := leads_length
  simp only [Part.openBrace, Part.bang, Part.semicolon, Part.operator, Part.punct]
    at braces hashes bangs lengths
  simp only [keywords, typeScans, List.forall_mem_cons] at found nodes marks
  cases s
  all_goals try cases reads
  all_goals simp [inStep, readsTypes, found, nodes, marks, words, names, primitives, lifetimes,
    metavariables, integers, floats, strings, raws, chars, braces, hashes, bangs, lengths]

end PlainTypes

end CrateSurface.Grammar
