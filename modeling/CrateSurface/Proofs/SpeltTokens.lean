import CrateSurface.Proofs.ReadingInStep
import CrateSurface.Proofs.TypeTokens

namespace CrateSurface.Grammar

/-- Blanks and comments: text that is skipped before any other text. -/
def IsGap (gap : List Char) : Prop :=
  ∀ rest, (Cursor.after (gap ++ rest)).rest = (Cursor.after rest).rest

/-- A text consists of tokens, with gaps before, between and behind them. Where there is no gap, no
token runs on into the next. -/
inductive Spells : List String → List Char → Prop
  | nil {gap : List Char} : IsGap gap → Spells [] gap
  | cons {gap : List Char} {token : String} {tokens : List String} {text : List Char} :
      IsGap gap → Stops (runsOn token.toList) text → Spells tokens text →
      Spells (token :: tokens) (gap ++ (token.toList ++ text))

/-- What may follow a token of a type that needs no reading of expressions and macros: an
exclamation mark calls no macro, and the length of an array is a name or a number. -/
def fitsBefore (token : String) (tokens : List String) : Bool :=
  if token == "!" then tokens.head? != some "(" && tokens.head? != some "["
  else if token == ";" then
    match tokens with
    | length :: "]" :: _ => isName length.toList || isNumeral length.toList
    | _ => false
  else true

/-- The tokens of a type without macro calls and blocks, whose arrays have plain lengths. -/
def isPlainType : List String → Bool
  | [] => true
  | token :: tokens => isTypeToken token && fitsBefore token tokens && isPlainType tokens

/-- Two texts are the same, or spell the same tokens of a type and then end in the same way. -/
inductive SameTokens (tail : List Char) : List Char → List Char → Prop
  | same (text : List Char) : SameTokens tail text text
  | token {token : String} {tokens : List String} {u v : List Char} :
      isPlainType (token :: tokens) = true → Spells tokens u → Spells tokens v →
      Stops (runsOn token.toList) (u ++ tail) → Stops (runsOn token.toList) (v ++ tail) →
      SameTokens tail (token.toList ++ (u ++ tail)) (token.toList ++ (v ++ tail))

/-- A plain type begins with a token of types that fits before the others, which make a plain type
too. -/
theorem isPlainType_cons {token : String} {tokens : List String}
    (plain : isPlainType (token :: tokens) = true) :
    isTypeToken token = true ∧ fitsBefore token tokens = true ∧ isPlainType tokens = true := by
  simp only [isPlainType, Bool.and_eq_true] at plain
  exact ⟨plain.1.1, plain.1.2, plain.2⟩

section Gaps

theorem IsGap.nil : IsGap [] :=
  fun _ => rfl

theorem IsGap.append {front back : List Char} (first : IsGap front) (second : IsGap back) :
    IsGap (front ++ back) := by
  intro rest
  rw [List.append_assoc, first, second]

theorem IsGap.blank {c : Char} (blank : isGapChar c = true) : IsGap [c] := by
  intro rest
  simp [Cursor.after, skipGap, blank]

theorem Spells.gap {tokens : List String} {gap text : List Char} (isGap : IsGap gap)
    (spelt : Spells tokens text) :
    Spells tokens (gap ++ text) := by
  cases spelt with
  | nil back => exact .nil (isGap.append back)
  | cons front stops rest =>
    rw [← List.append_assoc]
    exact .cons (isGap.append front) stops rest

/-- A character that begins neither a blank nor a comment is where a token begins. -/
theorem after_cons {c : Char} (solid : isGapChar c = false) (slash : c ≠ '/') (rest : List Char) :
    (Cursor.after (c :: rest)).rest = c :: rest := by
  simp [Cursor.after, skipGap, solid, slash]

/-- A token begins with a character that belongs to no gap. -/
theorem TokenShape.solid {token : List Char} (shape : TokenShape token) :
    ∃ c rest, token = c :: rest ∧ isGapChar c = false ∧ c ≠ '/' := by
  have blanks : ∀ c ∈ [' ', '\t', '\n', '\r', '\x0b', '\x0c', '/'],
      Text.isIdentStart c = false ∧ c.isDigit = false :=
    forall_mem_of_all (by decide)
  have solid : ∀ c, c ∉ [' ', '\t', '\n', '\r', '\x0b', '\x0c', '/'] →
      isGapChar c = false ∧ c ≠ '/' := by
    intro c other
    simp only [List.mem_cons, List.not_mem_nil, or_false, not_or] at other
    simp [isGapChar, other]
  cases shape with
  | name named =>
    obtain ⟨c, rest, rfl, start⟩ := isName_head named
    refine ⟨c, rest, rfl, solid c fun member => ?_⟩
    rw [(blanks c member).1] at start
    cases start
  | lifetime => exact ⟨_, _, rfl, by decide, by decide⟩
  | numeral numeral =>
    obtain ⟨c, rest, rfl, digit, -⟩ := isNumeral_cons numeral
    refine ⟨c, rest, rfl, solid c fun member => ?_⟩
    rw [(blanks c member).2] at digit
    cases digit
  | quoted quoted =>
    obtain ⟨body, rfl, -⟩ := isQuoted_split quoted
    exact ⟨_, _, rfl, by decide, by decide⟩
  | @mark token member =>
    have heads : ∀ token ∈ typeMarks,
        (token.toList.head?.any fun c => !isGapChar c && c != '/') = true := by decide
    have head := heads token member
    cases letters : token.toList with
    | nil => rw [letters] at head; cases head
    | cons c rest =>
      refine ⟨c, rest, rfl, ?_⟩
      simpa [letters] using head

end Gaps

section SameTokens

variable {tail : List Char} {u v : List Char}

theorem after_token {token : List Char} (shape : TokenShape token) (text : List Char) :
    (Cursor.after (token ++ text)).rest = token ++ text := by
  obtain ⟨c, rest, rfl, solid, slash⟩ := shape.solid
  exact after_cons solid slash _

/-- Behind a token, the texts still have the same tokens. -/
theorem sameTokens_after {tokens : List String} (plain : isPlainType tokens = true)
    (ends : ∀ token, Stops (runsOn token) tail) (left : Spells tokens u) (right : Spells tokens v) :
    SameTokens tail (Cursor.after (u ++ tail)).rest (Cursor.after (v ++ tail)).rest := by
  cases left with
  | nil leftGap =>
    cases right with
    | nil rightGap =>
      rw [leftGap, rightGap]
      exact .same _
  | cons leftGap leftStops leftRest =>
    cases right with
    | cons rightGap rightStops rightRest =>
      have shape := tokenShape (isPlainType_cons plain).1
      simp only [List.append_assoc]
      rw [leftGap, rightGap, after_token shape, after_token shape]
      exact .token plain leftRest rightRest (leftStops.append (ends _))
        (rightStops.append (ends _))

/-- Scanners that settle on the tokens of types find the same tokens in both texts. -/
theorem agrees_of_settles {scan : Scanner} (ends : ∀ token, Stops (runsOn token) tail)
    (settles : ∀ {token}, TokenShape token → Settles scan token) :
    Agrees (SameTokens tail) scan := by
  intro u v same
  cases same with
  | same => exact passes_sameText .same scan rfl
  | @token token tokens u v plain left right leftStops rightStops =>
    obtain ⟨typeToken, fits, rest⟩ := isPlainType_cons plain
    -- What is left of a mark is a token again, and it runs on as the whole mark did.
    have single : ∀ token, isTypeToken token = true → fitsBefore token tokens = true →
        Stops (runsOn token.toList) (u ++ tail) → Stops (runsOn token.toList) (v ++ tail) →
        SameTokens tail (Cursor.after (token.toList ++ (u ++ tail))).rest
          (Cursor.after (token.toList ++ (v ++ tail))).rest := by
      intro token typeToken fits leftStops rightStops
      rw [after_token (tokenShape typeToken), after_token (tokenShape typeToken)]
      exact .token (by rw [isPlainType, typeToken, fits, rest]; rfl) left right leftStops rightStops
    rcases settles (tokenShape typeToken) with none | ⟨n, left', ending, found⟩
    · exact .inl ⟨none _ leftStops, none _ rightStops⟩
    · refine .inr ⟨n, _, _, found _ leftStops, found _ rightStops, ?_⟩
      rcases ending with rfl | ⟨double, rfl⟩ | ⟨arrow, rfl⟩
      · exact sameTokens_after rest ends left right
      · rw [double] at leftStops rightStops
        exact single ":" (by decide) rfl leftStops rightStops
      · rw [arrow] at leftStops rightStops
        exact single ">" (by decide) rfl leftStops rightStops

end SameTokens

end CrateSurface.Grammar
