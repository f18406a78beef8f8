import CrateSurface.Proofs.DecimalText
import CrateSurface.Proofs.ScannedTokens
import Mathlib.Tactic.IntervalCases
import Mathlib.Tactic.Tauto

namespace CrateSurface.Grammar

/-- A text does not begin with a character of the class. -/
def Stops (p : Char → Bool) (text : List Char) : Prop :=
  ∀ c, text.head? = some c → p c = false

/-- The characters of names and of numbers. -/
def isWordChar (c : Char) : Bool :=
  Text.isIdentContinue c || isNumberChar c

/-- Whether a character directly behind a token may be read together with it. -/
def runsOn (token : List Char) (c : Char) : Bool :=
  match token.getLast? with
  | none => false
  | some last =>
    isWordChar last && (isWordChar c || ['"', '\'', '#', '.'].contains c) ||
      last == ':' && c == ':' || (last == '-' || last == '=') && c == '>' ||
      ['=', '+', '!'].contains last && c == '='

/-- A name or a keyword. -/
def isName : List Char → Bool
  | c :: rest => Text.isIdentStart c && (c :: rest).all Text.isIdentContinue
  | [] => false

/-- A quote and a name. -/
def isLifetime : List Char → Bool
  | '\'' :: name => isName name
  | _ => false

/-- A decimal number without a fraction. -/
def isNumeral : List Char → Bool
  | c :: rest => c.isDigit && rest.all isNumberChar
  | [] => false

/-- A string without escapes. -/
def isQuoted : List Char → Bool
  | '"' :: rest => rest.getLast? == some '"' && rest.dropLast.all fun c => c != '"' && c != '\\'
  | _ => false

/-- The punctuation of types. -/
def typeMarks : List String :=
  ["&", "*", "(", ")", "[", "]", "<", ">", ",", ";", ":", "::", "+", "->", "=", "!", "?", "-", "..."]

/-- Tokens of types: names, lifetimes, numbers, strings and punctuation. Braces, which begin a
block, are not among them. -/
def isTypeToken (token : String) : Bool :=
  isName token.toList || isLifetime token.toList || isNumeral token.toList ||
    isQuoted token.toList || typeMarks.contains token

/-- What a scanner finds at the beginning of a token does not hang on what follows the token. All of
the token is taken, or the rest of it is a mark as well. -/
def Settles (scan : Scanner) (token : List Char) : Prop :=
  (∀ text, Stops (runsOn token) text → scan (token ++ text) = none) ∨
  ∃ n rest, (rest = [] ∨ token = [':', ':'] ∧ rest = [':'] ∨ token = ['-', '>'] ∧ rest = ['>']) ∧
    ∀ text, Stops (runsOn token) text → scan (token ++ text) = some (n, rest ++ text)

section Stops

variable {p q : Char → Bool} {body text : List Char}

instance : Decidable (Stops p text) :=
  decidable_of_iff (text.head?.all (!p ·) = true) (by simp [Stops, Option.all_eq_true])

theorem Stops.mono (stops : Stops q text) (less : ∀ c, p c = true → q c = true) : Stops p text := by
  intro c head
  cases held : p c with
  | false => rfl
  | true => exact (less c held).symm.trans (stops c head)

theorem Stops.append (stops : Stops p body) (ends : Stops p text) : Stops p (body ++ text) := by
  cases body with
  | nil => exact ends
  | cons c body => exact fun d head => stops d head

/-- A class of characters is taken up to where it stops. -/
theorem Stops.takeWhile (stops : Stops p text) (inside : body.all p = true) :
    (body ++ text).takeWhile p = body := by
  rw [List.takeWhile_append_of_pos (List.all_eq_true.mp inside)]
  cases text with
  | nil => simp
  | cons c text => simp [stops c rfl]

/-- What is left of a class of characters begins where it stops. -/
theorem Stops.dropWhile (stops : Stops p text) (inside : body.all p = true) :
    (body ++ text).dropWhile p = text := by
  rw [List.dropWhile_append_of_pos (List.all_eq_true.mp inside)]
  cases text with
  | nil => rfl
  | cons c text => simp [stops c rfl]

theorem Stops.ne_cons (stops : Stops p text) {c : Char} (held : p c = true) (rest : List Char) :
    text ≠ c :: rest := by
  rintro rfl
  exact absurd held (by rw [stops c rfl]; exact Bool.false_ne_true)

end Stops

section Words

variable {token text : List Char}

/-- Characters that may belong to a word or to the literal that it is the beginning of. -/
def continuesWord (c : Char) : Bool :=
  isWordChar c || ['"', '\'', '#', '.'].contains c

/-- A word runs on into every character that continues words. -/
theorem runsOn_of_word (some : token ≠ []) (word : token.all isWordChar = true) :
    ∀ c, continuesWord c = true → runsOn token c = true := by
  intro c continues
  have last := List.all_eq_true.mp word _ (List.getLast_mem some)
  rw [runsOn, List.getLast?_eq_some_getLast some]
  simp only [last, Bool.true_and, Bool.or_eq_true]
  exact .inl (.inl (.inl (Bool.or_eq_true_iff.mp continues)))

theorem isName_ne_nil (named : isName token = true) : token ≠ [] := by
  rintro rfl
  cases named

theorem isName_all (named : isName token = true) : token.all Text.isIdentContinue = true := by
  cases token with
  | nil => cases named
  | cons c rest => exact (Bool.and_eq_true_iff.mp named).2

theorem isName_head (named : isName token = true) :
    ∃ c rest, token = c :: rest ∧ Text.isIdentStart c = true := by
  cases token with
  | nil => cases named
  | cons c rest => exact ⟨c, rest, rfl, (Bool.and_eq_true_iff.mp named).1⟩

theorem all_isWordChar (inside : token.all Text.isIdentContinue = true) :
    token.all isWordChar = true := by
  refine List.all_eq_true.mpr fun c member => ?_
  rw [isWordChar, List.all_eq_true.mp inside c member, Bool.true_or]

theorem Stops.ident (stops : Stops continuesWord text) : Stops Text.isIdentContinue text :=
  stops.mono fun c held => by rw [continuesWord, isWordChar, held, Bool.true_or, Bool.true_or]

theorem Stops.number (stops : Stops continuesWord text) : Stops isNumberChar text :=
  stops.mono fun c held => by
    rw [continuesWord, isWordChar, held, Bool.or_true, Bool.true_or]

/-- Behind a name nothing goes on with it. -/
theorem stops_name (named : isName token = true) (stops : Stops (runsOn token) text) :
    Stops continuesWord text :=
  stops.mono (runsOn_of_word (isName_ne_nil named) (all_isWordChar (isName_all named)))

theorem isIdentStart_digit {c : Char} (digit : c.isDigit = true) : Text.isIdentStart c = false := by
  have bounds : 48 ≤ c.toNat ∧ c.toNat ≤ 57 := by
    simpa [Char.isDigit, UInt32.le_iff_toNat_le] using digit
  have each : ∀ n, 48 ≤ n → n ≤ 57 → Text.isIdentStart (Char.ofNat n) = false := by
    intro n low high
    interval_cases n <;> decide
  have found := each c.toNat bounds.1 bounds.2
  rwa [Char.ofNat_toNat] at found

/-- A name is read as a word, up to its end. -/
theorem plainWord?_name (named : isName token = true) (stops : Stops continuesWord text) :
    plainWord? (token ++ text) = some (token, text) := by
  obtain ⟨c, rest, rfl, start⟩ := isName_head named
  have inside : rest.all Text.isIdentContinue = true := by
    have all := isName_all named
    rw [List.all_cons] at all
    exact (Bool.and_eq_true_iff.mp all).2
  rw [List.cons_append, plainWord?, if_pos start, stops.ident.takeWhile inside,
    stops.ident.dropWhile inside]

theorem word?_name (named : isName token = true) (stops : Stops continuesWord text) :
    word? (token ++ text) = some (token, text) := by
  have plain := plainWord?_name named stops
  unfold word?
  split
  · next rest marked =>
    -- A hash could stand second only inside the name or right behind it.
    have hash : Text.isIdentContinue '#' = false := by decide
    obtain ⟨c, name, rfl, start⟩ := isName_head named
    cases name with
    | nil => exact absurd (List.cons.inj marked).2 (stops.ne_cons (by rfl) rest)
    | cons d name =>
      have second : d = '#' := (List.cons.inj (List.cons.inj marked).2).1
      have inside := isName_all named
      simp [second, hash] at inside
  · exact plain

theorem plainWord?_other {c : Char} (other : Text.isIdentStart c = false) (rest : List Char) :
    plainWord? (c :: rest) = none := by
  rw [plainWord?, if_neg (by rw [other]; exact Bool.false_ne_true)]

theorem word?_other {c : Char} (other : Text.isIdentStart c = false) (rest : List Char) :
    word? (c :: rest) = none := by
  have plain := plainWord?_other other rest
  unfold word?
  split
  · next body marked =>
    have start : Text.isIdentStart 'r' = true := by decide
    rw [(List.cons.inj marked).1, start] at other
    cases other
  · exact plain

/-- A keyword is found where it is all of the word. -/
theorem keyword_name {word : String} (isWord : isName word.toList = true)
    (named : isName token = true) (stops : Stops continuesWord text) :
    keyword word (token ++ text) =
      if token = word.toList then some (Node.token word, text) else none := by
  simp only [keyword]
  split
  · next rest dropped =>
    have split := dropFront?_eq_some.mp dropped
    split
    · next goesOn =>
      split
      · next same =>
        rw [same] at split
        rw [← List.append_cancel_left split] at goesOn
        cases text with
        | nil => cases goesOn
        | cons c text => exact absurd goesOn (by simp [goesOnAsWord, stops.ident c rfl])
      · rfl
    · next ends =>
      have behind : Stops Text.isIdentContinue rest := by
        intro c head
        cases rest with
        | nil => cases head
        | cons d rest =>
          rw [← Option.some.inj head]
          simpa [goesOnAsWord] using ends
      have same : token = word.toList := by
        rw [← stops.ident.takeWhile (isName_all named), split,
          behind.takeWhile (isName_all isWord)]
      rw [if_pos same]
      rw [same] at split
      rw [List.append_cancel_left split]
  · next missing =>
    rw [if_neg]
    rintro rfl
    rw [dropFront?_eq_some.mpr rfl] at missing
    cases missing

theorem keyword_other {word : String} {c : Char} (isWord : isName word.toList = true)
    (other : Text.isIdentStart c = false) (rest : List Char) : keyword word (c :: rest) = none := by
  obtain ⟨d, letters, same, start⟩ := isName_head isWord
  have differ : (d == c) = false := by
    rw [beq_eq_false_iff_ne]
    rintro rfl
    rw [start] at other
    cases other
  simp [keyword, same, dropFront?, differ]

end Words

section Literals

variable {token text : List Char}

/-- No quote or hash follows the word at the beginning of a text that begins with a name. -/
theorem no_quote {front rest : List Char} {d : Char} (named : isName token = true)
    (stops : Stops continuesWord text) (inside : front.all Text.isIdentContinue = true)
    (quote : d ∈ ['"', '\'', '#']) : token ++ text ≠ front ++ d :: rest := by
  intro same
  have outside : ∀ d ∈ ['"', '\'', '#'], Text.isIdentContinue d = false :=
    forall_mem_of_all (by decide)
  have ends : Stops Text.isIdentContinue (d :: rest) := by
    intro c head
    rw [← Option.some.inj head]
    exact outside d quote
  have tail : text = d :: rest := by
    rw [← stops.ident.dropWhile (isName_all named), same, ends.dropWhile inside]
  refine stops.ne_cons ?_ rest tail
  rw [continuesWord, List.contains_iff_mem.mpr, Bool.or_true]
  simp only [List.mem_cons, List.not_mem_nil, or_false] at quote ⊢
  rcases quote with rfl | rfl | rfl <;> simp

theorem name_ne_cons {c : Char} (named : isName token = true) (other : Text.isIdentStart c = false)
    (rest : List Char) : token ++ text ≠ c :: rest := by
  obtain ⟨d, letters, rfl, start⟩ := isName_head named
  rw [List.cons_append]
  intro same
  rw [(List.cons.inj same).1, other] at start
  cases start

/-- A name is no string, though a prefix of strings is a name. -/
theorem stringLiteral_name (named : isName token = true) (stops : Stops continuesWord text) :
    stringLiteral (token ++ text) = none := by
  have opening : ∀ (p : Char), Text.isIdentContinue p = true → ∀ rest,
      token ++ text ≠ p :: '"' :: rest := by
    intro p inside rest
    have letter : [p].all Text.isIdentContinue = true := by simp [inside]
    exact no_quote named stops letter (by simp)
  simp only [stringLiteral]
  split
  · next front rest opened =>
    split at opened
    · next same => exact absurd same (name_ne_cons named (by decide) _)
    · next same => exact absurd same (opening 'b' (by decide) _)
    · next same => exact absurd same (opening 'c' (by decide) _)
    · cases opened
  · rfl

/-- A name is no raw string, though a prefix of raw strings is a name. -/
theorem rawStringLiteral_name (named : isName token = true) (stops : Stops continuesWord text) :
    rawStringLiteral (token ++ text) = none := by
  -- Behind the letters there would be a hash or the opening quote.
  have opening : ∀ front hashed rest : List Char, front.all Text.isIdentContinue = true →
      token ++ text = front ++ hashed → hashed.dropWhile (· == '#') ≠ '"' :: rest := by
    intro front hashed rest inside same quoted
    cases hashed with
    | nil => cases quoted
    | cons d hashed =>
      by_cases hash : d = '#'
      · exact no_quote named stops inside (by simp [hash]) same
      · rw [List.dropWhile_cons_of_neg (by simpa using hash)] at quoted
        rw [(List.cons.inj quoted).1] at same
        exact no_quote named stops inside (by simp) same
  simp only [rawStringLiteral]
  split
  · next front hashed opened =>
    split
    · next rest quoted =>
      split at opened
      · next same =>
        obtain ⟨rfl, rfl⟩ := Prod.mk.inj (Option.some.inj opened)
        exact absurd quoted (opening ['r'] _ rest (by decide) same)
      · next same =>
        obtain ⟨rfl, rfl⟩ := Prod.mk.inj (Option.some.inj opened)
        exact absurd quoted (opening ['b', 'r'] _ rest (by decide) same)
      · next same =>
        obtain ⟨rfl, rfl⟩ := Prod.mk.inj (Option.some.inj opened)
        exact absurd quoted (opening ['c', 'r'] _ rest (by decide) same)
      · cases opened
    · rfl
  · rfl

/-- A quote behind the marker of a byte, if there is one. -/
theorem charBody_quoted {cs rest : List Char}
    (same : (match cs with
      | 'b' :: rest => (['b'], rest)
      | _ => ([], cs) : List Char × List Char).2 = '\'' :: rest) :
    cs = '\'' :: rest ∨ cs = 'b' :: '\'' :: rest := by
  split at same
  · exact .inr (congrArg _ same)
  · exact .inl same

theorem charLiteral_eq_none {cs : List Char} (quote : ∀ rest, cs ≠ '\'' :: rest)
    (byte : ∀ rest, cs ≠ 'b' :: '\'' :: rest) : charLiteral cs = none := by
  have unquoted : ∀ {rest}, ¬ (cs = '\'' :: rest ∨ cs = 'b' :: '\'' :: rest) :=
    fun quoted => quoted.elim (quote _) (byte _)
  simp only [charLiteral]
  split
  · next held =>
    split at held
    · next body => exact absurd (charBody_quoted body) unquoted
    · next body => exact absurd (charBody_quoted body) unquoted
    · next body => exact absurd (charBody_quoted body) unquoted
    · cases held
  · rfl

/-- A name is no character, though a prefix of byte characters is a name. -/
theorem charLiteral_name (named : isName token = true) (stops : Stops continuesWord text) :
    charLiteral (token ++ text) = none := by
  refine charLiteral_eq_none (name_ne_cons named (by decide)) fun rest => ?_
  have letter : ['b'].all Text.isIdentContinue = true := by decide
  exact no_quote named stops letter (by simp)

theorem stringLiteral_other {c : Char} (other : c ∉ ['"', 'b', 'c']) (rest : List Char) :
    stringLiteral (c :: rest) = none := by
  simp only [stringLiteral]
  split
  · next opened =>
    split at opened
    all_goals simp_all
  · rfl

theorem rawStringLiteral_other {c : Char} (other : c ∉ ['r', 'b', 'c']) (rest : List Char) :
    rawStringLiteral (c :: rest) = none := by
  simp only [rawStringLiteral]
  split
  · next opened =>
    split at opened
    all_goals simp_all
  · rfl

theorem integerLiteral_other {c : Char} (other : c.isDigit = false) (rest : List Char) :
    integerLiteral (c :: rest) = none := by
  have zero : c ≠ '0' := by
    rintro rfl
    cases other
  simp [integerLiteral, integerDigits?, zero, other]

theorem floatLiteral_other {c : Char} (other : c.isDigit = false) (rest : List Char) :
    floatLiteral (c :: rest) = none := by
  simp [floatLiteral, other]

theorem lifetime_other {c : Char} (kind : String) (other : c ≠ '\'') (rest : List Char) :
    lifetime kind (c :: rest) = none := by
  simp [lifetime, other]

theorem metavariable_other {c : Char} (other : c ≠ '$') (rest : List Char) :
    metavariable (c :: rest) = none := by
  simp [metavariable, other]

/-- A quote and a name are read as a lifetime, up to the end of the name. -/
theorem lifetime_quoted (kind : String) (named : isName token = true)
    (stops : Stops continuesWord text) :
    lifetime kind ('\'' :: token ++ text) =
      some (Node.leaf kind (String.ofList ('\'' :: token)), text) := by
  rw [List.cons_append, lifetime, word?_name named stops]
  split
  · next same =>
    obtain ⟨-, rfl⟩ := Prod.mk.inj (Option.some.inj same)
    exact absurd rfl (stops.ne_cons (by rfl) _)
  · next same =>
    obtain ⟨rfl, rfl⟩ := Prod.mk.inj (Option.some.inj same)
    rfl
  · next same => cases same

/-- A lifetime is no character, as no quote closes it. -/
theorem charLiteral_lifetime (named : isName token = true) (stops : Stops continuesWord text) :
    charLiteral ('\'' :: token ++ text) = none := by
  obtain ⟨c, name, rfl, start⟩ := isName_head named
  have slash : c ≠ '\\' := by
    rintro rfl
    exact absurd start (by decide)
  have quote : c ≠ '\'' := by
    rintro rfl
    exact absurd start (by decide)
  have behind : ∀ rest, name ++ text ≠ '\'' :: rest := by
    intro rest same
    have letter : [c].all Text.isIdentContinue = true := by
      have inside := isName_all named
      rw [List.all_cons] at inside
      simp [(Bool.and_eq_true_iff.mp inside).1]
    exact no_quote named stops letter (by simp : '\'' ∈ ['"', '\'', '#']) (congrArg (c :: ·) same)
  simp only [charLiteral, List.cons_append]
  split
  · next held =>
    split at held
    · next body => exact absurd (List.cons.inj (List.cons.inj body).2).1 slash
    · next body => exact absurd (List.cons.inj (List.cons.inj body).2).1 quote
    · next body =>
      obtain ⟨-, same⟩ := Prod.mk.inj (Option.some.inj held)
      rw [← (List.cons.inj (List.cons.inj body).2).2] at same
      exact absurd same (behind _)
    · cases held
  · rfl

theorem isNumeral_cons (numeral : isNumeral token = true) :
    ∃ c rest, token = c :: rest ∧ c.isDigit = true ∧ rest.all isNumberChar = true := by
  cases token with
  | nil => cases numeral
  | cons c rest =>
    have parts := Bool.and_eq_true_iff.mp numeral
    exact ⟨c, rest, rfl, parts.1, parts.2⟩

theorem isNumeral_all (numeral : isNumeral token = true) : token.all isWordChar = true := by
  obtain ⟨c, rest, rfl, digit, inside⟩ := isNumeral_cons numeral
  refine List.all_eq_true.mpr fun d member => ?_
  rcases List.mem_cons.mp member with rfl | later
  · simp [isWordChar, isNumberChar, digit]
  · simp [isWordChar, List.all_eq_true.mp inside d later]

theorem isNumeral_ne_nil (numeral : isNumeral token = true) : token ≠ [] := by
  rintro rfl
  cases numeral

/-- What may follow a numeral continues no word. -/
theorem stops_numeral (numeral : isNumeral token = true) (stops : Stops (runsOn token) text) :
    Stops continuesWord text :=
  stops.mono (runsOn_of_word (isNumeral_ne_nil numeral) (isNumeral_all numeral))

theorem numberSuffix_stops (stops : Stops continuesWord text) : numberSuffix text = ([], text) := by
  have none : ∀ suffix ∈ numberSuffixes, dropFront? suffix.toList text = none := by
    intro suffix member
    have letters : ∀ suffix ∈ numberSuffixes, suffix.toList.head?.any continuesWord = true := by
      decide
    have letter := letters suffix member
    cases front : suffix.toList with
    | nil => rw [front] at letter; cases letter
    | cons c more =>
      rw [front] at letter
      cases text with
      | nil => rfl
      | cons d text =>
        have differ : c ≠ d := by
          rintro rfl
          exact absurd rfl (stops.ne_cons letter text)
        simp [dropFront?, differ]
  have nothing : (numberSuffixes.filterMap fun suffix =>
      (dropFront? suffix.toList text).map fun rest => (suffix.toList, rest)) = [] := by
    rw [List.filterMap_eq_nil_iff]
    intro suffix member
    rw [none suffix member]
    rfl
  rw [numberSuffix, nothing]
  rfl

/-- Digits are decimal unless the letter of a base stands second. -/
theorem integerDigits?_decimal {c : Char} {rest : List Char} (digit : c.isDigit = true)
    (decimal : ∀ base ∈ ['x', 'b', 'o'], ∀ more, rest ≠ base :: more) :
    integerDigits? (c :: rest) =
      some (c :: rest.takeWhile isNumberChar, rest.dropWhile isNumberChar) := by
  cases rest with
  | nil => simp [integerDigits?, digit]
  | cons b more =>
    have differs : ∀ base ∈ ['x', 'b', 'o'], b ≠ base := fun base member same =>
      decimal base member more (by rw [same])
    have notX := differs 'x' (by simp)
    have notB := differs 'b' (by simp)
    have notO := differs 'o' (by simp)
    by_cases zero : c = '0'
    · subst zero
      simp [integerDigits?, notX, notB, notO]
    · simp [integerDigits?, zero, digit]

/-- A numeral is read as an integer, up to its end. -/
theorem integerLiteral_numeral (numeral : isNumeral token = true)
    (stops : Stops continuesWord text) : integerLiteral (token ++ text) =
      some (Node.leaf "integer_literal" (String.ofList token), text) := by
  obtain ⟨c, rest, rfl, digit, inside⟩ := isNumeral_cons numeral
  -- The letter of another base would go on with the number.
  have decimal : ∀ base ∈ ['x', 'b', 'o'], ∀ more, rest ++ text ≠ base :: more := by
    intro base member more same
    have letters : ∀ base ∈ ['x', 'b', 'o'], isNumberChar base = false ∧ continuesWord base = true :=
      forall_mem_of_all (by decide)
    obtain ⟨notDigit, letter⟩ := letters base member
    cases rest with
    | nil => exact stops.ne_cons letter more same
    | cons d rest =>
      rw [(List.cons.inj same).1] at inside
      simp [notDigit] at inside
  rw [List.cons_append, integerLiteral, integerDigits?_decimal digit decimal,
    stops.number.takeWhile inside, stops.number.dropWhile inside]
  simp only [numberSuffix_stops stops, List.append_nil]

/-- A numeral is no float: neither a point nor an exponent is in it. -/
theorem floatLiteral_numeral (numeral : isNumeral token = true) (stops : Stops continuesWord text) :
    floatLiteral (token ++ text) = none := by
  obtain ⟨c, rest, rfl, digit, inside⟩ := isNumeral_cons numeral
  have fraction : fractionPart? text = some ([], text) := by
    unfold fractionPart?
    split
    · exact absurd rfl (stops.ne_cons (by rfl) _)
    · rfl
  have exponent : exponentPart text = ([], text) := by
    have letters : continuesWord 'e' = true ∧ continuesWord 'E' = true := by decide
    cases text with
    | nil => rfl
    | cons e text =>
      have small : e ≠ 'e' := fun same => stops.ne_cons letters.1 text (by rw [same])
      have capital : e ≠ 'E' := fun same => stops.ne_cons letters.2 text (by rw [same])
      simp [exponentPart, small, capital]
  simp [floatLiteral, digit, stops.number.dropWhile inside, fraction, exponent]

/-- A string token is a body between quotes, without quotes and backslashes. -/
theorem isQuoted_split (quoted : isQuoted token = true) :
    ∃ body, token = '"' :: (body ++ ['"']) ∧ ∀ c ∈ body, c ≠ '"' ∧ c ≠ '\\' := by
  unfold isQuoted at quoted
  split at quoted
  · next rest =>
    obtain ⟨ends, inside⟩ := Bool.and_eq_true_iff.mp quoted
    refine ⟨rest.dropLast, ?_, fun c member => ?_⟩
    · obtain ⟨front, rfl⟩ := List.getLast?_eq_some_iff.mp (by simpa using ends)
      simp
    · simpa using List.all_eq_true.mp inside c member
  · cases quoted

/-- A body without quotes and backslashes is read up to the closing quote. -/
theorem stringBody?_plain {body : List Char} (inside : ∀ c ∈ body, c ≠ '"' ∧ c ≠ '\\') :
    ∀ {fuel : Nat}, body.length < fuel →
      stringBody? fuel (body ++ '"' :: text) = some (body ++ ['"'], text) := by
  induction body with
  | nil =>
    intro fuel enough
    cases fuel with
    | zero => simp at enough
    | succ fuel => rfl
  | cons c body ih =>
    intro fuel enough
    cases fuel with
    | zero => simp at enough
    | succ fuel =>
      obtain ⟨quote, slash⟩ := inside c (List.mem_cons_self ..)
      have more := ih (fun d member => inside d (List.mem_cons_of_mem _ member))
        (Nat.lt_of_succ_lt_succ enough)
      rw [List.cons_append, stringBody?.eq_5 _ _ _ quote slash, more]
      rfl

theorem stringLiteral_quoted (quoted : isQuoted token = true) : stringLiteral (token ++ text) =
    some (Node.leaf "string_literal" (String.ofList token), text) := by
  obtain ⟨body, rfl, inside⟩ := isQuoted_split quoted
  have read : stringBody? ((body ++ '"' :: text).length + 1) (body ++ '"' :: text) =
      some (body ++ ['"'], text) :=
    stringBody?_plain inside (by simp only [List.length_append, List.length_cons]; omega)
  simp only [stringLiteral, List.cons_append, List.append_assoc, List.nil_append]
  rw [read]
  rfl

end Literals

section Marks

variable {token text : List Char}

/-- Whether a token begins with a text does not hang on what follows, unless both together begin it.
-/
theorem dropFront?_append {front : List Char}
    (apart : ∀ c, text.head? = some c → ¬ (token ++ [c]) <+: front) :
    dropFront? front (token ++ text) = (dropFront? front token).map (· ++ text) := by
  induction front generalizing token with
  | nil => rfl
  | cons a front ih =>
    cases token with
    | nil =>
      cases text with
      | nil => rfl
      | cons c text =>
        have differ : a ≠ c := by
          rintro rfl
          exact apart a rfl ⟨front, rfl⟩
        simp [dropFront?, differ]
    | cons b token =>
      simp only [List.cons_append, dropFront?]
      split
      · next same =>
        refine ih fun c head more => apart c head ?_
        rw [beq_iff_eq.mp same]
        simpa using more
      · rfl

/-- Whether what a mark finds in a token is settled: it takes all of it and nothing that makes it
longer can follow, or it leaves a mark, or the token would have to go on for it. -/
def settledMark (token : List Char) (text longer : String) : Bool :=
  match dropFront? text.toList token with
  | some [] => longer.toList.all (runsOn token)
  | some (c :: rest) => longer.toList.contains c ||
      token == [':', ':'] && (c :: rest) == [':'] || token == ['-', '>'] && (c :: rest) == ['>']
  | none =>
    match dropFront? token text.toList with
    | some (c :: _) => runsOn token c
    | _ => true

theorem mark_settles {mark longer : String} (settled : settledMark token mark longer = true) :
    Settles (Grammar.mark mark longer) token := by
  -- Nothing that follows the token can complete the mark.
  have front : ∀ text, Stops (runsOn token) text → dropFront? mark.toList (token ++ text) =
      (dropFront? mark.toList token).map (· ++ text) := by
    intro text stops
    refine dropFront?_append fun c head more => ?_
    obtain ⟨rest, same⟩ := more
    have missing : dropFront? mark.toList token = none := by
      cases found : dropFront? mark.toList token with
      | none => rfl
      | some left =>
        have lengths := congrArg List.length (dropFront?_eq_some.mp found)
        rw [← same] at lengths
        simp at lengths
    have ahead : dropFront? token mark.toList = some (c :: rest) :=
      dropFront?_eq_some.mpr (by rw [← same]; simp)
    rw [settledMark, missing, ahead] at settled
    have runs : runsOn token c = true := settled
    rw [stops c head] at runs
    cases runs
  cases found : dropFront? mark.toList token with
  | none =>
    refine .inl fun text stops => ?_
    simp only [Grammar.mark, front text stops, found, Option.map_none]
  | some left =>
    rw [settledMark, found] at settled
    cases left with
    | nil =>
      refine .inr ⟨Node.token mark, [], .inl rfl, fun text stops => ?_⟩
      simp only [Grammar.mark, front text stops, found, Option.map_some, List.nil_append]
      cases text with
      | nil => rfl
      | cons c text =>
        have short : longer.toList.contains c = false := by
          rw [← Bool.not_eq_true, List.contains_iff_mem]
          intro member
          have runs := List.all_eq_true.mp settled c member
          rw [stops c rfl] at runs
          cases runs
        simp only [short, Bool.false_eq_true, ↓reduceIte]
    | cons c rest =>
      simp only [Bool.or_eq_true, Bool.and_eq_true, beq_iff_eq] at settled
      by_cases blocked : longer.toList.contains c = true
      · refine .inl fun text stops => ?_
        simp only [Grammar.mark, front text stops, found, Option.map_some, List.cons_append,
          if_pos blocked]
      · refine .inr ⟨Node.token mark, c :: rest, ?_, fun text stops => ?_⟩
        · rcases settled with (impossible | left) | left
          · exact absurd impossible blocked
          · exact .inr (.inl left)
          · exact .inr (.inr left)
        · simp only [Grammar.mark, front text stops, found, Option.map_some, List.cons_append,
            if_neg blocked]

end Marks

/-- The sorts of tokens of types. -/
inductive TokenShape : List Char → Prop
  | name {token : List Char} : isName token = true → TokenShape token
  | lifetime {name : List Char} : isName name = true → TokenShape ('\'' :: name)
  | numeral {token : List Char} : isNumeral token = true → TokenShape token
  | quoted {token : List Char} : isQuoted token = true → TokenShape token
  | mark {token : String} : token ∈ typeMarks → TokenShape token.toList

/-- Every token of types has one of the shapes. -/
theorem tokenShape {token : String} (typeToken : isTypeToken token = true) :
    TokenShape token.toList := by
  simp only [isTypeToken, Bool.or_eq_true] at typeToken
  rcases typeToken with (((named | quoted) | numeral) | quoted) | member
  · exact .name named
  · unfold isLifetime at quoted
    split at quoted
    · next name same =>
      rw [same]
      exact .lifetime quoted
    · cases quoted
  · exact .numeral numeral
  · exact .quoted quoted
  · exact .mark (List.contains_iff_mem.mp member)

/-- Characters that begin neither a word nor a literal. -/
def isMarkHead (c : Char) : Bool :=
  !Text.isIdentStart c && !c.isDigit && !(['\'', '"', '$'].contains c)

theorem typeMarks_head {token : String} (member : token ∈ typeMarks) :
    ∃ c rest, token.toList = c :: rest ∧ isMarkHead c = true := by
  have heads : ∀ token ∈ typeMarks, token.toList.head?.any isMarkHead = true := by decide
  have head := heads token member
  cases letters : token.toList with
  | nil => rw [letters] at head; cases head
  | cons c rest =>
    rw [letters] at head
    exact ⟨c, rest, rfl, head⟩

section Settles

variable {scan : Scanner} {token : List Char}

theorem isMarkHead_ident {c : Char} (head : isMarkHead c = true) : Text.isIdentStart c = false := by
  simp only [isMarkHead, Bool.and_eq_true, Bool.not_eq_true'] at head
  exact head.1.1

/-- A token of a type is a name, or it begins as no name does. -/
theorem TokenShape.name_or_other (shape : TokenShape token) :
    isName token = true ∨ ∃ c rest, token = c :: rest ∧ Text.isIdentStart c = false := by
  cases shape with
  | name named => exact .inl named
  | lifetime => exact .inr ⟨_, _, rfl, by decide⟩
  | numeral numeral =>
    obtain ⟨c, rest, rfl, digit, -⟩ := isNumeral_cons numeral
    exact .inr ⟨c, rest, rfl, isIdentStart_digit digit⟩
  | quoted quoted =>
    obtain ⟨body, rfl, -⟩ := isQuoted_split quoted
    exact .inr ⟨_, _, rfl, by decide⟩
  | mark member =>
    obtain ⟨c, rest, same, head⟩ := typeMarks_head member
    exact .inr ⟨c, rest, same, isMarkHead_ident head⟩

theorem settles_all (n : Node)
    (found : ∀ text, Stops (runsOn token) text → scan (token ++ text) = some (n, text)) :
    Settles scan token :=
  .inr ⟨n, [], .inl rfl, found⟩

/-- A scanner of words settles if it does so on names. -/
theorem settles_of_words (named : isName token = true → Settles scan token)
    (other : ∀ {c}, Text.isIdentStart c = false → ∀ rest, scan (c :: rest) = none)
    (shape : TokenShape token) : Settles scan token := by
  rcases shape.name_or_other with name | ⟨c, rest, rfl, head⟩
  · exact named name
  · exact .inl fun text _ => other head (rest ++ text)

/-- A keyword settles every token: it is the token, or is not found. -/
theorem keyword_settles {word : String} (isWord : isName word.toList = true)
    (shape : TokenShape token) : Settles (keyword word) token := by
  refine settles_of_words (fun named => ?_) (keyword_other isWord) shape
  by_cases same : token = word.toList
  · refine settles_all (Node.token word) fun text stops => ?_
    rw [keyword_name isWord named (stops_name named stops), if_pos same]
  · refine .inl fun text stops => ?_
    rw [keyword_name isWord named (stops_name named stops), if_neg same]

theorem keywordNode_settles {kind word : String} (isWord : isName word.toList = true)
    (shape : TokenShape token) : Settles (keywordNode kind word) token := by
  rcases keyword_settles isWord shape with none | ⟨n, rest, ends, found⟩
  · refine .inl fun text stops => ?_
    rw [keywordNode, none text stops, Option.map_none]
  · refine .inr ⟨Node.leaf kind word, rest, ends, fun text stops => ?_⟩
    rw [keywordNode, found text stops, Option.map_some]

theorem anyWord_settles (kind : String) (shape : TokenShape token) :
    Settles (anyWord kind) token := by
  refine settles_of_words (fun named => ?_)
    (fun head rest => by rw [anyWord, word?_other head, Option.map_none]) shape
  refine settles_all (Node.leaf kind (String.ofList token)) fun text stops => ?_
  rw [anyWord, word?_name named (stops_name named stops), Option.map_some]

theorem name_settles (kind : String) (shape : TokenShape token) : Settles (name kind) token := by
  refine settles_of_words (fun named => ?_) (fun head rest => by rw [name, word?_other head]) shape
  by_cases reserved : reservedWords.contains (String.ofList token) = true
  · refine .inl fun text stops => ?_
    simp only [name, word?_name named (stops_name named stops), if_pos reserved]
  · refine settles_all (Node.leaf kind (String.ofList token)) fun text stops => ?_
    simp only [name, word?_name named (stops_name named stops), if_neg reserved]

theorem primitiveType_settles (kind : String) (shape : TokenShape token) :
    Settles (primitiveType kind) token := by
  refine settles_of_words (fun named => ?_)
    (fun head rest => by rw [primitiveType, plainWord?_other head]) shape
  by_cases primitive : primitiveTypes.contains (String.ofList token) = true
  · refine settles_all (Node.leaf kind (String.ofList token)) fun text stops => ?_
    simp only [primitiveType, plainWord?_name named (stops_name named stops), if_pos primitive]
  · refine .inl fun text stops => ?_
    simp only [primitiveType, plainWord?_name named (stops_name named stops), if_neg primitive]

theorem stops_lifetime {text : List Char} (named : isName token = true)
    (stops : Stops (runsOn ('\'' :: token)) text) : Stops continuesWord text := by
  refine stops_name named ?_
  obtain ⟨c, rest, rfl, -⟩ := isName_head named
  exact stops

theorem lifetime_settles (kind : String) (shape : TokenShape token) :
    Settles (lifetime kind) token := by
  cases shape with
  | name named =>
    obtain ⟨c, rest, rfl, start⟩ := isName_head named
    refine .inl fun text _ => lifetime_other kind ?_ _
    rintro rfl
    exact absurd start (by decide)
  | @lifetime name named =>
    refine settles_all (Node.leaf kind (String.ofList ('\'' :: name))) fun text stops => ?_
    exact lifetime_quoted kind named (stops_lifetime named stops)
  | numeral numeral =>
    obtain ⟨c, rest, rfl, digit, -⟩ := isNumeral_cons numeral
    refine .inl fun text _ => lifetime_other kind ?_ _
    rintro rfl
    cases digit
  | quoted quoted =>
    obtain ⟨body, rfl, -⟩ := isQuoted_split quoted
    exact .inl fun text _ => lifetime_other kind (by decide) _
  | mark member =>
    obtain ⟨c, rest, same, head⟩ := typeMarks_head member
    rw [same]
    refine .inl fun text _ => lifetime_other kind ?_ _
    rintro rfl
    exact absurd head (by decide)

/-- Metavariables settle every token, as none is one. -/
theorem metavariable_settles (shape : TokenShape token) : Settles metavariable token := by
  have other : ∃ c rest, token = c :: rest ∧ c ≠ '$' := by
    cases shape with
    | name named =>
      obtain ⟨c, rest, rfl, start⟩ := isName_head named
      refine ⟨c, rest, rfl, ?_⟩
      rintro rfl
      exact absurd start (by decide)
    | lifetime => exact ⟨_, _, rfl, by decide⟩
    | numeral numeral =>
      obtain ⟨c, rest, rfl, digit, -⟩ := isNumeral_cons numeral
      refine ⟨c, rest, rfl, ?_⟩
      rintro rfl
      cases digit
    | quoted quoted =>
      obtain ⟨body, rfl, -⟩ := isQuoted_split quoted
      exact ⟨_, _, rfl, by decide⟩
    | mark member =>
      obtain ⟨c, rest, same, head⟩ := typeMarks_head member
      refine ⟨c, rest, same, ?_⟩
      rintro rfl
      exact absurd head (by decide)
  obtain ⟨c, rest, rfl, differs⟩ := other
  exact .inl fun text _ => metavariable_other differs _

/-- A token of a type is a number, or it begins as none does. -/
theorem TokenShape.numeral_or_other (shape : TokenShape token) :
    isNumeral token = true ∨ ∃ c rest, token = c :: rest ∧ c.isDigit = false := by
  cases shape with
  | name named =>
    obtain ⟨c, rest, rfl, start⟩ := isName_head named
    refine .inr ⟨c, rest, rfl, ?_⟩
    rw [← Bool.not_eq_true]
    intro digit
    rw [isIdentStart_digit digit] at start
    cases start
  | lifetime => exact .inr ⟨_, _, rfl, by decide⟩
  | numeral numeral => exact .inl numeral
  | quoted quoted =>
    obtain ⟨body, rfl, -⟩ := isQuoted_split quoted
    exact .inr ⟨_, _, rfl, by decide⟩
  | mark member =>
    obtain ⟨c, rest, same, head⟩ := typeMarks_head member
    simp only [isMarkHead, Bool.and_eq_true, Bool.not_eq_true'] at head
    exact .inr ⟨c, rest, same, head.1.2⟩

theorem integerLiteral_settles (shape : TokenShape token) : Settles integerLiteral token := by
  rcases shape.numeral_or_other with numeral | ⟨c, rest, rfl, other⟩
  · exact settles_all _ fun text stops =>
      integerLiteral_numeral numeral (stops_numeral numeral stops)
  · exact .inl fun text _ => integerLiteral_other other _

theorem floatLiteral_settles (shape : TokenShape token) : Settles floatLiteral token := by
  rcases shape.numeral_or_other with numeral | ⟨c, rest, rfl, other⟩
  · exact .inl fun text stops => floatLiteral_numeral numeral (stops_numeral numeral stops)
  · exact .inl fun text _ => floatLiteral_other other _

/-- A token of a type is a name, a lifetime or a string, or it begins as no literal with quotes
does. -/
theorem TokenShape.unquoted (shape : TokenShape token) : isName token = true ∨
    (∃ name, token = '\'' :: name ∧ isName name = true) ∨ isQuoted token = true ∨
    ∃ c rest, token = c :: rest ∧ c ∉ ['"', 'b', 'c', 'r', '\''] := by
  have letters : ∀ c ∈ ['b', 'c', 'r'], Text.isIdentStart c = true :=
    forall_mem_of_all (by decide)
  cases shape with
  | name named => exact .inl named
  | lifetime named => exact .inr (.inl ⟨_, rfl, named⟩)
  | numeral numeral =>
    obtain ⟨c, rest, rfl, digit, -⟩ := isNumeral_cons numeral
    refine .inr (.inr (.inr ⟨c, rest, rfl, fun member => ?_⟩))
    have none : ∀ c ∈ ['"', 'b', 'c', 'r', '\''], c.isDigit = false :=
      forall_mem_of_all (by decide)
    rw [none c member] at digit
    cases digit
  | quoted quoted => exact .inr (.inr (.inl quoted))
  | mark member =>
    obtain ⟨c, rest, same, head⟩ := typeMarks_head member
    refine .inr (.inr (.inr ⟨c, rest, same, fun member => ?_⟩))
    have none : ∀ c ∈ ['"', 'b', 'c', 'r', '\''], isMarkHead c = false :=
      forall_mem_of_all (by decide)
    rw [none c member] at head
    cases head

theorem stringLiteral_settles (shape : TokenShape token) : Settles stringLiteral token := by
  rcases shape.unquoted with named | ⟨name, rfl, -⟩ | quoted | ⟨c, rest, rfl, other⟩
  · exact .inl fun text stops => stringLiteral_name named (stops_name named stops)
  · exact .inl fun text _ => stringLiteral_other (by decide) _
  · exact settles_all _ fun text _ => stringLiteral_quoted quoted
  · refine .inl fun text _ => stringLiteral_other (fun member => other ?_) _
    simp only [List.mem_cons, List.not_mem_nil, or_false] at member ⊢
    tauto

theorem rawStringLiteral_settles (shape : TokenShape token) : Settles rawStringLiteral token := by
  rcases shape.unquoted with named | ⟨name, rfl, -⟩ | quoted | ⟨c, rest, rfl, other⟩
  · exact .inl fun text stops => rawStringLiteral_name named (stops_name named stops)
  · exact .inl fun text _ => rawStringLiteral_other (by decide) _
  · obtain ⟨body, rfl, -⟩ := isQuoted_split quoted
    exact .inl fun text _ => rawStringLiteral_other (by decide) _
  · refine .inl fun text _ => rawStringLiteral_other (fun member => other ?_) _
    simp only [List.mem_cons, List.not_mem_nil, or_false] at member ⊢
    tauto

theorem charLiteral_settles (shape : TokenShape token) : Settles charLiteral token := by
  rcases shape.unquoted with named | ⟨name, rfl, named⟩ | quoted | ⟨c, rest, rfl, other⟩
  · exact .inl fun text stops => charLiteral_name named (stops_name named stops)
  · exact .inl fun text stops => charLiteral_lifetime named (stops_lifetime named stops)
  · obtain ⟨body, rfl, -⟩ := isQuoted_split quoted
    exact .inl fun text _ => charLiteral_eq_none (by simp) (by simp)
  · simp only [List.mem_cons, List.not_mem_nil, or_false, not_or] at other
    exact .inl fun text _ => charLiteral_eq_none (by simp [other]) (by simp [other])

/-- The marks that are looked for where a type is read, each with the characters that would make it
a longer one. -/
def typeScans : List (String × String) :=
  [("&", ""), ("*", ""), ("(", ""), (")", ""), ("[", ""), ("]", ""), ("<", ""), (">", ""),
    (",", ""), (";", ""), (":", ""), (":", ":"), ("::", ""), ("+", ""), ("+", "="), ("->", ""),
    ("=", "=>"), ("!", "="), ("?", ""), ("-", ""), ("...", ""), ("..=", ""), ("..", ".="),
    ("|", "|="), ("@", "")]

theorem mark_other {mark longer : String} {a c : Char} {more : List Char}
    (head : mark.toList = a :: more) (differ : a ≠ c) (rest : List Char) :
    Grammar.mark mark longer (c :: rest) = none := by
  simp [Grammar.mark, head, dropFront?, differ]

/-- Every mark that types are scanned for settles every token. -/
theorem typeScans_settle {mark longer : String} (scanned : (mark, longer) ∈ typeScans)
    (shape : TokenShape token) : Settles (Grammar.mark mark longer) token := by
  have heads : ∀ scanned ∈ typeScans, scanned.1.toList.head?.any isMarkHead = true := by
    decide
  have head := heads _ scanned
  obtain ⟨a, more, front⟩ : ∃ a more, mark.toList = a :: more := by
    cases front : mark.toList with
    | nil => simp [front] at head
    | cons a more => exact ⟨a, more, rfl⟩
  have isHead : isMarkHead a = true := by simpa [front] using head
  cases shape with
  | name named =>
    obtain ⟨c, rest, rfl, start⟩ := isName_head named
    refine .inl fun text _ => mark_other front ?_ _
    rintro rfl
    rw [isMarkHead_ident isHead] at start
    cases start
  | lifetime named =>
    refine .inl fun text _ => mark_other front ?_ _
    rintro rfl
    exact absurd isHead (by decide)
  | numeral numeral =>
    obtain ⟨c, rest, rfl, digit, -⟩ := isNumeral_cons numeral
    refine .inl fun text _ => mark_other front ?_ _
    rintro rfl
    simp [isMarkHead, digit] at isHead
  | quoted quoted =>
    obtain ⟨body, rfl, -⟩ := isQuoted_split quoted
    refine .inl fun text _ => mark_other front ?_ _
    rintro rfl
    exact absurd isHead (by decide)
  | @mark token member =>
    have settled : ∀ token ∈ typeMarks, ∀ scanned ∈ typeScans,
        settledMark token.toList scanned.1 scanned.2 = true := by decide
    exact mark_settles (settled token member _ scanned)

end Settles

end CrateSurface.Grammar
