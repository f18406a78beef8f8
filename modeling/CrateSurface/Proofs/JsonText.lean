import CrateSurface.Json.Reader
import CrateSurface.Json.Writer
import CrateSurface.Proofs.DecimalText

namespace CrateSurface.Json

/-- A value without a number that is written with a point or an exponent. -/
inductive FloatFree : Json → Prop
  | null : FloatFree .null
  | bool (b : Bool) : FloatFree (.bool b)
  | int (n : Int) : FloatFree (.int n)
  | str (s : String) : FloatFree (.str s)
  | arr {items : List Json} : (∀ item ∈ items, FloatFree item) → FloatFree (.arr items)
  | obj {members : List (String × Json)} : (∀ m ∈ members, FloatFree m.2) →
      FloatFree (.obj members)

/-- What holds of every value that was read: its integers are within the limit of digits, and no
object has two members of one key. -/
inductive Legible : Json → Prop
  | null : Legible .null
  | bool (b : Bool) : Legible (.bool b)
  | int {n : Int} : (natText n.natAbs).length ≤ integerDigitLimit → Legible (.int n)
  | float (x : Binary64) : Legible (.float x)
  | str (s : String) : Legible (.str s)
  | arr {items : List Json} : (∀ item ∈ items, Legible item) → Legible (.arr items)
  | obj {members : List (String × Json)} : (members.map Prod.fst).Nodup →
      (∀ m ∈ members, Legible m.2) → Legible (.obj members)

theorem allFiniteItems_iff {items : List Json} :
    allFiniteItems items = true ↔ ∀ item ∈ items, item.allFinite = true := by
  induction items with
  | nil => simp [allFiniteItems]
  | cons item items ih => simp [allFiniteItems, ih]

theorem allFiniteMembers_iff {members : List (String × Json)} :
    allFiniteMembers members = true ↔ ∀ m ∈ members, m.2.allFinite = true := by
  induction members with
  | nil => simp [allFiniteMembers]
  | cons m members ih =>
    rw [allFiniteMembers, Bool.and_eq_true, ih, List.forall_mem_cons]

theorem FloatFree.allFinite {value : Json} (plain : value.FloatFree) : value.allFinite = true := by
  induction plain with
  | null => rfl
  | bool b => rfl
  | int n => rfl
  | str s => rfl
  | arr _ ih => exact allFiniteItems_iff.mpr ih
  | obj _ ih => exact allFiniteMembers_iff.mpr ih

section Strings

theorem hexValue?_hexDigit {d : Nat} (small : d < 16) : hexValue? (Text.hexDigit d) = some d := by
  have all : ∀ d < 16, hexValue? (Text.hexDigit d) = some d := by decide
  exact all d small

/-- Four digits that were written in hexadecimal are read back. -/
theorem fourHex?_hexDigits {n : Nat} (small : n < 0x10000) (next : Char) (rest : List Char) :
    fourHex? (Text.hexDigits 4 n ++ next :: rest) = some (n, next :: rest) := by
  simp only [Text.hexDigits, List.nil_append, List.cons_append, fourHex?]
  rw [hexValue?_hexDigit (Nat.mod_lt _ (by decide)), hexValue?_hexDigit (Nat.mod_lt _ (by decide)),
    hexValue?_hexDigit (Nat.mod_lt _ (by decide)), hexValue?_hexDigit (Nat.mod_lt _ (by decide))]
  have value : ((n / 16 / 16 / 16 % 16 * 16 + n / 16 / 16 % 16) * 16 + n / 16 % 16) * 16 + n % 16 = n := by
    omega
  simp only [bind, Option.bind, pure, value]

theorem codePoint_toNat (c : Char) : codePoint c.toNat = c := by
  have valid : c.toNat.isValidChar := c.valid
  rw [codePoint, if_pos valid, Char.ofNat_toNat]

/-- What an escape of characters needs so that strings can be read back. -/
def ReadsBack (char : Char → List Char) : Prop :=
  ∀ c start fuel rest, rest ≠ [] →
    readChars start (fuel + 1) (char c ++ rest) =
      (readChars start fuel rest).map fun read => (c :: read.1, read.2)

section Escapes

variable {start rest after : List Char} {c e : Char} {fuel : Nat}

/-- A short escape is a backslash and the letter that stands for the character. -/
theorem shortEscape?_eq_some {escape : List Char} (short : shortEscape? c = some escape) :
    ∃ e, escape = ['\\', e] ∧ simpleEscape? e = some c := by
  unfold shortEscape? at short
  split at short
  all_goals first | (cases short; exact ⟨_, rfl, rfl⟩) | cases short

/-- A quote and a backslash have short escapes. -/
theorem ne_of_shortEscape?_eq_none (none : shortEscape? c = none) : c ≠ '"' ∧ c ≠ '\\' := by
  constructor
  · rintro rfl
    cases none
  · rintro rfl
    cases none

theorem readChars_simple (simple : simpleEscape? e = some c) :
    readChars start (fuel + 1) ('\\' :: e :: rest) =
      (readChars start fuel rest).map fun read => (c :: read.1, read.2) := by
  have other : e ≠ 'u' := by
    rintro rfl
    cases simple
  rw [readChars]
  · simp only [simple]
    cases readChars start fuel rest <;> rfl
  · exact other

theorem readChars_unicode (read : readUnicode ('u' :: rest) rest = .ok (c, after)) :
    readChars start (fuel + 1) ('\\' :: 'u' :: rest) =
      (readChars start fuel after).map fun read => (c :: read.1, read.2) := by
  rw [readChars, read]
  change (readChars start fuel after >>= fun read => pure (c :: read.1, read.2)) = _
  cases readChars start fuel after <;> rfl

/-- Any other visible character stands for itself. -/
theorem readChars_plain (quote : c ≠ '"') (backslash : c ≠ '\\') (visible : 0x20 ≤ c.toNat) :
    readChars start (fuel + 1) (c :: rest) =
      (readChars start fuel rest).map fun read => (c :: read.1, read.2) := by
  have shown : ¬ c.toNat < 0x20 := by omega
  rw [readChars, if_neg shown]
  · cases readChars start fuel rest <;> rfl
  · exact quote
  · exact backslash

end Escapes

/-- A character of the basic plane is read back from its four digits. -/
theorem readUnicode_hexDigits {c next : Char} {rest start : List Char} (small : c.toNat < 0x10000) :
    readUnicode start (Text.hexDigits 4 c.toNat ++ next :: rest) = .ok (c, next :: rest) := by
  have whole : c.toNat.isValidChar := c.valid
  have low : isHighSurrogate c.toNat = false := by
    simp only [isHighSurrogate, Bool.and_eq_false_iff, decide_eq_false_iff_not]
    unfold Nat.isValidChar at whole
    omega
  rw [readUnicode, fourHex?_hexDigits small]
  simp only [low, codePoint_toNat]

theorem plainChar_readsBack : ReadsBack plainChar := by
  intro c start fuel rest more
  unfold plainChar
  cases short : shortEscape? c with
  | some escape =>
    obtain ⟨e, rfl, simple⟩ := shortEscape?_eq_some short
    exact readChars_simple simple
  | none =>
    obtain ⟨quote, backslash⟩ := ne_of_shortEscape?_eq_none short
    obtain ⟨next, rest, rfl⟩ := List.exists_cons_of_ne_nil more
    by_cases control : c.toNat < 0x20
    · simp only [if_pos control, unicodeEscape, List.cons_append]
      exact readChars_unicode (readUnicode_hexDigits (by omega))
    · simp only [if_neg control, List.cons_append, List.nil_append]
      exact readChars_plain quote backslash (by omega)

/-- A pair of surrogates is read as the one character that they stand for. -/
theorem readUnicode_surrogates {high low : Nat} {next : Char} {rest start : List Char}
    (isHigh : isHighSurrogate high = true) (isLow : isLowSurrogate low = true) :
    readUnicode start (Text.hexDigits 4 high ++ '\\' :: 'u' :: (Text.hexDigits 4 low ++ next :: rest)) =
      .ok (codePoint (joinSurrogates high low), next :: rest) := by
  have bounds := isHigh
  have lowBounds := isLow
  simp only [isHighSurrogate, isLowSurrogate, Bool.and_eq_true, decide_eq_true_eq] at bounds lowBounds
  have long : ¬ (Text.hexDigits 4 low ++ next :: rest).length < 5 := by
    have four : (Text.hexDigits 4 low).length = 4 := rfl
    rw [List.length_append, List.length_cons, four]
    omega
  rw [readUnicode, fourHex?_hexDigits (by omega)]
  simp only [isHigh]
  rw [if_neg long, fourHex?_hexDigits (by omega)]
  simp only [isLow, if_true]

/-- A code point beyond the first plane falls into two surrogates, which stand for it together. -/
theorem surrogates_of_large {n : Nat} (valid : n.isValidChar) (large : 0x10000 ≤ n) :
    isHighSurrogate (0xd800 + (n - 0x10000) / 0x400) = true ∧
      isLowSurrogate (0xdc00 + (n - 0x10000) % 0x400) = true ∧
      joinSurrogates (0xd800 + (n - 0x10000) / 0x400) (0xdc00 + (n - 0x10000) % 0x400) = n := by
  obtain ⟨m, rfl⟩ := Nat.exists_eq_add_of_le large
  have bound : m < 0x100000 := by
    unfold Nat.isValidChar at valid
    omega
  rw [Nat.add_sub_cancel_left]
  refine ⟨?_, ?_, ?_⟩
  · simp only [isHighSurrogate, Bool.and_eq_true, decide_eq_true_eq]
    omega
  · simp only [isLowSurrogate, Bool.and_eq_true, decide_eq_true_eq]
    omega
  · unfold joinSurrogates
    omega

theorem asciiChar_readsBack : ReadsBack asciiChar := by
  intro c start fuel rest more
  unfold asciiChar
  cases short : shortEscape? c with
  | some escape =>
    obtain ⟨e, rfl, simple⟩ := shortEscape?_eq_some short
    exact readChars_simple simple
  | none =>
    obtain ⟨quote, backslash⟩ := ne_of_shortEscape?_eq_none short
    obtain ⟨next, rest, rfl⟩ := List.exists_cons_of_ne_nil more
    by_cases printable : 0x20 ≤ c.toNat ∧ c.toNat < 0x7f
    · simp only [if_pos printable, List.cons_append, List.nil_append]
      exact readChars_plain quote backslash printable.1
    · by_cases small : c.toNat < 0x10000
      · simp only [if_neg printable, if_pos small, unicodeEscape, List.cons_append]
        exact readChars_unicode (readUnicode_hexDigits small)
      · simp only [if_neg printable, if_neg small, unicodeEscape, List.cons_append, List.append_assoc]
        have whole : c.toNat.isValidChar := c.valid
        obtain ⟨isHigh, isLow, joined⟩ := surrogates_of_large whole (Nat.not_lt.mp small)
        refine readChars_unicode ?_
        rw [readUnicode_surrogates isHigh isLow, joined, codePoint_toNat]

/-- The characters of a string are read back up to its closing quote; every one of them pays for a
step. -/
theorem readChars_flatMap {char : Char → List Char} (back : ReadsBack char) (start : List Char)
    (cs rest : List Char) : ∀ fuel, cs.length < fuel →
      readChars start fuel (cs.flatMap char ++ '"' :: rest) = .ok (cs, rest) := by
  induction cs with
  | nil =>
    intro fuel bound
    cases fuel with
    | zero => omega
    | succ fuel => rfl
  | cons c cs ih =>
    intro fuel bound
    cases fuel with
    | zero => omega
    | succ fuel =>
      rw [List.flatMap_cons, List.append_assoc, back c start fuel _ (by simp),
        ih fuel (Nat.lt_of_succ_lt_succ bound)]
      rfl

theorem ReadsBack.ne_nil {char : Char → List Char} (back : ReadsBack char) (c : Char) :
    char c ≠ [] := by
  intro empty
  have read := back c [] 1 ['"'] (by simp)
  rw [empty] at read
  cases read

/-- A written string is at least as long as the string. -/
theorem ReadsBack.length_le {char : Char → List Char} (back : ReadsBack char) (cs : List Char) :
    cs.length ≤ (cs.flatMap char).length := by
  induction cs with
  | nil => exact Nat.le_refl _
  | cons c cs ih =>
    have long := List.length_pos_iff.mpr (back.ne_nil c)
    rw [List.flatMap_cons, List.length_append, List.length_cons]
    omega

/-- A string is read back in any style that reads back its characters. -/
theorem readString_flatMap {char : Char → List Char} (back : ReadsBack char) (s : String)
    (rest : List Char) : readString (s.toList.flatMap char ++ '"' :: rest) = .ok (s, rest) := by
  have room : s.toList.length < (s.toList.flatMap char ++ '"' :: rest).length + 1 := by
    have long := back.length_le s.toList
    rw [List.length_append]
    omega
  rw [readString, readChars_flatMap back _ _ _ _ room]
  simp only [bind, Except.bind, pure, Except.pure, String.ofList_toList]

end Strings

section Numbers

/-- A text that no number runs on into. -/
def Ends (rest : List Char) : Prop :=
  ∀ c ∈ rest.head?, c.isDigit = false ∧ c ≠ '.' ∧ c ≠ 'e' ∧ c ≠ 'E'

theorem ends_nil : Ends [] := by
  intro c member
  cases member

theorem ends_cons {c : Char} (other : c.isDigit = false ∧ c ≠ '.' ∧ c ≠ 'e' ∧ c ≠ 'E')
    (rest : List Char) : Ends (c :: rest) := by
  intro d member
  cases member
  exact other

variable {rest : List Char}

theorem Ends.takeWhile_isDigit (ends : Ends rest) : rest.takeWhile Char.isDigit = [] := by
  cases rest with
  | nil => rfl
  | cons c rest => rw [List.takeWhile_cons, (ends c rfl).1]; rfl

theorem Ends.dropWhile_isDigit (ends : Ends rest) : rest.dropWhile Char.isDigit = rest := by
  cases rest with
  | nil => rfl
  | cons c rest => rw [List.dropWhile_cons, (ends c rfl).1]; rfl

theorem Ends.readFraction (ends : Ends rest) : readFraction rest = ([], rest) := by
  cases rest with
  | nil => rfl
  | cons c rest =>
    rw [Json.readFraction]
    intro more same
    exact (ends c rfl).2.1 (List.cons.inj same).1

theorem Ends.readExponent? (ends : Ends rest) : readExponent? rest = (none, rest) := by
  cases rest with
  | nil => rfl
  | cons c rest =>
    obtain ⟨_, _, lower, upper⟩ := ends c rfl
    simp only [Json.readExponent?, beq_eq_false_iff_ne.mpr lower, beq_eq_false_iff_ne.mpr upper,
      Bool.or_self, Bool.false_eq_true, if_false]

/-- The digits of a natural number are read back up to where they end. -/
theorem readWhole?_natText (n : Nat) (ends : Ends rest) :
    readWhole? (natText n ++ rest) = some (natText n, rest) := by
  obtain ⟨first, more, text, alone⟩ := natText_head n
  have digits := natText_isDigit n
  rw [text] at digits ⊢
  by_cases zero : first = '0'
  · rw [zero, alone zero]
    rfl
  · have later : ∀ c ∈ more, c.isDigit = true :=
      fun c member => digits c (List.mem_cons_of_mem _ member)
    rw [List.cons_append, readWhole?, if_pos (digits first (List.mem_cons_self ..)),
      List.takeWhile_append_of_pos later, List.dropWhile_append_of_pos later,
      ends.takeWhile_isDigit, ends.dropWhile_isDigit, List.append_nil]
    exact zero

/-- A natural number is read back if it has no more digits than an integer may have. -/
theorem readMagnitude_natText {n : Nat} (short : (natText n).length ≤ integerDigitLimit)
    (negative : Bool) (start : List Char) (ends : Ends rest) :
    readMagnitude negative start (natText n ++ rest) =
      .ok (.int (if negative then -(n : Int) else n), rest) := by
  have within : ¬ (natText n).length > integerDigitLimit := by omega
  simp only [readMagnitude, readWhole?_natText n ends, ends.readFraction, ends.readExponent?,
    if_neg within, asciiNumber_natText]

theorem readNumber_intText {n : Int} (short : (natText n.natAbs).length ≤ integerDigitLimit)
    (ends : Ends rest) : readNumber (intText n ++ rest) = .ok (.int n, rest) := by
  cases n with
  | ofNat n =>
    obtain ⟨first, more, text, _⟩ := natText_head n
    have digit := natText_isDigit n first (by rw [text]; exact List.mem_cons_self ..)
    have unsigned : first ≠ '-' := by
      rintro rfl
      cases digit
    have read := readMagnitude_natText short false (natText n ++ rest) ends
    rw [intText, readNumber]
    · exact read
    · intro other same
      rw [text] at same
      cases same
      exact unsigned rfl
  | negSucc n =>
    exact readMagnitude_natText short true _ ends

theorem word?_eq_none (word : String) {first c : Char} {letters cs : List Char}
    (spelled : word.toList = first :: letters) (different : first ≠ c) :
    word? word (c :: cs) = none := by
  have apart : (first == c) = false := beq_eq_false_iff_ne.mpr different
  rw [word?, spelled, if_neg (by simp [List.isPrefixOf, apart])]

theorem ne_of_isDigit {c d : Char} (digit : d.isDigit = true) (other : c.isDigit = false) :
    c ≠ d := by
  rintro rfl
  rw [other] at digit
  cases digit

/-- A number begins with a digit, or with a sign and a digit. -/
theorem intText_head (n : Int) :
    ∃ c cs, intText n = c :: cs ∧
      (c.isDigit = true ∨ c = '-' ∧ ∃ d ds, cs = d :: ds ∧ d.isDigit = true) := by
  have digit : ∀ m : Nat, ∃ d ds, natText m = d :: ds ∧ d.isDigit = true := by
    intro m
    obtain ⟨d, ds, text, _⟩ := natText_head m
    exact ⟨d, ds, text, natText_isDigit m d (by rw [text]; exact List.mem_cons_self ..)⟩
  cases n with
  | ofNat n =>
    obtain ⟨d, ds, text, isDigit⟩ := digit n
    exact ⟨d, ds, text, Or.inl isDigit⟩
  | negSucc n => exact ⟨'-', _, rfl, Or.inr ⟨rfl, digit (n + 1)⟩⟩

/-- A minus and a digit do not begin the word for minus infinity. -/
theorem word?_minusInfinity_eq_none {d : Char} {ds : List Char} (digit : d.isDigit = true) :
    word? "-Infinity" ('-' :: d :: ds) = none := by
  have apart : ('I' == d) = false := beq_eq_false_iff_ne.mpr (ne_of_isDigit digit rfl)
  rw [word?, if_neg]
  simp [List.isPrefixOf, apart]

theorem readPlain_intText {n : Int} (short : (natText n.natAbs).length ≤ integerDigitLimit)
    (ends : Ends rest) : readPlain (intText n ++ rest) = .ok (.int n, rest) := by
  have number := readNumber_intText short ends
  obtain ⟨c, cs, text, shape⟩ := intText_head n
  rw [text, List.cons_append] at number ⊢
  have letter : ∀ first : Char, first.isDigit = false → first ≠ '-' → first ≠ c := by
    intro first noDigit noSign
    rcases shape with digit | ⟨rfl, _⟩
    · exact ne_of_isDigit digit noDigit
    · exact noSign
  have infinite : word? "-Infinity" (c :: (cs ++ rest)) = none := by
    rcases shape with digit | ⟨rfl, d, ds, rfl, digit⟩
    · exact word?_eq_none _ rfl (ne_of_isDigit digit rfl)
    · exact word?_minusInfinity_eq_none digit
  simp only [readPlain, word?_eq_none "null" rfl (letter 'n' rfl (by decide)),
    word?_eq_none "true" rfl (letter 't' rfl (by decide)),
    word?_eq_none "false" rfl (letter 'f' rfl (by decide)),
    word?_eq_none "NaN" rfl (letter 'N' rfl (by decide)),
    word?_eq_none "Infinity" rfl (letter 'I' rfl (by decide)), infinite, number]

end Numbers

section Values

variable {rest : List Char} {fuel : Nat}

theorem skipSpace_cons {c : Char} (visible : isSpace c = false) (rest : List Char) :
    skipSpace (c :: rest) = c :: rest := by
  simp only [skipSpace, List.dropWhile_cons, visible, if_false, Bool.false_eq_true]

theorem skipSpace_append {blanks : List Char} (blank : ∀ c ∈ blanks, isSpace c = true)
    (rest : List Char) : skipSpace (blanks ++ rest) = skipSpace rest :=
  List.dropWhile_append_of_pos blank

/-- No number runs on into blanks. -/
theorem Ends.append {blanks : List Char} (blank : ∀ c ∈ blanks, isSpace c = true)
    (ends : Ends rest) : Ends (blanks ++ rest) := by
  cases blanks with
  | nil => exact ends
  | cons c blanks =>
    refine ends_cons ?_ _
    have space := blank c (List.mem_cons_self ..)
    simp only [isSpace, Bool.or_eq_true, beq_iff_eq] at space
    rcases space with ((rfl | rfl) | rfl) | rfl <;> decide

theorem isSpace_of_isDigit {c : Char} (digit : c.isDigit = true) : isSpace c = false := by
  simp only [isSpace, Bool.or_eq_false_iff, beq_eq_false_iff_ne]
  exact ⟨⟨⟨(ne_of_isDigit digit rfl).symm, (ne_of_isDigit digit rfl).symm⟩,
    (ne_of_isDigit digit rfl).symm⟩, (ne_of_isDigit digit rfl).symm⟩

/-- A member with a new key goes to the end. -/
theorem setMember_of_new {members : List (String × Json)} {key : String}
    (new : key ∉ members.map Prod.fst) (value : Json) :
    setMember members key value = members ++ [(key, value)] := by
  rw [setMember, if_neg]
  intro found
  obtain ⟨m, member, same⟩ := List.any_eq_true.mp found
  exact new (List.mem_map.mpr ⟨m, member, beq_iff_eq.mp same⟩)

/-- An object with distinct keys keeps its members and their order. -/
theorem ofMembers_of_nodup {members : List (String × Json)}
    (distinct : (members.map Prod.fst).Nodup) : ofMembers members = .obj members := by
  have all : ∀ (rest done : List (String × Json)), ((done ++ rest).map Prod.fst).Nodup →
      rest.foldl (fun done m => setMember done m.1 m.2) done = done ++ rest := by
    intro rest
    induction rest with
    | nil => intro done _; rw [List.foldl_nil, List.append_nil]
    | cons m rest ih =>
      intro done distinct
      have new : m.1 ∉ done.map Prod.fst := by
        rw [List.map_append, List.map_cons] at distinct
        intro member
        exact (List.nodup_append.mp distinct).2.2 _ member _ (List.mem_cons_self ..) rfl
      rw [List.foldl_cons, setMember_of_new new, ih _ (by simpa using distinct), List.append_assoc]
      rfl
  rw [ofMembers, all members [] (by simpa using distinct), List.nil_append]

theorem readValue_intText {n : Int} (short : (natText n.natAbs).length ≤ integerDigitLimit)
    (ends : Ends rest) : readValue (fuel + 1) (intText n ++ rest) = .ok (.int n, rest) := by
  have read := readPlain_intText short ends
  obtain ⟨c, cs, text, shape⟩ := intText_head n
  have other : ∀ d : Char, d.isDigit = false → d ≠ '-' → c ≠ d := by
    intro d noDigit noSign
    rcases shape with digit | ⟨rfl, _⟩
    · exact (ne_of_isDigit digit noDigit).symm
    · exact noSign.symm
  rw [text, List.cons_append] at read ⊢
  rw [readValue, read]
  · intro _ same
    exact other '"' rfl (by decide) (List.cons.inj same).1
  · intro _ same
    exact other '\x7b' rfl (by decide) (List.cons.inj same).1
  · intro _ same
    exact other '[' rfl (by decide) (List.cons.inj same).1

theorem readValue_writeString {char : Char → List Char} (back : ReadsBack char) (s : String) :
    readValue (fuel + 1) (writeString char s ++ rest) = .ok (.str s, rest) := by
  simp only [writeString, List.cons_append, List.append_assoc, List.nil_append, readValue,
    readString_flatMap back s rest]
  rfl

end Values

end CrateSurface.Json
