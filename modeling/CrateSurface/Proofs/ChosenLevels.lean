import CrateSurface.Log.Level
import CrateSurface.Proofs.DecimalText
import Mathlib.Data.List.TakeWhile

namespace CrateSurface

namespace Text

section Digits

variable {c : Char} {d : Nat}

/-- A decimal digit stands behind the zero of its script, at its value. -/
theorem exists_zero_of_decimalValue? (found : decimalValue? c = some d) :
    ∃ start ∈ decimalZeros, c.toNat = start + d ∧ d < 10 := by
  obtain ⟨start, member, within⟩ := List.exists_of_findSome?_eq_some found
  split at within
  · cases within
    exact ⟨start, member, by omega, by omega⟩
  · cases within

/-- Whether one of the runs holds all numbers from `first` to below `last`. -/
def holdsRun : List Nat → Nat → Nat → Bool
  | lo :: hi :: rest, first, last => lo ≤ first && (last ≤ hi || holdsRun rest first last)
  | _, _, _ => false

theorem withinBounds_of_holdsRun {bounds : List Nat} {first last n : Nat}
    (holds : holdsRun bounds first last = true) (above : first ≤ n) (below : n < last) :
    withinBounds bounds n = true := by
  fun_induction holdsRun bounds first last with
  | case1 lo hi rest first last ih =>
    obtain ⟨start, run⟩ := Bool.and_eq_true_iff.mp holds
    have started : ¬ n < lo := by
      have := of_decide_eq_true start
      omega
    rw [withinBounds, if_neg started, Bool.or_eq_true_iff, decide_eq_true_iff]
    rcases Bool.or_eq_true_iff.mp run with here | later
    · have := of_decide_eq_true here
      exact Or.inl (by omega)
    · exact Or.inr (ih later above below)
  | case2 => cases holds

/-- The ten digits of every script are digits. -/
theorem decimalZeros_run : ∀ start ∈ decimalZeros, holdsRun digitBounds start (start + 10) = true := by
  decide +kernel

/-- Every decimal digit is a digit. The converse fails: `²` and `①` are digits as well. -/
theorem isDigit_of_isDecimal (decimal : isDecimal c = true) : isDigit c = true := by
  obtain ⟨d, found⟩ := Option.isSome_iff_exists.mp decimal
  obtain ⟨start, member, place, small⟩ := exists_zero_of_decimalValue? found
  exact withinBounds_of_holdsRun (decimalZeros_run start member) (by omega) (by omega)

theorem isBlank_of_isDigit (digit : isDigit c = true) : isBlank c = false := by
  have outside : ∀ n ∈ blanks, withinBounds digitBounds n = false := by decide
  refine Bool.eq_false_iff.mpr ?_
  intro blank
  have member : c.toNat ∈ blanks := List.contains_iff_mem.mp blank
  rw [isDigit, outside _ member] at digit
  cases digit

theorem not_letter_of_isDigit (digit : isDigit c = true) : ¬ (65 ≤ c.toNat ∧ c.toNat ≤ 122) := by
  have outside : ∀ i < 58, withinBounds digitBounds (65 + i) = false := by decide
  rintro ⟨above, below⟩
  have gap := outside (c.toNat - 65) (by omega)
  rw [Nat.add_sub_cancel' above] at gap
  rw [isDigit, gap] at digit
  cases digit

theorem isDigitOf_ten (c : Char) : isDigitOf 10 c = isDecimal c := by
  unfold isDigitOf isDecimal digitValue?
  cases found : decimalValue? c with
  | some d =>
    obtain ⟨_, _, _, small⟩ := exists_zero_of_decimalValue? found
    simp [small]
  | none =>
    dsimp only
    split
    · simp
    · split <;> simp

end Digits

section Stripped

variable {cs : List Char} {c : Char}

/-- A text without blanks is not stripped of anything. -/
theorem stripList_of_solid (solid : ∀ c ∈ cs, isBlank c = false) : stripList cs = cs := by
  have kept : ∀ xs : List Char, (∀ c ∈ xs, isBlank c = false) → xs.dropWhile isBlank = xs := by
    intro xs solid
    refine List.dropWhile_eq_self_iff.mpr fun inside => ?_
    rw [solid _ (List.getElem_mem inside)]
    exact Bool.false_ne_true
  rw [stripList, kept cs solid, kept _ fun c member => solid c (List.mem_reverse.mp member),
    List.reverse_reverse]

theorem mem_dropWhile_of_not {p : Char → Bool} (other : p c = false) :
    ∀ {xs : List Char}, c ∈ xs → c ∈ xs.dropWhile p := by
  intro xs
  induction xs with
  | nil => exact id
  | cons x xs ih =>
    intro member
    rw [List.dropWhile_cons]
    split
    · rename_i passed
      rcases List.mem_cons.mp member with rfl | member
      · rw [other] at passed
        cases passed
      · exact ih member
    · exact member

/-- Stripping takes blanks only. -/
theorem mem_stripList (solid : isBlank c = false) (member : c ∈ cs) : c ∈ stripList cs := by
  refine List.mem_reverse.mpr (mem_dropWhile_of_not solid ?_)
  exact List.mem_reverse.mpr (mem_dropWhile_of_not solid member)

/-- A text is stripped at both ends, character by character. -/
theorem strip_toList (text : String) : (strip text).toList = stripList text.toList :=
  String.toList_ofList

end Stripped

section Numerals

variable {text : List Char} {n : Nat}

/-- A fold over digits comes to a number if and only if every character is decimal, and then to its
value. -/
theorem foldlM_decimal_eq_some_iff : ∀ {start : Nat},
    text.foldlM (fun n c => (decimalValue? c).map (10 * n + ·)) start = some n ↔
      (∀ c ∈ text, isDecimal c = true) ∧
        text.foldl (fun n c => 10 * n + (digitValue? c).getD 0) start = n := by
  induction text with
  | nil =>
    intro start
    simp
  | cons c text ih =>
    intro start
    rw [List.foldlM_cons, List.foldl_cons, List.forall_mem_cons]
    cases found : decimalValue? c with
    | none => simp [isDecimal, found]
    | some d =>
      have value : digitValue? c = some d := by simp [digitValue?, found]
      simpa [isDecimal, found, value] using ih

/-- Decimal digits denote the number that they are read as, and nothing else denotes one. -/
theorem decimalNumber?_eq_some_iff :
    decimalNumber? text = some n ↔ (∀ c ∈ text, isDecimal c = true) ∧ numberOf 10 text = n :=
  foldlM_decimal_eq_some_iff

theorem dropMark_ten (text : List Char) : dropMark 10 text = text := by
  unfold dropMark
  dsimp only
  split
  · simp
  · rfl

theorem dropSign_of_digits (digits : ∀ c ∈ text, isDigit c = true) :
    dropSign text = (false, text) := by
  unfold dropSign
  split
  · exact absurd (digits '-' (List.mem_cons_self ..)) (by decide)
  · exact absurd (digits '+' (List.mem_cons_self ..)) (by decide)
  · rfl

/-- Digits are read up to the first one that is not decimal. -/
theorem readInteger_of_digits (digits : ∀ c ∈ text, isDigit c = true) :
    readInteger 10 text =
      if integerDigitLimit < (text.takeWhile isDecimal).length then
        .error (.tooLong (text.takeWhile isDecimal).length)
      else if (text.takeWhile isDecimal).isEmpty || (text.takeWhile isDecimal).length != text.length
        then .error (.malformed 10 (text.map .char))
      else .ok (numberOf 10 (text.takeWhile isDecimal)) := by
  have stripped : stripList text = text :=
    stripList_of_solid fun c member => isBlank_of_isDigit (digits c member)
  have test : isDigitOf 10 = isDecimal := funext isDigitOf_ten
  unfold readInteger
  rw [stripped, dropSign_of_digits digits]
  dsimp only
  rw [dropMark_ten, test]
  simp

theorem takeWhile_isDecimal (decimal : ∀ c ∈ text, isDecimal c = true) :
    text.takeWhile isDecimal = text :=
  List.takeWhile_eq_self_iff.mpr decimal

/-- A numeral that is not too long is read as its number. -/
theorem readInteger_of_numeral (nonempty : text ≠ []) (numeral : decimalNumber? text = some n)
    (short : text.length ≤ integerDigitLimit) : readInteger 10 text = .ok n := by
  obtain ⟨decimal, rfl⟩ := decimalNumber?_eq_some_iff.mp numeral
  rw [readInteger_of_digits fun c member => isDigit_of_isDecimal (decimal c member),
    takeWhile_isDecimal decimal, if_neg (by omega)]
  simp [nonempty]

/-- A numeral with too many digits is refused. -/
theorem readInteger_of_long (decimal : ∀ c ∈ text, isDecimal c = true)
    (long : integerDigitLimit < text.length) :
    readInteger 10 text = .error (.tooLong text.length) := by
  rw [readInteger_of_digits fun c member => isDigit_of_isDecimal (decimal c member),
    takeWhile_isDecimal decimal, if_pos long]

/-- Digits of which one has no decimal value are refused. -/
theorem readInteger_of_other (digits : ∀ c ∈ text, isDigit c = true)
    (other : ∃ c ∈ text, isDecimal c = false) : ∃ fault, readInteger 10 text = .error fault := by
  have shorter : (text.takeWhile isDecimal).length ≠ text.length := by
    intro same
    have whole := (List.takeWhile_prefix isDecimal).eq_of_length same
    obtain ⟨c, member, notDecimal⟩ := other
    rw [List.takeWhile_eq_self_iff.mp whole c member] at notDecimal
    cases notDecimal
  rw [readInteger_of_digits digits]
  split
  · exact ⟨_, rfl⟩
  · rw [if_pos (by simp [shorter])]
    exact ⟨_, rfl⟩

end Numerals

section Upper

variable {c : Char}

/-- A digit is its own upper case. -/
theorem upperChar_of_isDigit (digit : isDigit c = true) : upperChar c = [c] := by
  have caseless : c.toUpper = c := by
    refine dif_neg ?_
    rintro ⟨above, below⟩
    exact not_letter_of_isDigit digit ⟨Nat.le_trans (by decide) above, below⟩
  unfold upperChar
  split
  -- None of the ten letters whose upper-case form is written in ASCII letters is a digit.
  iterate 10 exact absurd digit (by decide)
  rw [caseless]

theorem mem_upper {text : String} (kept : upperChar c = [c]) (member : c ∈ text.toList) :
    c ∈ (upper text).toList := by
  rw [upper, String.toList_ofList]
  refine List.mem_flatMap.mpr ⟨c, member, ?_⟩
  rw [kept]
  exact List.mem_singleton_self c

end Upper

end Text

namespace Log

/-- The level that a value denotes. A number, also a truth value, is its own level; a text denotes
one as a decimal numeral or as the name of a level, whatever blanks stand around it. -/
inductive Denotes : Value → LevelChoice → Prop
  | truth (b : Bool) : Denotes (.bool b) (.flag b)
  | number (n : Int) : Denotes (.int n) (.number n)
  | numeral {text : String} {n : Nat} : (Text.strip text).toList ≠ [] →
      Text.decimalNumber? (Text.strip text).toList = some n → Denotes (.str text) (.number n)
  | name {text : String} {level : Level} :
      (Text.upper (Text.strip text), level) ∈ levelNames → Denotes (.str text) (.number level)

/-- A value that no level can be chosen by: a text of digits that are not all decimal or that are
too many, or a value that cannot be written as a text. -/
inductive IsRefused : Value → Prop
  | notDecimal {text : String} : (∀ c ∈ (Text.strip text).toList, Text.isDigit c = true) →
      (∃ c ∈ (Text.strip text).toList, Text.isDecimal c = false) → IsRefused (.str text)
  | tooLong {text : String} {n : Nat} : Text.decimalNumber? (Text.strip text).toList = some n →
      integerDigitLimit < (Text.strip text).toList.length → IsRefused (.str text)
  | unwritable {value : Value} : (∀ n, value ≠ .int n) → value.holdsLongInteger = true →
      IsRefused value

section Texts

variable {text : String} {fallback : LevelChoice} {c : Char}

theorem mem_of_lookup {α β : Type} [BEq α] [LawfulBEq α] {entries : List (α × β)} {key : α} {value : β}
    (found : entries.lookup key = some value) : (key, value) ∈ entries := by
  obtain ⟨before, after, rfl, _⟩ := List.lookup_eq_some_iff.mp found
  exact List.mem_append_right before (List.mem_cons_self ..)

/-- No name of a level stands in the table twice. -/
theorem levelNames_lookup : ∀ entry ∈ levelNames, levelNames.lookup entry.1 = some entry.2 := by
  decide

/-- The names of levels are of capital letters. -/
theorem levelNames_letters : ∀ entry ∈ levelNames, ∀ c ∈ entry.1.toList,
    65 ≤ c.toNat ∧ c.toNat ≤ 90 := by
  have all : ∀ entry ∈ levelNames,
      (entry.1.toList.all fun c => decide (65 ≤ c.toNat ∧ c.toNat ≤ 90)) = true := by decide
  exact fun entry member => forall_mem_of_all (all entry member)

/-- A text with a foreign character names no level. -/
theorem lookup_upper_eq_none (kept : Text.upperChar c = [c])
    (foreign : ¬ (65 ≤ c.toNat ∧ c.toNat ≤ 90)) (member : c ∈ text.toList) :
    levelNames.lookup (Text.upper text) = none := by
  refine Option.eq_none_iff_forall_ne_some.mpr ?_
  intro level found
  have named : (Text.upper text, level) ∈ levelNames := mem_of_lookup found
  exact foreign (levelNames_letters _ named c (Text.mem_upper kept member))

/-- A text of digits is read as an integer, whatever comes of it. -/
theorem levelOfText_of_digits (nonempty : (Text.strip text).toList ≠ [])
    (digits : ∀ c ∈ (Text.strip text).toList, Text.isDigit c = true) :
    levelOfText text fallback = (readInteger 10 (Text.strip text).toList).map .number := by
  have given : Text.strip text ≠ "" := fun empty => nonempty (by rw [empty]; rfl)
  have all : (Text.strip text).toList.all Text.isDigit = true := List.all_eq_true.mpr digits
  simp [levelOfText, given, all]

theorem levelOfText_of_other (other : (Text.strip text).toList = [] ∨
      ∃ c ∈ (Text.strip text).toList, Text.isDigit c = false) :
    levelOfText text fallback =
      .ok (((levelNames.lookup (Text.upper (Text.strip text))).map .number).getD fallback) := by
  unfold levelOfText
  refine if_neg ?_
  rw [Bool.and_eq_true_iff]
  rintro ⟨given, all⟩
  rcases other with empty | ⟨c, member, notDigit⟩
  · rw [String.toList_eq_nil_iff.mp empty] at given
    cases given
  · rw [List.all_eq_true.mp all c member] at notDigit
    cases notDigit

theorem isDigit_of_numeral {n : Nat}
    (numeral : Text.decimalNumber? (Text.strip text).toList = some n) :
    ∀ c ∈ (Text.strip text).toList, Text.isDigit c = true :=
  fun c member =>
    Text.isDigit_of_isDecimal ((Text.decimalNumber?_eq_some_iff.mp numeral).1 c member)

theorem chooseLevel_str (text : String) (fallback : LevelChoice) :
    chooseLevel (.str text) fallback = levelOfText text fallback := by
  by_cases empty : text = ""
  · rw [empty]
    rfl
  · unfold chooseLevel
    split
    · cases ‹Value.str text = .null›
    · exact absurd (Value.str.inj ‹_›) empty
    · cases ‹Value.str text = .bool _›
    · cases ‹Value.str text = .int _›
    · cases ‹Value.str text = .illFormed _›
    · have written : (Value.str text).written = .ok text := rfl
      simp only [written, bind, Except.bind]

/-- The name of a level chooses it, in either case and with blanks around it. -/
theorem levelOfText_of_name {level : Level}
    (named : (Text.upper (Text.strip text), level) ∈ levelNames) :
    levelOfText text fallback = .ok (.number level) := by
  have found := levelNames_lookup _ named
  -- A digit in the text would still be there in upper case, and no name has one.
  have other : ∀ c ∈ (Text.strip text).toList, Text.isDigit c = false := by
    intro c member
    refine Bool.eq_false_iff.mpr fun digit => ?_
    have foreign : ¬ (65 ≤ c.toNat ∧ c.toNat ≤ 90) := by
      have := Text.not_letter_of_isDigit digit
      omega
    rw [lookup_upper_eq_none (Text.upperChar_of_isDigit digit) foreign member] at found
    cases found
  rw [levelOfText_of_other, found]
  · rfl
  · cases stripped : (Text.strip text).toList with
    | nil => exact Or.inl rfl
    | cons c rest =>
      rw [stripped] at other
      exact Or.inr ⟨c, List.mem_cons_self .., other c (List.mem_cons_self ..)⟩

theorem levelOfText_of_denotes {level : LevelChoice} (settled : ¬ IsRefused (.str text))
    (denotes : Denotes (.str text) level) : levelOfText text fallback = .ok level := by
  cases denotes with
  | numeral nonempty numeral =>
    have short : (Text.strip text).toList.length ≤ integerDigitLimit :=
      Nat.le_of_not_lt fun long => settled (.tooLong numeral long)
    rw [levelOfText_of_digits nonempty (isDigit_of_numeral numeral),
      Text.readInteger_of_numeral nonempty numeral short]
    rfl
  | name named => exact levelOfText_of_name named

theorem levelOfText_of_not_denotes (settled : ¬ IsRefused (.str text))
    (nothing : ∀ level, ¬ Denotes (.str text) level) : levelOfText text fallback = .ok fallback := by
  have unnamed : levelNames.lookup (Text.upper (Text.strip text)) = none :=
    Option.eq_none_iff_forall_ne_some.mpr fun level found =>
      nothing _ (.name (mem_of_lookup found))
  rw [levelOfText_of_other, unnamed]
  · rfl
  · refine Classical.byContradiction fun numeric => ?_
    have nonempty : (Text.strip text).toList ≠ [] := fun empty => numeric (Or.inl empty)
    have digits : ∀ c ∈ (Text.strip text).toList, Text.isDigit c = true := fun c member =>
      eq_true_of_ne_false fun other => numeric (Or.inr ⟨c, member, other⟩)
    have decimal : ∀ c ∈ (Text.strip text).toList, Text.isDecimal c = true := fun c member =>
      eq_true_of_ne_false fun other => settled (.notDecimal digits ⟨c, member, other⟩)
    exact nothing _ (.numeral nonempty (Text.decimalNumber?_eq_some_iff.mpr ⟨decimal, rfl⟩))

theorem levelOfText_of_refused (refused : IsRefused (.str text)) :
    ∃ fault, levelOfText text fallback = .error fault := by
  cases refused with
  | notDecimal digits other =>
    obtain ⟨fault, failed⟩ := Text.readInteger_of_other digits other
    obtain ⟨c, member, _⟩ := other
    rw [levelOfText_of_digits (List.ne_nil_of_mem member) digits, failed]
    exact ⟨fault, rfl⟩
  | tooLong numeral long =>
    have nonempty : (Text.strip text).toList ≠ [] := List.ne_nil_of_length_pos (by omega)
    rw [levelOfText_of_digits nonempty (isDigit_of_numeral numeral),
      Text.readInteger_of_long (Text.decimalNumber?_eq_some_iff.mp numeral).1 long]
    exact ⟨_, rfl⟩
  | unwritable _ long => cases long

end Texts

section Values

variable {value : Value} {fallback : LevelChoice} {level : LevelChoice}

/-- Characters of which the text of a value that is neither a text nor whole always has one, unless
it is a number that is not finite. None of them is in a numeral or in the name of a level. -/
def marks : List Char :=
  ['.', '+', '-', '[', '(', '\x7b', '\'', '"']

/-- A text with a mark that neither numbers nor names have leaves the fallback. -/
theorem levelOfText_of_mark {text : String} {c : Char} (mark : c ∈ marks) (member : c ∈ text.toList) :
    levelOfText text fallback = .ok fallback := by
  have apart : ∀ c ∈ marks, Text.isBlank c = false ∧ Text.isDigit c = false ∧
      Text.upperChar c = [c] ∧ ¬ (65 ≤ c.toNat ∧ c.toNat ≤ 90) := forall_mem_of_all (by decide)
  obtain ⟨solid, notDigit, kept, foreign⟩ := apart c mark
  have inside : c ∈ (Text.strip text).toList := by
    rw [Text.strip_toList]
    exact Text.mem_stripList solid member
  rw [levelOfText_of_other (Or.inr ⟨c, inside, notDigit⟩), lookup_upper_eq_none kept foreign inside]
  rfl

/-- The digits of a float are written with a point or an exponent. -/
theorem layout_marked (digits : List Char) (point : Int) :
    ∃ c ∈ marks, c ∈ Binary64.layout digits point := by
  unfold Binary64.layout
  split
  · rcases Int.lt_or_le point 1 with sinks | rises
    · exact ⟨'-', by decide, by simp [sinks]⟩
    · exact ⟨'+', by decide, by simp [rises]⟩
  split
  · exact ⟨'.', by decide, by simp⟩
  dsimp only
  split
  · exact ⟨'.', by decide, by simp⟩
  · exact ⟨'.', by decide, by simp⟩

theorem finite_marked (negative : Bool) (significand : Nat) (exponent : Int) :
    ∃ c ∈ marks, c ∈ Binary64.text (.finite negative significand exponent) := by
  unfold Binary64.text
  dsimp only
  split
  · exact ⟨'.', by decide, by simp⟩
  · obtain ⟨c, mark, member⟩ := layout_marked _ _
    exact ⟨c, mark, List.mem_append_right _ member⟩

theorem levelOfText_of_float (x : Binary64) :
    levelOfText (String.ofList x.text) fallback = .ok fallback := by
  cases x with
  | finite negative significand exponent =>
    obtain ⟨c, mark, member⟩ := finite_marked negative significand exponent
    refine levelOfText_of_mark mark ?_
    rw [String.toList_ofList]
    exact member
  | infinite negative =>
    cases negative with
    | false => rfl
    | true => rfl
  | nan => rfl

theorem quotedBytes_marked (data : List UInt8) :
    ∃ c ∈ marks, c ∈ (Value.quotedBytes data).toList := by
  unfold Value.quotedBytes
  dsimp only
  split
  · exact ⟨'"', by decide, by simp⟩
  · exact ⟨'\'', by decide, by simp⟩

/-- The text of a value that is neither a text nor whole chooses nothing. -/
theorem levelOfText_of_value (noText : ∀ s, value ≠ .str s)
    (noPoints : ∀ text, value ≠ .illFormed text) (noInteger : ∀ n, value ≠ .int n)
    (noTruth : ∀ b, value ≠ .bool b) : levelOfText value.text fallback = .ok fallback := by
  have marked : ∀ {text : String} (c : Char), c ∈ marks → c ∈ text.toList →
      levelOfText text fallback = .ok fallback := fun c => levelOfText_of_mark
  cases value with
  | null => rfl
  | bool b => exact absurd rfl (noTruth b)
  | int n => exact absurd rfl (noInteger n)
  | str s => exact absurd rfl (noText s)
  | illFormed text => exact absurd rfl (noPoints text)
  | float x => exact levelOfText_of_float x
  | bytes data =>
    obtain ⟨c, mark, member⟩ := quotedBytes_marked data
    exact levelOfText_of_mark mark member
  | date d => exact marked '-' (by decide) (by simp [Value.text, Date.text])
  | datetime d t => exact marked '-' (by decide) (by simp [Value.text, Date.text])
  | list items =>
    change levelOfText ("[" ++ ", ".intercalate (Value.reprItems items) ++ "]") fallback = _
    exact marked '[' (by decide) (by simp)
  | pair first second =>
    change levelOfText ("(" ++ first.repr ++ ", " ++ second.repr ++ ")") fallback = _
    exact marked '(' (by decide) (by simp)
  | set items =>
    cases items with
    | nil => rfl
    | cons item rest =>
      change levelOfText ("\x7b" ++ ", ".intercalate (Value.reprItems (item :: rest)) ++ "\x7d")
        fallback = _
      exact marked '\x7b' (by decide) (by simp)
  | map entries =>
    change levelOfText ("\x7b" ++ ", ".intercalate (Value.reprEntries entries) ++ "\x7d") fallback = _
    exact marked '\x7b' (by decide) (by simp)
  | cycle isMap => cases isMap <;> rfl

/-- A value that is no text, integer or truth value leaves the fallback, if it can be written at
all. -/
theorem chooseLevel_of_value (noText : ∀ s, value ≠ .str s) (noInteger : ∀ n, value ≠ .int n)
    (noTruth : ∀ b, value ≠ .bool b) :
    chooseLevel value fallback =
      if value.holdsLongInteger then .error .unwritable else .ok fallback := by
  unfold chooseLevel
  split
  · rfl
  · exact absurd rfl (noText "")
  · exact absurd rfl (noTruth _)
  · exact absurd rfl (noInteger _)
  · rfl
  · rename_i noPoints
    rw [Value.written]
    split
    · rfl
    · simp only [bind, Except.bind]
      exact levelOfText_of_value noText noPoints noInteger noTruth

/-- A value that denotes a level chooses it. -/
theorem chooseLevel_of_denotes (settled : ¬ IsRefused value) (denotes : Denotes value level) :
    chooseLevel value fallback = .ok level := by
  cases value with
  | str text =>
    rw [chooseLevel_str]
    exact levelOfText_of_denotes settled denotes
  | bool b =>
    cases denotes
    rfl
  | int n =>
    cases denotes
    rfl
  | _ => cases denotes

/-- A value that denotes no level leaves the fallback. -/
theorem chooseLevel_of_not_denotes (settled : ¬ IsRefused value)
    (nothing : ∀ level, ¬ Denotes value level) : chooseLevel value fallback = .ok fallback := by
  by_cases isText : ∃ text, value = .str text
  · obtain ⟨text, rfl⟩ := isText
    rw [chooseLevel_str]
    exact levelOfText_of_not_denotes settled nothing
  · have noText : ∀ s, value ≠ .str s := fun s same => isText ⟨s, same⟩
    have noInteger : ∀ n, value ≠ .int n := by
      rintro n rfl
      exact nothing _ (.number n)
    have noTruth : ∀ b, value ≠ .bool b := by
      rintro b rfl
      exact nothing _ (.truth b)
    rw [chooseLevel_of_value noText noInteger noTruth]
    exact if_neg fun long => settled (.unwritable noInteger long)

/-- A value that is refused chooses nothing. -/
theorem chooseLevel_of_refused (refused : IsRefused value) :
    ∃ fault, chooseLevel value fallback = .error fault := by
  by_cases isText : ∃ text, value = .str text
  · obtain ⟨text, rfl⟩ := isText
    rw [chooseLevel_str]
    exact levelOfText_of_refused refused
  · cases refused with
    | notDecimal => exact absurd ⟨_, rfl⟩ isText
    | tooLong => exact absurd ⟨_, rfl⟩ isText
    | unwritable noInteger long =>
      have noTruth : ∀ b, value ≠ .bool b := by
        rintro b rfl
        cases long
      rw [chooseLevel_of_value (fun s same => isText ⟨s, same⟩) noInteger noTruth, if_pos long]
      exact ⟨_, rfl⟩

end Values

/-- A level is chosen by every value that is not refused: the one that the value denotes, or else the
fallback. No level is chosen by a value that is refused. -/
theorem level_chosen (value : Value) (fallback : LevelChoice) :
    ((∃ level, chooseLevel value fallback = .ok level) ↔ ¬ IsRefused value) ∧
    (¬ IsRefused value →
      (∀ level, Denotes value level → chooseLevel value fallback = .ok level) ∧
      ((∀ level, ¬ Denotes value level) → chooseLevel value fallback = .ok fallback)) := by
  refine ⟨⟨?_, ?_⟩, ?_⟩
  · rintro ⟨level, chosen⟩ refused
    obtain ⟨fault, failed⟩ : ∃ fault, chooseLevel value fallback = .error fault :=
      chooseLevel_of_refused refused
    rw [failed] at chosen
    cases chosen
  · intro settled
    by_cases denoted : ∃ level, Denotes value level
    · obtain ⟨level, denotes⟩ := denoted
      exact ⟨level, chooseLevel_of_denotes settled denotes⟩
    · exact ⟨fallback, chooseLevel_of_not_denotes settled fun level denotes => denoted ⟨level, denotes⟩⟩
  · intro settled
    exact ⟨fun level denotes => chooseLevel_of_denotes settled denotes,
      fun nothing => chooseLevel_of_not_denotes settled nothing⟩

/-- A superscript two is a digit and no decimal one, so that it is taken for a number and then not
read as one. -/
theorem superscript_not_chosen :
    IsRefused (.str "²") ∧ ¬ ∃ level, chooseLevel (.str "²") defaultLevel = .ok level := by
  have refused : IsRefused (.str "²") :=
    .notDecimal (forall_mem_of_all (by decide)) ⟨'²', by decide, by decide⟩
  exact ⟨refused, fun chosen => (level_chosen (.str "²") defaultLevel).1.mp chosen refused⟩

end Log

end CrateSurface
