import CrateSurface.Proofs.TypeTokens
import CrateSurface.Proofs.Unresolved
import CrateSurface.Spelling
import Mathlib.Data.List.Chain

namespace CrateSurface.Spelling

open Grammar (Stops)

/-- The characters of words. -/
def isWordChar (c : Char) : Bool :=
  Text.isAlphanumeric c || c == '_'

/-- A character of punctuation: no letter, digit or underscore, no space and no quote. -/
def isMark (c : Char) : Bool :=
  !isWordChar c && c != ' ' && c != '\''

/-- A text of characters of words. -/
def isWordText (text : List Char) : Bool :=
  !text.isEmpty && text.all isWordChar

/-- A text of marks. -/
def isPunctuation (text : List Char) : Bool :=
  !text.isEmpty && text.all isMark

/-- Tokens of which the text alone tells where they begin and end, punctuation apart: words,
lifetimes, and punctuation of any length. -/
inductive IsPlain : String → Prop
  | word {token : String} : isWordText token.toList = true → IsPlain token
  | lifetime {token : String} {word : List Char} : token.toList = '\'' :: word →
      isWordText word = true → IsPlain token
  | punctuation {token : String} : isPunctuation token.toList = true → IsPlain token

/-- What a text shows of a token: punctuation falls apart into its characters. -/
def units (token : String) : List String :=
  if isPunctuation token.toList then token.toList.map String.singleton else [token]

/-- Cuts a text into words and lifetimes, each as long as can be, and single marks. Spaces only
divide. -/
def split : List Char → List String
  | [] => []
  | c :: rest =>
    if c == ' ' then split rest
    else if isWordChar c || c == '\'' then
      String.ofList (c :: rest.takeWhile isWordChar) :: split (rest.dropWhile isWordChar)
    else String.singleton c :: split rest
termination_by text => text.length
decreasing_by
  · simp
  · exact Nat.lt_succ_of_le (List.dropWhile_suffix isWordChar).length_le
  · simp

section Characters

variable {token : String} {c : Char}

theorem isWordText_iff {text : List Char} :
    isWordText text = true ↔ text ≠ [] ∧ text.all isWordChar = true := by
  simp [isWordText]

theorem isPunctuation_iff {text : List Char} :
    isPunctuation text = true ↔ text ≠ [] ∧ text.all isMark = true := by
  simp [isPunctuation]

theorem isMark_iff : isMark c = true ↔ isWordChar c = false ∧ c ≠ ' ' ∧ c ≠ '\'' := by
  simp [isMark, and_assoc]

theorem isWordChar_space : isWordChar ' ' = false := by
  decide

theorem ne_space_of_isWordChar (held : isWordChar c = true) : c ≠ ' ' := by
  rintro rfl
  rw [isWordChar_space] at held
  cases held

/-- Plain tokens are not empty and hold no space. -/
theorem IsPlain.solid (plain : IsPlain token) : token.toList ≠ [] ∧ ∀ c ∈ token.toList, c ≠ ' ' := by
  cases plain with
  | word isWord =>
    obtain ⟨some, inside⟩ := isWordText_iff.mp isWord
    exact ⟨some, fun c member => ne_space_of_isWordChar (List.all_eq_true.mp inside c member)⟩
  | lifetime letters isWord =>
    obtain ⟨_, inside⟩ := isWordText_iff.mp isWord
    rw [letters]
    refine ⟨List.cons_ne_nil _ _, List.forall_mem_cons.mpr ⟨by decide, ?_⟩⟩
    exact fun c member => ne_space_of_isWordChar (List.all_eq_true.mp inside c member)
  | punctuation isMarks =>
    obtain ⟨some, inside⟩ := isPunctuation_iff.mp isMarks
    exact ⟨some, fun c member => (isMark_iff.mp (List.all_eq_true.mp inside c member)).2.1⟩

theorem stops_of_isPunctuation (isMarks : isPunctuation token.toList = true) (text : List Char) :
    Stops isWordChar (token.toList ++ text) := by
  obtain ⟨some, inside⟩ := isPunctuation_iff.mp isMarks
  obtain ⟨first, rest, letters⟩ := List.exists_cons_of_ne_nil some
  rw [letters] at inside ⊢
  intro c head
  obtain rfl : first = c := Option.some.inj head
  exact (isMark_iff.mp (List.all_eq_true.mp inside first (List.mem_cons_self ..))).1

end Characters

section Splitting

variable {text : List Char}

theorem split_space : split (' ' :: text) = split text := by
  rw [split]
  simp

/-- A word is split off where it stops, with a quote before it. -/
theorem split_word {c : Char} {word : List Char} (begins : isWordChar c = true ∨ c = '\'')
    (inside : word.all isWordChar = true) (stops : Stops isWordChar text) :
    split (c :: word ++ text) = String.ofList (c :: word) :: split text := by
  have space : (c == ' ') = false := by
    rcases begins with held | rfl
    · simpa using ne_space_of_isWordChar held
    · rfl
  have start : (isWordChar c || c == '\'') = true := by simpa using begins
  rw [List.cons_append, split, space, start, stops.takeWhile inside, stops.dropWhile inside]
  simp

theorem split_marks {marks : List Char} (inside : marks.all isMark = true) :
    split (marks ++ text) = marks.map String.singleton ++ split text := by
  induction marks with
  | nil => rfl
  | cons c marks ih =>
    obtain ⟨here, later⟩ := Bool.and_eq_true_iff.mp (List.all_cons ▸ inside)
    obtain ⟨word, space, quote⟩ := isMark_iff.mp here
    rw [List.cons_append, split, List.map_cons, List.cons_append, ← ih later]
    simp [word, space, quote]

/-- A plain token is found at the front of a text that does not go on with it. Punctuation is found
whatever comes behind it. -/
theorem IsPlain.split_append {token : String} (plain : IsPlain token)
    (ends : isPunctuation token.toList = true ∨ Stops isWordChar text) :
    split (token.toList ++ text) = units token ++ split text := by
  by_cases isMarks : isPunctuation token.toList = true
  · rw [units, if_pos isMarks, split_marks (isPunctuation_iff.mp isMarks).2]
  · have stops : Stops isWordChar text := ends.resolve_left isMarks
    rw [units, if_neg isMarks, List.singleton_append]
    cases plain with
    | punctuation held => exact absurd held isMarks
    | word isWord =>
      obtain ⟨some, inside⟩ := isWordText_iff.mp isWord
      obtain ⟨c, word, letters⟩ := List.exists_cons_of_ne_nil some
      rw [letters, List.all_cons, Bool.and_eq_true_iff] at inside
      rw [letters, split_word (Or.inl inside.1) inside.2 stops, ← letters, String.ofList_toList]
    | lifetime letters isWord =>
      rw [letters, split_word (Or.inr rfl) (isWordText_iff.mp isWord).2 stops, ← letters,
        String.ofList_toList]

end Splitting

section Layout

/-- Every text that the spacing rules name is punctuation. -/
theorem isPunctuation_of_mem {texts : List String} {token : String}
    (listed : texts ⊆ [",", ";", ":", "::", ">", ")", "]", "<", "(", "[", "?", "!", "&", "*", "&&"])
    (member : texts.contains token = true) : isPunctuation token.toList = true := by
  have all : ∀ text ∈ [",", ";", ":", "::", ">", ")", "]", "<", "(", "[", "?", "!", "&", "*", "&&"],
      isPunctuation text.toList = true := by decide
  exact all token (listed (List.contains_iff_mem.mp member))

/-- Of two tokens that stand together one is punctuation. -/
theorem isPunctuation_of_isGlued {before token : String} {bound : Bool}
    (sigil : bound = true → isSigil before = true) (glued : isGlued before bound token = true) :
    isPunctuation before.toList = true ∨ isPunctuation token.toList = true := by
  simp only [isGlued, Bool.or_eq_true, Bool.and_eq_true, beq_iff_eq] at glued
  rcases glued with (((closes | opens) | isBound) | ⟨rfl, _⟩) | ⟨⟨attached, _⟩, _⟩
  · exact Or.inr (isPunctuation_of_mem (by simp) closes)
  · exact Or.inl (isPunctuation_of_mem (by simp) opens)
  · exact Or.inl (isPunctuation_of_mem (by simp) (sigil isBound))
  · exact Or.inl (by decide)
  · exact Or.inr (isPunctuation_of_mem (by simp) attached)

/-- A text that shows the tokens in order: neighbours have one space between them, or none where one
of them is punctuation. -/
inductive LaidOut : List String → List Char → Prop
  | last (token : String) : LaidOut [token] token.toList
  | together {token next : String} {rest : List String} {text : List Char} :
      isPunctuation token.toList = true ∨ isPunctuation next.toList = true →
      LaidOut (next :: rest) text → LaidOut (token :: next :: rest) (token.toList ++ text)
  | spaced {token next : String} {rest : List String} {text : List Char} :
      LaidOut (next :: rest) text → LaidOut (token :: next :: rest) (token.toList ++ ' ' :: text)

/-- The text from a token on shows all tokens, whether the first one is bound or not. -/
theorem spacedAfter_laidOut (rest : List String) : ∀ {token : String} {bound : Bool},
    (bound = true → isSigil token = true) →
      LaidOut (token :: rest) (token.toList ++ (String.join (spacedAfter token bound rest)).toList) := by
  induction rest with
  | nil =>
    intro token bound _
    simpa [spacedAfter] using LaidOut.last token
  | cons next rest ih =>
    intro token bound sigil
    have later : LaidOut (next :: rest) (next.toList ++
        (String.join (spacedAfter next (isPrefixSigil (some token) next) rest)).toList) :=
      ih fun held => (Bool.and_eq_true_iff.mp held).1
    rw [spacedAfter, String.join_cons, String.toList_append]
    split
    · next glued => exact .together (isPunctuation_of_isGlued sigil glued) later
    · rw [String.toList_append, List.append_assoc]
      exact .spaced later

/-- A joined text shows its tokens in order. -/
theorem join_laidOut (token : String) (rest : List String) :
    LaidOut (token :: rest) (join (token :: rest)).toList := by
  rw [join, String.join_cons, String.toList_append]
  exact spacedAfter_laidOut rest fun held => (Bool.and_eq_true_iff.mp held).1

/-- A text that is laid out is split into the units of its tokens. -/
theorem LaidOut.split_eq {tokens : List String} {text : List Char} (laid : LaidOut tokens text)
    (plain : ∀ token ∈ tokens, IsPlain token) : split text = tokens.flatMap units := by
  induction laid with
  | last token =>
    have own : split (token.toList ++ []) = units token ++ split [] :=
      (plain token (List.mem_singleton_self _)).split_append (Or.inr fun c head => by cases head)
    simpa [split] using own
  | @together token next rest text either laid ih =>
    obtain ⟨own, others⟩ := List.forall_mem_cons.mp plain
    have ends : isPunctuation token.toList = true ∨ Stops isWordChar text := by
      refine either.imp_right fun isMarks => ?_
      cases laid with
      | last => simpa using stops_of_isPunctuation isMarks []
      | together => exact stops_of_isPunctuation isMarks _
      | spaced => exact stops_of_isPunctuation isMarks _
    rw [own.split_append ends, ih others, ← List.flatMap_cons]
  | @spaced token next rest text laid ih =>
    obtain ⟨own, others⟩ := List.forall_mem_cons.mp plain
    have ends : Stops isWordChar (' ' :: text) := by
      intro c head
      rw [← Option.some.inj head]
      exact isWordChar_space
    rw [own.split_append (Or.inr ends), split_space, ih others, ← List.flatMap_cons]

/-- A text without a space at either end and without two spaces in a row. -/
structure IsTidy (text : List Char) : Prop where
  first : text.head? ≠ some ' '
  last : text.getLast? ≠ some ' '
  single : text.IsChain fun a b => a ≠ ' ' ∨ b ≠ ' '

theorem IsTidy.of_solid {text : List Char} (solid : ∀ c ∈ text, c ≠ ' ') : IsTidy text where
  first head := solid ' ' (List.mem_of_mem_head? head) rfl
  last ends := solid ' ' (List.mem_of_mem_getLast? ends) rfl
  single := by
    induction text with
    | nil => exact .nil
    | cons c rest ih =>
      obtain ⟨here, later⟩ := List.forall_mem_cons.mp solid
      exact (ih later).cons fun _ _ => Or.inl here

theorem IsTidy.append {front back : List Char} (before : IsTidy front) (after : IsTidy back) :
    IsTidy (front ++ back) := by
  refine ⟨?_, ?_, ?_⟩
  · cases front with
    | nil => exact after.first
    | cons c rest => exact before.first
  · have ends := after.last
    rw [List.getLast?_append]
    cases found : back.getLast? with
    | none => exact before.last
    | some c => rwa [found] at ends
  · refine before.single.append after.single fun a ends b _ => Or.inl ?_
    rintro rfl
    exact before.last ends

theorem IsTidy.spaced {front back : List Char} (before : IsTidy front) (after : IsTidy back)
    (full : front ≠ []) (fullToo : back ≠ []) : IsTidy (front ++ ' ' :: back) := by
  obtain ⟨c, rest, rfl⟩ := List.exists_cons_of_ne_nil full
  obtain ⟨d, more, rfl⟩ := List.exists_cons_of_ne_nil fullToo
  refine ⟨before.first, ?_, ?_⟩
  · rw [List.getLast?_append_of_ne_nil _ (List.cons_ne_nil _ _), List.getLast?_cons_cons]
    exact after.last
  · refine before.single.append (after.single.cons fun b head => Or.inr ?_) fun a ends b _ => Or.inl ?_
    · rintro rfl
      exact after.first head
    · rintro rfl
      exact before.last ends

theorem LaidOut.isTidy {tokens : List String} {text : List Char} (laid : LaidOut tokens text)
    (plain : ∀ token ∈ tokens, IsPlain token) : text ≠ [] ∧ IsTidy text := by
  induction laid with
  | last token =>
    obtain ⟨some, solid⟩ := (plain token (List.mem_singleton_self _)).solid
    exact ⟨some, .of_solid solid⟩
  | together _ _ ih =>
    obtain ⟨own, others⟩ := List.forall_mem_cons.mp plain
    obtain ⟨some, solid⟩ := own.solid
    exact ⟨List.append_ne_nil_of_left_ne_nil some _, (IsTidy.of_solid solid).append (ih others).2⟩
  | spaced _ ih =>
    obtain ⟨own, others⟩ := List.forall_mem_cons.mp plain
    obtain ⟨some, solid⟩ := own.solid
    obtain ⟨someToo, tidy⟩ := ih others
    exact ⟨List.append_ne_nil_of_left_ne_nil some _, (IsTidy.of_solid solid).spaced tidy some someToo⟩

end Layout

section Plain

variable {tokens : List String}

/-- A joined text is split into the units of its tokens. -/
theorem split_join (plain : ∀ token ∈ tokens, IsPlain token) :
    split (join tokens).toList = tokens.flatMap units := by
  cases tokens with
  | nil => rw [join]; simp [split]
  | cons token rest => exact (join_laidOut token rest).split_eq plain

theorem join_isTidy (plain : ∀ token ∈ tokens, IsPlain token) : IsTidy (join tokens).toList := by
  cases tokens with
  | nil => exact .of_solid (by simp [join])
  | cons token rest => exact ((join_laidOut token rest).isTidy plain).2

theorem join?_of_isPlain (plain : ∀ token ∈ tokens, IsPlain token) :
    join? tokens = some (join tokens) := by
  rw [join?, looksIntoEmpty_of_ne_empty tokens fun token member empty => ?_]
  · rfl
  · exact (plain token member).solid.1 (by rw [empty]; rfl)

end Plain

/-- The spelling of words, lifetimes and punctuation loses no boundary but those inside punctuation:
its text is cut into the tokens again, up to how punctuation is grouped. So lists of tokens with one
spelling differ in that at most; and no spelling has a space at an end or two in a row. -/
theorem spelling_keeps_boundaries (tokens : List String) (plain : ∀ token ∈ tokens, IsPlain token) :
    ∃ text, join? tokens = some text ∧ split text.toList = tokens.flatMap units ∧
      (∀ others : List String, (∀ token ∈ others, IsPlain token) → join? others = some text →
        others.flatMap units = tokens.flatMap units) ∧
      IsTidy text.toList := by
  refine ⟨join tokens, join?_of_isPlain plain, split_join plain, ?_, join_isTidy plain⟩
  intro others plainToo same
  rw [join?_of_isPlain plainToo] at same
  rw [← split_join plainToo, Option.some.inj same, split_join plain]

/-- Two references in a row, as two tokens and as one. -/
theorem double_reference_keeps_boundaries :
    let tokens := ["&", "&", "'a", "mut", "T_1"]
    let grouped := ["&&", "'a", "mut", "T_1"]
    join? tokens = some "&&'a mut T_1" ∧ join? grouped = some "&&'a mut T_1" ∧
      split "&&'a mut T_1".toList = ["&", "&", "'a", "mut", "T_1"] ∧
      grouped.flatMap units = tokens.flatMap units ∧ IsTidy "&&'a mut T_1".toList := by
  intro tokens grouped
  have one : join? tokens = some "&&'a mut T_1" := by decide
  have other : join? grouped = some "&&'a mut T_1" := by decide
  have tail : ∀ token ∈ ["'a", "mut", "T_1"], IsPlain token := by
    simp only [List.forall_mem_cons]
    have letters : "'a".toList = '\'' :: ['a'] := by decide
    exact ⟨.lifetime letters (by decide), .word (by decide +kernel),
      .word (by decide), by simp⟩
  have plain : ∀ token ∈ tokens, IsPlain token :=
    List.forall_mem_cons.mpr ⟨.punctuation (by decide),
      List.forall_mem_cons.mpr ⟨.punctuation (by decide), tail⟩⟩
  have plainToo : ∀ token ∈ grouped, IsPlain token :=
    List.forall_mem_cons.mpr ⟨.punctuation (by decide), tail⟩
  obtain ⟨text, spelt, cut, same, tidy⟩ := spelling_keeps_boundaries tokens plain
  obtain rfl : "&&'a mut T_1" = text := Option.some.inj (one.symm.trans spelt)
  have pieces : tokens.flatMap units = ["&", "&", "'a", "mut", "T_1"] := by decide
  exact ⟨one, other, cut.trans pieces, same grouped plainToo other, tidy⟩

end CrateSurface.Spelling
