import CrateSurface.Proofs.PlainTypes
import CrateSurface.Spelling

namespace CrateSurface.Grammar

/-- Tokens that would be read as another one if the second followed the first directly. The spelling
of types keeps no space before a colon and a closing angle bracket. -/
def clings (before token : String) : Bool :=
  [(":", ":"), (":", "::"), ("::", ":"), ("::", "::"), ("-", ">"), ("=", ">")].contains
    (before, token)

section Neighbours

variable {before token : String} {c : Char}

/-- The marks of types, each with the character that would make it a longer one. -/
def growingMarks : List (String × Char) :=
  [(":", ':'), ("::", ':'), ("-", '>'), ("=", '>'), ("=", '='), ("+", '='), ("!", '=')]

theorem runsOn_mark (member : before ∈ typeMarks) (runs : runsOn before.toList c = true) :
    (before, c) ∈ growingMarks := by
  have silent : ∀ mark ∈ typeMarks, mark.toList.getLast?.any isWordChar = false := by decide
  -- No mark ends as a word does, so few characters are left that a mark can run on into.
  have longer : c ∈ [':', '>', '='] := by
    have quiet := silent before member
    rw [runsOn] at runs
    split at runs
    · cases runs
    · next last ends =>
      rw [ends, Option.any_some] at quiet
      simp only [quiet, Bool.false_and, Bool.false_or, Bool.or_eq_true, Bool.and_eq_true,
        beq_iff_eq] at runs
      rcases runs with (⟨-, rfl⟩ | ⟨-, rfl⟩) | ⟨-, rfl⟩ <;> simp
  have table : ∀ c ∈ [':', '>', '='], ∀ mark ∈ typeMarks,
      runsOn mark.toList c = true → (mark, c) ∈ growingMarks := forall_mem_of_all (by decide)
  exact table c longer before member runs

/-- A token that is no mark runs on into letters and digits, and into literals. -/
theorem runsOn_word (typeToken : isTypeToken before = true) (other : before ∉ typeMarks)
    (runs : runsOn before.toList c = true) : continuesWord c = true := by
  have continues : ∀ {last}, before.toList.getLast? = some last →
      last ∉ [':', '-', '=', '+', '!'] → continuesWord c = true := by
    intro last ends quiet
    simp only [List.mem_cons, List.not_mem_nil, or_false, not_or] at quiet
    simp only [runsOn, ends] at runs
    simp_all [continuesWord]
  have marks : ∀ last ∈ [':', '-', '=', '+', '!'], isWordChar last = false :=
    forall_mem_of_all (by decide)
  -- The last character of a word is neither.
  have word : ∀ {front text}, before.toList = front ++ text → text ≠ [] →
      text.all isWordChar = true → continuesWord c = true := by
    intro front text same some inside
    refine continues (same ▸ List.getLast?_append_of_ne_nil front some ▸
      List.getLast?_eq_some_getLast some) fun member => ?_
    have held := List.all_eq_true.mp inside _ (List.getLast_mem some)
    rw [marks _ member] at held
    cases held
  have shape := tokenShape typeToken
  generalize letters : before.toList = text at shape continues word
  cases shape with
  | name named =>
    exact word (List.nil_append _).symm (isName_ne_nil named) (all_isWordChar (isName_all named))
  | lifetime named =>
    exact word List.singleton_append.symm (isName_ne_nil named) (all_isWordChar (isName_all named))
  | numeral numeral =>
    exact word (List.nil_append _).symm (isNumeral_ne_nil numeral) (isNumeral_all numeral)
  | quoted quoted =>
    obtain ⟨body, rfl, -⟩ := isQuoted_split quoted
    refine continues (?_ : _ = some '"') (by decide)
    rw [← List.cons_append, List.getLast?_concat]
  | mark member =>
    rw [String.toList_inj.mp letters] at other
    exact absurd member other

theorem not_runsOn_of_isGlued {bound : Bool} {rest : List Char}
    (beforeToken : isTypeToken before = true) (typeToken : isTypeToken token = true)
    (sigil : bound = true → Spelling.isSigil before = true) (apart : clings before token = false)
    (glued : Spelling.isGlued before bound token = true) (front : token.toList = c :: rest) :
    runsOn before.toList c = false := by
  rw [Bool.eq_false_iff]
  intro runs
  by_cases member : before ∈ typeMarks
  · -- A mark that the next character makes longer: the next token begins with that character.
    have apartToo : ∀ growing ∈ growingMarks, isMarkHead growing.2 = true ∧
        Spelling.isSigil growing.1 = false ∧ ∀ token ∈ typeMarks,
          token.toList.head? = some growing.2 → clings growing.1 token = false →
            Spelling.isGlued growing.1 false token = false := by decide
    obtain ⟨head, noSigil, separate⟩ := apartToo _ (runsOn_mark member runs)
    have shape := tokenShape typeToken
    rw [front] at shape
    obtain ⟨mark, isMark, letters⟩ := shape.mark_of_head head
    obtain rfl : mark = token := String.toList_inj.mp (letters.trans front.symm)
    have loose : bound = false := by
      rw [Bool.eq_false_iff]
      intro held
      rw [sigil held] at noSigil
      cases noSigil
    rw [loose, separate mark isMark (by rw [front]; rfl) apart] at glued
    cases glued
  · have continues := runsOn_word beforeToken member runs
    have closing : ∀ token ∈ [",", ";", ":", "::", ">", ")", "]", "(", "[", "<", "!"],
        token.toList.head?.any continuesWord = false := by decide
    have opening : ∀ before ∈ ["<", "(", "[", "::", "?", "&", "*", "&&", "!"],
        isTypeToken before = false ∨ before ∈ typeMarks := by decide
    have attached : token ∈ [",", ";", ":", "::", ">", ")", "]", "(", "[", "<", "!"] := by
      by_contra away
      refine (opening before ?_).elim (by simp [beforeToken]) member
      simp [Spelling.isGlued, Spelling.closesUp, Spelling.opensUp, Spelling.attaches, Spelling.isSigil] at *
      grind
    have silent := closing token attached
    rw [front] at silent
    simp [continues] at silent

theorem not_runsOn_blank (token : List Char) : runsOn token ' ' = false := by
  have silent : isWordChar ' ' = false := by decide
  rw [runsOn]
  split
  · rfl
  · simp [silent]

end Neighbours

section Joined

variable {before : String} {tokens : List String}

/-- The text behind a token: its gaps are the single spaces that are needed. -/
theorem spacedAfter_spells {bound : Bool} (plain : isPlainType (before :: tokens) = true)
    (apart : (before :: tokens).IsChain fun a b => clings a b = false)
    (sigil : bound = true → Spelling.isSigil before = true) :
    Spells tokens (String.join (Spelling.spacedAfter before bound tokens)).toList ∧
      Stops (runsOn before.toList)
        (String.join (Spelling.spacedAfter before bound tokens)).toList := by
  induction tokens generalizing before bound with
  | nil => exact ⟨.nil .nil, fun c head => by cases head⟩
  | cons token tokens ih =>
    obtain ⟨beforeToken, -, rest⟩ := isPlainType_cons plain
    obtain ⟨typeToken, -, -⟩ := isPlainType_cons rest
    obtain ⟨keeps, apartToo⟩ := List.isChain_cons_cons.mp apart
    have sigilToo : Spelling.isPrefixSigil (some before) token = true →
        Spelling.isSigil token = true := by
      intro held
      exact (Bool.and_eq_true_iff.mp held).1
    obtain ⟨spelt, stops⟩ := ih rest apartToo sigilToo
    rw [Spelling.spacedAfter, String.join_cons, String.toList_append]
    split
    · next glued =>
      refine ⟨.cons .nil stops spelt, ?_⟩
      obtain ⟨c, letters, front, -⟩ := (tokenShape typeToken).solid
      intro d head
      rw [front] at head
      rw [← Option.some.inj head]
      exact not_runsOn_of_isGlued beforeToken typeToken sigil keeps glued front
    · rw [String.toList_append, List.append_assoc]
      refine ⟨.cons (.blank rfl) stops spelt, ?_⟩
      intro d head
      rw [← Option.some.inj head]
      exact not_runsOn_blank _

/-- The compact spelling of tokens of a type spells them. -/
theorem join_spells (plain : isPlainType tokens = true)
    (apart : tokens.IsChain fun a b => clings a b = false) :
    Spells tokens (Spelling.join tokens).toList := by
  cases tokens with
  | nil => exact .nil .nil
  | cons token tokens =>
    obtain ⟨spelt, stops⟩ := spacedAfter_spells plain apart fun held =>
      (Bool.and_eq_true_iff.mp held).1
    rw [Spelling.join, String.join_cons, String.toList_append]
    exact .cons .nil stops spelt

end Joined

end CrateSurface.Grammar
