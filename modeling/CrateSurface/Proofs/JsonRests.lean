import CrateSurface.Json.Reader
import CrateSurface.Proofs.JsonLegible

namespace CrateSurface.Json

/-- A text in which some digits in a row are too many for an integer. -/
def HasLongInteger (digits : Nat) (text : List Char) : Prop :=
  ∃ whole, whole <:+: text ∧ whole.length = digits ∧ integerDigitLimit < digits ∧
    ∀ c ∈ whole, c.isDigit = true

/-- A long integer at the end of a text is in the text. -/
theorem HasLongInteger.mono {digits : Nat} {part text : List Char} (long : HasLongInteger digits part)
    (within : part <:+ text) : HasLongInteger digits text := by
  obtain ⟨whole, inside, rest⟩ := long
  exact ⟨whole, inside.trans within.isInfix, rest⟩

/-- A reading leaves the end of the text that it began with, and complains of the size of an integer
only if the text has one. -/
structure Scans {α : Type} (result : Except Fault (α × List Char)) (text : List Char) : Prop where
  rest : ∀ found, result = .ok found → found.2 <:+ text
  long : ∀ fault, result = .error fault → ∀ digits, fault.complaint = .integerSize digits →
    HasLongInteger digits text

namespace Scans

variable {α β : Type} {text part : List Char}

theorem ok {value : α} {after : List Char} (within : after <:+ text) :
    Scans (.ok (value, after)) text where
  rest found same := by cases same; exact within
  long fault same := by cases same

theorem error {fault : Fault} (other : ∀ digits, fault.complaint ≠ .integerSize digits) :
    Scans (α := α) (.error fault) text where
  rest found same := by cases same
  long fault same digits size := by cases same; exact absurd size (other digits)

theorem mono {result : Except Fault (α × List Char)} (scans : Scans result part)
    (within : part <:+ text) : Scans result text where
  rest found same := (scans.rest found same).trans within
  long fault same digits size := (scans.long fault same digits size).mono within

/-- Two readers, one after the other, leave an end of the text. -/
theorem bind {result : Except Fault (α × List Char)}
    {next : α × List Char → Except Fault (β × List Char)} (scans : Scans result text)
    (continues : ∀ value after, Scans (next (value, after)) after) :
    Scans (result >>= next) text := by
  cases result with
  | error fault =>
    refine ⟨?_, ?_⟩
    · intro found same
      cases same
    · intro fault' same
      cases same
      exact scans.long fault rfl
  | ok found => exact (continues found.1 found.2).mono (scans.rest found rfl)

end Scans

section Strings

theorem fourHex?_suffix {cs after : List Char} {n : Nat} (read : fourHex? cs = some (n, after)) :
    after <:+ cs := by
  unfold fourHex? at read
  split at read
  · rename_i a b c d next rest
    simp only [Option.bind_eq_bind, Option.bind_eq_some_iff, Option.pure_def, Option.some.injEq,
      Prod.mk.injEq] at read
    obtain ⟨_, _, _, _, _, _, _, _, _, rfl⟩ := read
    exact ⟨[a, b, c, d], rfl⟩
  · cases read

/-- A numeric escape leaves what comes after it. -/
theorem readUnicode_scans (start rest : List Char) : Scans (readUnicode start rest) rest := by
  unfold readUnicode
  split
  · exact .error (by simp)
  · rename_i n after read
    have within := fourHex?_suffix read
    split
    · rename_i more _
      split
      · exact .ok within
      · split
        · exact .error (by simp)
        · rename_i low beyond second
          split
          · have escape : more <:+ '\\' :: 'u' :: more := ⟨['\\', 'u'], rfl⟩
            exact .ok ((fourHex?_suffix second).trans (escape.trans within))
          · exact .ok within
    · exact .ok within

/-- One character and what follows it. -/
theorem Scans.consChar {result : Except Fault (List Char × List Char)} {text : List Char}
    (scans : Scans result text) (c : Char) : Scans (do
      let (cs, beyond) ← result
      return (c :: cs, beyond)) text := by
  refine scans.bind fun cs beyond => ?_
  exact .ok List.suffix_rfl

theorem readChars_scans (start : List Char) (fuel : Nat) (cs : List Char) :
    Scans (readChars start fuel cs) cs := by
  fun_induction readChars start fuel cs with
  | case1 | case2 | case4 | case6 | case8 => exact .error (by simp)
  | case3 => exact .ok (List.suffix_cons _ _)
  | case5 fuel more ih =>
    refine Scans.mono ?_ (⟨['\\', 'u'], rfl⟩ : more <:+ '\\' :: 'u' :: more)
    refine Scans.bind (readUnicode_scans _ more) fun c after => ?_
    exact (ih after).consChar c
  | case7 fuel letter more _ c _ ih =>
    exact (ih.consChar c).mono ⟨['\\', letter], rfl⟩
  | case9 fuel c rest _ _ _ ih => exact (ih.consChar c).mono (List.suffix_cons _ _)

/-- A string leaves what comes after it. -/
theorem readString_scans (rest : List Char) : Scans (readString rest) rest := by
  refine Scans.bind (readChars_scans _ _ rest) fun cs after => ?_
  exact .ok List.suffix_rfl

end Strings

section Numbers

/-- The whole part of a number is the front of the text. -/
theorem readWhole?_split {cs whole rest : List Char} (read : readWhole? cs = some (whole, rest)) :
    cs = whole ++ rest := by
  unfold readWhole? at read
  split at read
  · cases read
    rfl
  · split at read
    · cases read
      rw [List.cons_append, List.takeWhile_append_dropWhile]
    · cases read
  · cases read

theorem readFraction_suffix (cs : List Char) : (readFraction cs).2 <:+ cs := by
  unfold readFraction
  split
  · split
    · exact List.suffix_rfl
    · exact (List.dropWhile_suffix _).trans (List.suffix_cons _ _)
  · exact List.suffix_rfl

theorem readExponent?_suffix (cs : List Char) : (readExponent? cs).2 <:+ cs := by
  unfold readExponent?
  split
  · rename_i e rest
    split
    · have body : ∀ more, more <:+ rest → more.dropWhile Char.isDigit <:+ e :: rest :=
        fun more within => (List.dropWhile_suffix _).trans (within.trans (List.suffix_cons _ _))
      dsimp only
      split
      · exact List.suffix_rfl
      · refine body _ ?_
        split
        · exact List.suffix_cons _ _
        · exact List.suffix_cons _ _
        · exact List.suffix_rfl
    · exact List.suffix_rfl
  · exact List.suffix_rfl

/-- A number leaves what comes after it, and fails only over the digits of an integer in the text.
-/
theorem readMagnitude_scans (negative : Bool) (start cs : List Char) :
    Scans (readMagnitude negative start cs) cs := by
  unfold readMagnitude
  cases read : readWhole? cs with
  | none => exact .error (by simp)
  | some found =>
    obtain ⟨whole, rest⟩ := found
    have split' := readWhole?_split read
    have after : (readExponent? (readFraction rest).2).2 <:+ cs :=
      (readExponent?_suffix _).trans ((readFraction_suffix rest).trans ⟨whole, split'.symm⟩)
    dsimp only
    split
    · rename_i found
      rw [found] at after
      split
      · rename_i exceeds
        refine ⟨?_, ?_⟩
        · intro found same
          cases same
        · intro fault same digits size
          cases same
          cases size
          exact ⟨whole, ⟨[], rest, split'.symm⟩, rfl, exceeds, (readWhole?_digits read).2⟩
      · exact .ok after
    · rename_i found _
      rw [found] at after
      exact .ok after

theorem word?_suffix {word : String} {cs rest : List Char} (read : word? word cs = some rest) :
    rest <:+ cs := by
  unfold word? at read
  split at read
  · cases read
    exact List.drop_suffix _ _
  · cases read

/-- A number or a word leaves what comes after it. -/
theorem readPlain_scans (cs : List Char) : Scans (readPlain cs) cs := by
  unfold readPlain
  split
  · exact .ok (word?_suffix ‹word? "null" cs = some _›)
  · exact .ok (word?_suffix ‹word? "true" cs = some _›)
  · exact .ok (word?_suffix ‹word? "false" cs = some _›)
  · exact .ok (word?_suffix ‹word? "NaN" cs = some _›)
  · exact .ok (word?_suffix ‹word? "Infinity" cs = some _›)
  · exact .ok (word?_suffix ‹word? "-Infinity" cs = some _›)
  · unfold readNumber
    split
    · exact (readMagnitude_scans _ _ _).mono (List.suffix_cons _ _)
    · exact readMagnitude_scans _ _ _

end Numbers

/-- Skipping blanks leaves an end of the text. -/
theorem skipSpace_suffix (cs : List Char) : skipSpace cs <:+ cs :=
  List.dropWhile_suffix _

section Parts

variable {fuel : Nat}

/-- The readers of values, of items and of members leave the end of their text with some fuel. -/
structure ReadersScan (fuel : Nat) : Prop where
  value : ∀ cs, Scans (readValue fuel cs) cs
  items : ∀ cs, Scans (readItems fuel cs) cs
  members : ∀ cs, Scans (readMembers fuel cs) cs

theorem suffix_of_skipSpace {c : Char} {rest after : List Char} (found : skipSpace after = c :: rest) :
    rest <:+ after :=
  (List.suffix_cons _ _).trans (found ▸ skipSpace_suffix _)

theorem ReadersScan.readValue (parts : ReadersScan fuel) (cs : List Char) :
    Scans (readValue (fuel + 1) cs) cs := by
  unfold Json.readValue
  split
  · refine Scans.mono ?_ (List.suffix_cons _ _)
    refine Scans.bind (readString_scans _) fun s after => ?_
    exact .ok List.suffix_rfl
  · rename_i rest
    refine Scans.mono ?_ (List.suffix_cons _ rest)
    split
    · rename_i found
      exact .ok (suffix_of_skipSpace found)
    · refine Scans.mono ?_ (skipSpace_suffix rest)
      refine Scans.bind (parts.members _) fun members after => ?_
      exact .ok List.suffix_rfl
  · rename_i rest
    refine Scans.mono ?_ (List.suffix_cons _ rest)
    split
    · rename_i found
      exact .ok (suffix_of_skipSpace found)
    · refine Scans.mono ?_ (skipSpace_suffix rest)
      refine Scans.bind (parts.items _) fun items after => ?_
      exact .ok List.suffix_rfl
  · exact readPlain_scans _

theorem ReadersScan.readItems (parts : ReadersScan fuel) (cs : List Char) :
    Scans (readItems (fuel + 1) cs) cs := by
  rw [Json.readItems]
  refine (parts.value cs).bind fun item after => ?_
  dsimp only
  split
  · rename_i found
    exact .ok (suffix_of_skipSpace found)
  · rename_i rest found
    refine Scans.mono ?_ ((skipSpace_suffix rest).trans (suffix_of_skipSpace found))
    refine Scans.bind (parts.items _) fun items after => ?_
    exact .ok List.suffix_rfl
  · exact .error (by simp)

theorem ReadersScan.readMembers (parts : ReadersScan fuel) (cs : List Char) :
    Scans (readMembers (fuel + 1) cs) cs := by
  unfold Json.readMembers
  split
  · rename_i rest
    refine Scans.mono ?_ (List.suffix_cons _ rest)
    refine (readString_scans rest).bind fun key after => ?_
    dsimp only
    split
    · rename_i rest found
      refine Scans.mono ?_ ((skipSpace_suffix rest).trans (suffix_of_skipSpace found))
      refine (parts.value _).bind fun value after => ?_
      dsimp only
      split
      · rename_i found
        exact .ok (suffix_of_skipSpace found)
      · rename_i rest found
        refine Scans.mono ?_ ((skipSpace_suffix rest).trans (suffix_of_skipSpace found))
        refine Scans.bind (parts.members _) fun members after => ?_
        exact .ok List.suffix_rfl
      · exact .error (by simp)
    · exact .error (by simp)
  · exact .error (by simp)

/-- Each of the three readers of values leaves the end of its text. -/
theorem readers_scan (fuel : Nat) : ReadersScan fuel := by
  induction fuel with
  | zero => exact ⟨fun cs => .error (by simp), fun cs => .error (by simp), fun cs => .error (by simp)⟩
  | succ fuel parts => exact ⟨parts.readValue, parts.readItems, parts.readMembers⟩

end Parts

/-- A text is refused for the size of an integer only if it has too many digits in a row. -/
theorem hasLongInteger_of_read {text : String} {fault : Fault} {digits : Nat}
    (refused : Json.read text = .error fault) (size : fault.complaint = .integerSize digits) :
    HasLongInteger digits text.toList := by
  unfold Json.read readText at refused
  split at refused
  · cases refused
    cases size
  · have scans := (readers_scan (2 * text.toList.length + 2)).value (skipSpace text.toList)
    cases read : readValue (2 * text.toList.length + 2) (skipSpace text.toList) with
    | error fault =>
      rw [read] at refused scans
      cases refused
      exact (scans.long fault rfl digits size).mono (skipSpace_suffix _)
    | ok found =>
      rw [read] at refused
      obtain ⟨value, after⟩ := found
      simp only [bind, Except.bind] at refused
      split at refused
      · cases refused
      · cases refused
        cases size

end CrateSurface.Json
