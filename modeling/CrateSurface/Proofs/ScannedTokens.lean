import CrateSurface.Grammar.Parse

namespace CrateSurface.Grammar

/-- A token as it is read off a text: a leaf without fault whose text is what was taken, which is
not nothing. -/
structure Taken (cs : List Char) (n : Node) (rest : List Char) : Prop where
  split : cs = n.textOrEmpty.toList ++ rest
  nonempty : n.textOrEmpty.toList ≠ []
  leaf : n.children = []
  sound : n.isFault = false

/-- Whatever the scanner matches, it returns just as it stood in the text. -/
def Faithful (scan : Scanner) : Prop :=
  ∀ {cs n rest}, scan cs = some (n, rest) → Taken cs n rest

theorem Taken.length_lt {cs rest : List Char} {n : Node} (taken : Taken cs n rest) :
    rest.length < cs.length := by
  have some := List.length_pos_iff.mpr taken.nonempty
  rw [taken.split, List.length_append]
  omega

/-- A token that was taken has no fault in it. -/
theorem Taken.hasFault {cs rest : List Char} {n : Node} (taken : Taken cs n rest) :
    n.hasFault = false := by
  obtain ⟨kind, text, field, named, error, missing, children⟩ := n
  have childless : children = [] := taken.leaf
  have sound : (error || missing) = false := taken.sound
  rw [childless, Node.hasFault, sound]
  rfl

theorem taken_leaf (kind : String) {taken : List Char} (some : taken ≠ []) (rest : List Char) :
    Taken (taken ++ rest) (Node.leaf kind (String.ofList taken)) rest :=
  ⟨by simp [Node.leaf, Node.textOrEmpty], by simpa [Node.leaf, Node.textOrEmpty], rfl, rfl⟩

theorem taken_token {text : String} (some : text ≠ "") (rest : List Char) :
    Taken (text.toList ++ rest) (Node.token text) rest :=
  ⟨rfl, by simpa [Node.token, Node.textOrEmpty], rfl, rfl⟩

/-- A front comes off exactly the texts that begin with it. -/
theorem dropFront?_eq_some {front cs rest : List Char} :
    dropFront? front cs = some rest ↔ cs = front ++ rest := by
  induction front generalizing cs with
  | nil => simp [dropFront?]
  | cons a front ih =>
    cases cs with
    | nil => simp [dropFront?]
    | cons c cs =>
      simp only [dropFront?, List.cons_append, List.cons.injEq]
      by_cases same : a = c
      · simp [same, ih]
      · simp [same, Ne.symm same]

theorem takeWhile_dropWhile_eq (p : Char → Bool) (cs : List Char) :
    cs = cs.takeWhile p ++ cs.dropWhile p :=
  List.takeWhile_append_dropWhile.symm

/-- A word is the front of the text, and has a character. -/
theorem plainWord?_eq_some {cs word rest : List Char} (found : plainWord? cs = some (word, rest)) :
    cs = word ++ rest ∧ word ≠ [] := by
  cases cs with
  | nil => simp [plainWord?] at found
  | cons c cs =>
    simp only [plainWord?] at found
    split at found
    · obtain ⟨rfl, rfl⟩ := Prod.mk.inj (Option.some.inj found)
      simp [List.takeWhile_append_dropWhile]
    · cases found

theorem word?_eq_some {cs word rest : List Char} (found : word? cs = some (word, rest)) :
    cs = word ++ rest ∧ word ≠ [] := by
  unfold word? at found
  split at found
  · next rest' =>
    split at found
    · next word' _ inner =>
      obtain ⟨rfl, rfl⟩ := Prod.mk.inj (Option.some.inj found)
      simp [(plainWord?_eq_some inner).1]
    · exact plainWord?_eq_some found
  · exact plainWord?_eq_some found

@[simp]
theorem keyword_faithful {word : String} (some : word ≠ "") : Faithful (keyword word) := by
  intro cs n rest found
  simp only [keyword] at found
  split at found
  · next after dropped =>
    split at found
    · cases found
    · obtain ⟨rfl, rfl⟩ := Prod.mk.inj (Option.some.inj found)
      rw [dropFront?_eq_some.mp dropped]
      exact taken_token some _
  · cases found

@[simp]
theorem keywordNode_faithful {kind word : String} (some : word ≠ "") :
    Faithful (keywordNode kind word) := by
  intro cs n rest found
  obtain ⟨⟨bare, after⟩, read, same⟩ := Option.map_eq_some_iff.mp found
  obtain ⟨rfl, rfl⟩ := Prod.mk.inj same
  have text : bare = Node.token word := by
    simp only [keyword] at read
    split at read
    · split at read
      · cases read
      · exact (Prod.mk.inj (Option.some.inj read)).1.symm
    · cases read
  have split := (keyword_faithful some read).split
  rw [text] at split
  have leaf := taken_leaf kind (by simpa : word.toList ≠ []) after
  rw [String.ofList_toList] at leaf
  rw [split]
  exact leaf

/-- A mark that was read is the front of the text, spelled as the mark. -/
theorem mark_eq_some {text longer : String} {cs rest : List Char} {n : Node}
    (found : mark text longer cs = some (n, rest)) :
    n = Node.token text ∧ cs = text.toList ++ rest := by
  simp only [mark] at found
  split at found
  · next after dropped =>
    rw [dropFront?_eq_some.mp dropped]
    split at found
    · split at found
      · cases found
      · obtain ⟨rfl, rfl⟩ := Prod.mk.inj (Option.some.inj found)
        exact ⟨rfl, rfl⟩
    · obtain ⟨rfl, rfl⟩ := Prod.mk.inj (Option.some.inj found)
      exact ⟨rfl, rfl⟩
  · cases found

@[simp]
theorem mark_faithful {text longer : String} (some : text ≠ "") :
    Faithful (mark text longer) := by
  intro cs n rest found
  obtain ⟨rfl, rfl⟩ := mark_eq_some found
  exact taken_token some _

@[simp]
theorem anyWord_faithful (kind : String) : Faithful (anyWord kind) := by
  intro cs n rest found
  obtain ⟨⟨word, after⟩, read, same⟩ := Option.map_eq_some_iff.mp found
  obtain ⟨rfl, rfl⟩ := Prod.mk.inj same
  obtain ⟨rfl, some⟩ := word?_eq_some read
  exact taken_leaf kind some _

@[simp]
theorem name_faithful (kind : String) : Faithful (name kind) := by
  intro cs n rest found
  simp only [name] at found
  split at found
  · next word after read =>
    obtain ⟨rfl, some⟩ := word?_eq_some read
    split at found
    · cases found
    · obtain ⟨rfl, rfl⟩ := Prod.mk.inj (Option.some.inj found)
      exact taken_leaf kind some _
  · cases found

@[simp]
theorem primitiveType_faithful (kind : String) : Faithful (primitiveType kind) := by
  intro cs n rest found
  simp only [primitiveType] at found
  split at found
  · next word after read =>
    obtain ⟨rfl, some⟩ := plainWord?_eq_some read
    split at found
    · obtain ⟨rfl, rfl⟩ := Prod.mk.inj (Option.some.inj found)
      exact taken_leaf kind some _
    · cases found
  · cases found

/-- A lifetime takes its quote and its name. -/
@[simp]
theorem lifetime_faithful (kind : String) : Faithful (lifetime kind) := by
  intro cs n rest found
  unfold lifetime at found
  split at found
  · split at found
    · cases found
    · next word after _ read =>
      obtain ⟨rfl, -⟩ := word?_eq_some read
      obtain ⟨rfl, rfl⟩ := Prod.mk.inj (Option.some.inj found)
      exact taken_leaf kind (List.cons_ne_nil _ _) _
    · cases found
  · cases found

@[simp]
theorem metavariable_faithful : Faithful metavariable := by
  intro cs n rest found
  unfold metavariable at found
  split at found
  · split at found
    · next word after read =>
      obtain ⟨rfl, -⟩ := plainWord?_eq_some read
      obtain ⟨rfl, rfl⟩ := Prod.mk.inj (Option.some.inj found)
      exact taken_leaf _ (List.cons_ne_nil _ _) _
    · cases found
  · cases found

theorem escape?_eq_some {cs escape rest : List Char} (found : escape? cs = some (escape, rest)) :
    cs = escape ++ rest := by
  unfold escape? at found
  split at found
  · split at found
    · obtain ⟨rfl, rfl⟩ := Prod.mk.inj (Option.some.inj found)
      rfl
    · cases found
  · next body =>
    split at found
    · cases found
    · next after closed _ =>
      obtain ⟨rfl, rfl⟩ := Prod.mk.inj (Option.some.inj found)
      have whole := takeWhile_dropWhile_eq isHexDigit body
      rw [closed] at whole
      simpa using whole
    · cases found
  · split at found
    · obtain ⟨rfl, rfl⟩ := Prod.mk.inj (Option.some.inj found)
      rfl
    · cases found
  · split at found
    · cases found
    · obtain ⟨rfl, rfl⟩ := Prod.mk.inj (Option.some.inj found)
      rfl
  · cases found

/-- The body of a string, with its closing quote, is the front of what came after the opening one.
-/
theorem stringBody?_eq_some {fuel : Nat} {cs body rest : List Char}
    (found : stringBody? fuel cs = some (body, rest)) : cs = body ++ rest := by
  fun_induction stringBody? fuel cs generalizing body with
  | case1 => cases found
  | case2 => cases found
  | case3 =>
    obtain ⟨rfl, rfl⟩ := Prod.mk.inj (Option.some.inj found)
    rfl
  | case4 fuel cs ih =>
    obtain ⟨⟨escape, after⟩, escaped, found⟩ := Option.bind_eq_some_iff.mp found
    obtain ⟨⟨inner, behind⟩, read, same⟩ := Option.bind_eq_some_iff.mp found
    obtain ⟨rfl, rfl⟩ := Prod.mk.inj (Option.some.inj same)
    rw [escape?_eq_some escaped, ih _ read]
    simp
  | case5 fuel c cs _ _ ih =>
    obtain ⟨⟨inner, behind⟩, read, same⟩ := Option.bind_eq_some_iff.mp found
    obtain ⟨rfl, rfl⟩ := Prod.mk.inj (Option.some.inj same)
    rw [ih read]
    rfl

@[simp]
theorem stringLiteral_faithful : Faithful stringLiteral := by
  intro cs n rest found
  simp only [stringLiteral] at found
  split at found
  · next front body opened =>
    obtain ⟨⟨inner, behind⟩, read, same⟩ := Option.bind_eq_some_iff.mp found
    obtain ⟨rfl, rfl⟩ := Prod.mk.inj (Option.some.inj same)
    have split : cs = (front ++ inner) ++ behind ∧ front ≠ [] := by
      rw [List.append_assoc, ← stringBody?_eq_some read]
      split at opened
      all_goals simp_all
      all_goals simp [← opened.1, ← opened.2]
    rw [split.1]
    exact taken_leaf _ (by simp [split.2]) _
  · cases found

/-- The body of a raw string ends with the quote and the hashes that close it. -/
theorem rawBody?_eq_some {closing cs body rest : List Char}
    (found : rawBody? closing cs = some (body, rest)) : cs = body ++ rest := by
  induction cs generalizing body with
  | nil => cases found
  | cons c cs ih =>
    rw [rawBody?] at found
    split at found
    · next after dropped =>
      obtain ⟨rfl, rfl⟩ := Prod.mk.inj (Option.some.inj found)
      exact dropFront?_eq_some.mp dropped
    · obtain ⟨⟨inner, behind⟩, read, same⟩ := Option.map_eq_some_iff.mp found
      obtain ⟨rfl, rfl⟩ := Prod.mk.inj same
      rw [ih read]
      rfl

@[simp]
theorem rawStringLiteral_faithful : Faithful rawStringLiteral := by
  intro cs n rest found
  simp only [rawStringLiteral] at found
  split at found
  · next front hashed opened =>
    split at found
    · next quoted unhashed =>
      split at found
      · next body behind read =>
        obtain ⟨rfl, rfl⟩ := Prod.mk.inj (Option.some.inj found)
        have whole := List.takeWhile_append_dropWhile (p := (· == '#')) (l := hashed)
        rw [unhashed, rawBody?_eq_some read] at whole
        have split : cs = front ++ hashed ∧ front ≠ [] := by
          split at opened
          all_goals simp_all
          all_goals simp [← opened.1]
        have text : cs = (front ++ hashed.takeWhile (· == '#') ++ '"' :: body) ++ behind := by
          rw [split.1, List.append_assoc, List.append_assoc]
          exact congrArg _ whole.symm
        rw [text]
        exact taken_leaf _ (by simp) _
      · cases found
    · cases found
  · cases found

/-- What is read between the quotes of a character stands there. -/
theorem charContent_split {body content behind : List Char}
    (held : (match body with
      | '\'' :: '\\' :: rest => (escape? rest).map fun (escape, rest) => ('\\' :: escape, rest)
      | '\'' :: '\'' :: _ => some ([], body.drop 1)
      | '\'' :: c :: rest => some ([c], rest)
      | _ => none) = some (content, '\'' :: behind)) :
    body = '\'' :: content ++ '\'' :: behind := by
  split at held
  · obtain ⟨⟨escape, after⟩, escaped, same⟩ := Option.map_eq_some_iff.mp held
    obtain ⟨rfl, rfl⟩ := Prod.mk.inj same
    simp [escape?_eq_some escaped]
  · obtain ⟨rfl, same⟩ := Prod.mk.inj (Option.some.inj held)
    simpa using same
  · obtain ⟨rfl, rfl⟩ := Prod.mk.inj (Option.some.inj held)
    rfl
  · cases held

/-- A character literal is taken with both quotes, escaped or not. -/
@[simp]
theorem charLiteral_faithful : Faithful charLiteral := by
  intro cs n rest found
  simp only [charLiteral] at found
  split at found
  · next content behind held =>
    obtain ⟨rfl, rfl⟩ := Prod.mk.inj (Option.some.inj found)
    -- The text splits into the byte marker, the opening quote, the content and what follows.
    have body := charContent_split held
    split at body
    · next tail =>
      have text : 'b' :: tail = ('b' :: '\'' :: content ++ ['\'']) ++ behind := by
        simpa using body
      rw [text]
      exact taken_leaf _ (by simp) _
    · have text : cs = ('\'' :: content ++ ['\'']) ++ behind := by simpa using body
      rw [text]
      exact taken_leaf _ (by simp) _
  · cases found

/-- The suffix of an integer and what is after it are the text. -/
theorem numberSuffix_split (cs : List Char) : cs = (numberSuffix cs).1 ++ (numberSuffix cs).2 := by
  have held : ∀ (fitting : List (List Char × List Char)) (best : List Char × List Char),
      cs = best.1 ++ best.2 → (∀ found ∈ fitting, cs = found.1 ++ found.2) →
      let longest := fitting.foldl
        (fun best found => if best.1.length < found.1.length then found else best) best
      cs = longest.1 ++ longest.2 := by
    intro fitting
    induction fitting with
    | nil => exact fun _ held _ => held
    | cons found fitting ih =>
      intro best held each
      refine ih _ ?_ fun other member => each other (List.mem_cons_of_mem _ member)
      dsimp only
      split
      · exact each found (List.mem_cons_self ..)
      · exact held
  refine held _ _ rfl fun found member => ?_
  obtain ⟨suffix, -, fits⟩ := List.mem_filterMap.mp member
  obtain ⟨rest, dropped, rfl⟩ := Option.map_eq_some_iff.mp fits
  exact dropFront?_eq_some.mp dropped

/-- Digits in a base are the front of the text, with the zero and the letter of the base. -/
theorem basedDigits_eq_some {base : Char} {isOne : Char → Bool} {cs : List Char}
    {found : List Char × List Char} (read : (match cs with
      | '0' :: b :: rest =>
        if b == base then
          match rest.takeWhile isOne with
          | [] => none
          | digits => some ('0' :: b :: digits, rest.dropWhile isOne)
        else none
      | _ => none) = some found) : cs = found.1 ++ found.2 ∧ found.1 ≠ [] := by
  split at read
  · split at read
    · split at read
      · cases read
      · rw [← Option.some.inj read]
        simp [List.takeWhile_append_dropWhile]
    · cases read
  · cases read

/-- The digits of an integer, in any base, are the front of the text. -/
theorem integerDigits?_eq_some {cs digits rest : List Char}
    (found : integerDigits? cs = some (digits, rest)) : cs = digits ++ rest ∧ digits ≠ [] := by
  simp only [integerDigits?] at found
  split at found
  · next read => exact basedDigits_eq_some (read.trans found)
  · next read _ => exact basedDigits_eq_some (read.trans found)
  · next read _ _ => exact basedDigits_eq_some (read.trans found)
  · split at found
    · split at found
      · obtain ⟨rfl, rfl⟩ := Prod.mk.inj (Option.some.inj found)
        simp [List.takeWhile_append_dropWhile]
      · cases found
    · cases found

@[simp]
theorem integerLiteral_faithful : Faithful integerLiteral := by
  intro cs n rest found
  simp only [integerLiteral] at found
  split at found
  · next digits behind read =>
    obtain ⟨rfl, rfl⟩ := Prod.mk.inj (Option.some.inj found)
    obtain ⟨rfl, some⟩ := integerDigits?_eq_some read
    have text : digits ++ behind =
        (digits ++ (numberSuffix behind).1) ++ (numberSuffix behind).2 := by
      rw [List.append_assoc, ← numberSuffix_split]
    rw [text]
    exact taken_leaf _ (by simp [some]) _
  · cases found

/-- A fraction is the front of the text, with its point. -/
theorem fractionPart?_eq_some {cs fraction rest : List Char}
    (found : fractionPart? cs = some (fraction, rest)) : cs = fraction ++ rest := by
  unfold fractionPart? at found
  split at found
  · split at found
    · split at found
      · cases found
      · obtain ⟨rfl, rfl⟩ := Prod.mk.inj (Option.some.inj found)
        simp [List.takeWhile_append_dropWhile]
    · obtain ⟨rfl, rfl⟩ := Prod.mk.inj (Option.some.inj found)
      rfl
  · obtain ⟨rfl, rfl⟩ := Prod.mk.inj (Option.some.inj found)
    rfl

/-- An exponent, which may be missing, and what is after it are the text. -/
theorem exponentPart_split (cs : List Char) : cs = (exponentPart cs).1 ++ (exponentPart cs).2 := by
  unfold exponentPart
  split
  · next e rest =>
    split
    · split
      next sign body signed =>
      have whole : rest = sign ++ body := by
        split at signed
        all_goals obtain ⟨rfl, rfl⟩ := Prod.mk.inj signed; rfl
      split
      · rfl
      · rw [List.append_assoc, ← takeWhile_dropWhile_eq, List.cons_append, whole]
    · rfl
  · rfl

/-- The suffix of a float and what is after it are the text. -/
theorem floatSuffix_split (cs : List Char) : cs = (floatSuffix cs).1 ++ (floatSuffix cs).2 := by
  unfold floatSuffix
  split
  · split
    · split
      · rfl
      · simp [List.takeWhile_append_dropWhile]
    · rfl
  · rfl

@[simp]
theorem floatLiteral_faithful : Faithful floatLiteral := by
  intro cs n rest found
  unfold floatLiteral at found
  split at found
  · next c body =>
    split at found
    · split at found
      · cases found
      · next fraction after read =>
        simp only at found
        split at found
        · cases found
        · obtain ⟨rfl, rfl⟩ := Prod.mk.inj (Option.some.inj found)
          have exponent := exponentPart_split after
          have suffix := floatSuffix_split (exponentPart after).2
          have text : c :: body = (c :: body.takeWhile isNumberChar ++ fraction ++
              (exponentPart after).1 ++ (floatSuffix (exponentPart after).2).1) ++
              (floatSuffix (exponentPart after).2).2 := by
            rw [List.append_assoc, ← suffix, List.append_assoc, ← exponent, List.append_assoc,
              ← fractionPart?_eq_some read, List.cons_append, ← takeWhile_dropWhile_eq]
          rw [text]
          exact taken_leaf _ (by simp) _
    · cases found
  · cases found

@[simp]
theorem treeMark_faithful : Faithful treeMark := by
  intro cs n rest found
  simp only [treeMark] at found
  split at found
  · cases found
  · obtain ⟨text, member, fits⟩ := List.exists_of_findSome?_eq_some found
    obtain ⟨after, dropped, same⟩ := Option.map_eq_some_iff.mp fits
    obtain ⟨rfl, rfl⟩ := Prod.mk.inj same
    have nonempty : ∀ text ∈ treeMarks, text ≠ "" := by decide
    rw [dropFront?_eq_some.mp dropped]
    exact taken_token (nonempty text member) _

@[simp]
theorem shebang_faithful : Faithful shebang := by
  intro cs n rest found
  unfold shebang at found
  split at found
  · next body =>
    simp only at found
    split at found
    · cases found
    · split at found
      · cases found
      · obtain ⟨rfl, rfl⟩ := Prod.mk.inj (Option.some.inj found)
        have text : '#' :: '!' :: body = ('#' :: '!' :: body.takeWhile (· != '\n')) ++
            body.drop (body.takeWhile (· != '\n')).length := by
          have line := takeWhile_dropWhile_eq (· != '\n') body
          have after : body.drop (body.takeWhile (· != '\n')).length = body.dropWhile (· != '\n') :=
            (congrArg (List.drop _) line).trans List.drop_left
          rw [after, List.cons_append, List.cons_append, ← line]
        rw [text]
        exact taken_leaf _ (List.cons_ne_nil _ _) _
  · cases found

end CrateSurface.Grammar
