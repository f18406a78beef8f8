import CrateSurface.Proofs.JsonText

namespace CrateSurface.Json

/-- Texts one after the other with commas between them, each behind some blanks. -/
def joinTexts (blanks : List Char) : List (List Char) → List Char
  | [] => []
  | [text] => blanks ++ text
  | text :: rest => blanks ++ text ++ ',' :: joinTexts blanks rest

/-- The inside of brackets: nothing, or texts behind blanks, and blanks before the closing bracket. -/
def listText (before after : List Char) : List (List Char) → List Char
  | [] => []
  | text :: rest => joinTexts before (text :: rest) ++ after

/-- The text of a member: its name, a colon and its value. -/
def memberText (char : Char → List Char) (colon : List Char) (write : Json → List Char)
    (m : String × Json) : List Char :=
  writeString char m.1 ++ ':' :: (colon ++ write m.2)

/-- A way to write values without floats: what stands for a value at a depth, how the characters of
strings are written, and the blanks before the parts of a list at a depth and after a colon. -/
structure Layout where
  text : Nat → Json → List Char
  char : Char → List Char
  gap : Nat → List Char
  colon : List Char
  text_null (depth : Nat) : text depth .null = "null".toList
  text_bool (depth : Nat) (b : Bool) : text depth (.bool b) = (if b then "true" else "false").toList
  text_int (depth : Nat) (n : Int) : text depth (.int n) = intText n
  text_str (depth : Nat) (s : String) : text depth (.str s) = writeString char s
  text_arr (depth : Nat) (items : List Json) : text depth (.arr items) =
    '[' :: (listText (gap (depth + 1)) (gap depth) (items.map (text (depth + 1))) ++ [']'])
  text_obj (depth : Nat) (members : List (String × Json)) : text depth (.obj members) =
    '\x7b' :: (listText (gap (depth + 1)) (gap depth) (members.map
      (memberText char colon (text (depth + 1)))) ++ ['\x7d'])
  char_back : ReadsBack char
  gap_blank : ∀ depth, ∀ c ∈ gap depth, isSpace c = true
  colon_blank : ∀ c ∈ colon, isSpace c = true

theorem joinTexts_cons_cons (blanks text next : List Char) (rest : List (List Char)) :
    joinTexts blanks (text :: next :: rest) =
      blanks ++ text ++ ',' :: joinTexts blanks (next :: rest) := by
  rw [joinTexts]
  exact List.cons_ne_nil next rest

namespace Layout

section Writers

/-- The compact items of an array are joined by commas. -/
theorem writeItems_eq (items : List Json) :
    writeItems items = joinTexts [] (items.map writeCompact) := by
  induction items with
  | nil => rfl
  | cons item rest ih =>
    cases rest with
    | nil => rfl
    | cons next rest =>
      rw [writeItems, ih]
      · rfl
      · exact List.cons_ne_nil next rest

theorem writeMembers_eq (members : List (String × Json)) :
    writeMembers members = joinTexts [] (members.map (memberText plainChar [] writeCompact)) := by
  induction members with
  | nil => rfl
  | cons member rest ih =>
    cases rest with
    | nil => rfl
    | cons next rest =>
      rw [writeMembers, ih]
      · simp [joinTexts, memberText]
      · exact List.cons_ne_nil next rest

theorem listText_nil (texts : List (List Char)) : listText [] [] texts = joinTexts [] texts := by
  cases texts with
  | nil => rfl
  | cons text rest => exact List.append_nil _

/-- All on one line. -/
def compact : Layout where
  text _ := writeCompact
  char := plainChar
  gap _ := []
  colon := []
  text_null _ := rfl
  text_bool _ _ := rfl
  text_int _ _ := rfl
  text_str _ _ := rfl
  text_arr _ items := by rw [writeCompact, writeItems_eq, listText_nil]; rfl
  text_obj _ members := by rw [writeCompact, writeMembers_eq, listText_nil]; rfl
  char_back := plainChar_readsBack
  gap_blank _ := by simp
  colon_blank := by simp

/-- The indented items of an array are joined by commas, each on its line. -/
theorem indentItems_eq (depth : Nat) (items : List Json) :
    indentItems depth items = joinTexts (newline depth) (items.map (writeIndented depth)) := by
  induction items with
  | nil => rfl
  | cons item rest ih =>
    cases rest with
    | nil => rfl
    | cons next rest =>
      rw [indentItems, ih]
      · rfl
      · exact List.cons_ne_nil next rest

theorem indentMembers_eq (depth : Nat) (members : List (String × Json)) :
    indentMembers depth members = joinTexts (newline depth)
      (members.map (memberText asciiChar [' '] (writeIndented depth))) := by
  induction members with
  | nil => rfl
  | cons member rest ih =>
    cases rest with
    | nil => simp [indentMembers, joinTexts, memberText]
    | cons next rest =>
      rw [indentMembers, ih]
      · simp [joinTexts, memberText]
      · exact List.cons_ne_nil next rest

theorem newline_blank (depth : Nat) : ∀ c ∈ newline depth, isSpace c = true := by
  intro c member
  rcases List.mem_cons.mp member with rfl | later
  · rfl
  · rw [List.eq_of_mem_replicate later]
    rfl

/-- Spread over lines, in ASCII. -/
def indented : Layout where
  text := writeIndented
  char := asciiChar
  gap := newline
  colon := [' ']
  text_null _ := rfl
  text_bool _ _ := rfl
  text_int _ _ := rfl
  text_str _ _ := rfl
  text_arr depth items := by
    cases items with
    | nil => rfl
    | cons item rest => rw [writeIndented, indentItems_eq]; simp [listText]
  text_obj depth members := by
    cases members with
    | nil => rfl
    | cons member rest => rw [writeIndented, indentMembers_eq]; simp [listText]
  char_back := asciiChar_readsBack
  gap_blank := newline_blank
  colon_blank := by simp [isSpace]

end Writers

section Reading

variable {fuel : Nat} {blanks after rest text : List Char}

/-- The first character of a value or a member tells it from blanks, from the end of a list and from
a byte order mark. -/
def Opens (text : List Char) : Prop :=
  ∃ c cs, text = c :: cs ∧ isSpace c = false ∧ c ≠ ']' ∧ c ≠ '\ufeff'

theorem Opens.skipSpace (opens : Opens text) (rest : List Char) :
    skipSpace (text ++ rest) = text ++ rest := by
  obtain ⟨c, cs, rfl, visible, _⟩ := opens
  exact skipSpace_cons visible _

/-- The text of a value begins with a visible character that closes nothing. -/
theorem opens_text (layout : Layout) {value : Json} (plain : value.FloatFree) (depth : Nat) :
    Opens (layout.text depth value) := by
  cases plain with
  | null => exact ⟨'n', _, layout.text_null depth, by decide⟩
  | bool b =>
    cases b with
    | true => exact ⟨'t', _, layout.text_bool depth true, by decide⟩
    | false => exact ⟨'f', _, layout.text_bool depth false, by decide⟩
  | int n =>
    obtain ⟨c, cs, text, digit | ⟨rfl, _⟩⟩ := intText_head n
    · exact ⟨c, cs, (layout.text_int depth n).trans text, isSpace_of_isDigit digit,
        (ne_of_isDigit digit rfl).symm, (ne_of_isDigit digit rfl).symm⟩
    · exact ⟨'-', cs, (layout.text_int depth n).trans text, by decide⟩
  | str s => exact ⟨'"', _, layout.text_str depth s, by decide⟩
  | arr => exact ⟨'[', _, layout.text_arr depth _, by decide⟩
  | obj => exact ⟨'\x7b', _, layout.text_obj depth _, by decide⟩

/-- Where texts begin, the first of them is read, without the blanks before it. -/
theorem skipSpace_joinTexts (blank : ∀ c ∈ blanks, isSpace c = true) (opens : Opens text)
    (texts : List (List Char)) (rest : List Char) :
    ∃ more, skipSpace (joinTexts blanks (text :: texts) ++ rest) = text ++ more := by
  cases texts with
  | nil =>
    rw [joinTexts, List.append_assoc, skipSpace_append blank, opens.skipSpace]
    exact ⟨rest, rfl⟩
  | cons next texts =>
    rw [joinTexts_cons_cons, List.append_assoc, List.append_assoc, skipSpace_append blank,
      opens.skipSpace]
    exact ⟨_, rfl⟩

/-- A text that a value is read back from wherever the text ends. The reader takes two steps a
character at most. -/
def Restores (text : List Char) (value : Json) : Prop :=
  ∀ fuel rest, Ends rest → 2 * text.length ≤ fuel → readValue fuel (text ++ rest) = .ok (value, rest)

section Items

variable {item : Json} {items : List Json} {write : Json → List Char}

/-- The last item of an array is read up to the bracket. -/
theorem readItems_last (restores : Restores text item) (closed : skipSpace after = ']' :: rest)
    (ends : Ends after) (room : 2 * text.length ≤ fuel) :
    readItems (fuel + 1) (text ++ after) = .ok ([item], rest) := by
  rw [readItems, restores fuel after ends room]
  simp only [bind, Except.bind, closed]
  rfl

/-- An item of an array is read up to the comma, and the others behind it. -/
theorem readItems_more (restores : Restores text item) (room : 2 * text.length ≤ fuel)
    (others : readItems fuel (skipSpace after) = .ok (items, rest)) :
    readItems (fuel + 1) (text ++ ',' :: after) = .ok (item :: items, rest) := by
  rw [readItems, restores fuel _ (ends_cons (by decide) after) room]
  change (readItems fuel (skipSpace after) >>= fun read => pure (item :: read.1, read.2)) = _
  rw [others]
  rfl

/-- Joined items are read back, if each of them is. -/
theorem readItems_joinTexts (blank : ∀ c ∈ blanks, isSpace c = true)
    (afterBlank : ∀ c ∈ after, isSpace c = true) :
    ∀ fuel, items ≠ [] → (∀ item ∈ items, Opens (write item)) →
      (∀ item ∈ items, Restores (write item) item) →
      2 * (joinTexts blanks (items.map write)).length + 1 ≤ fuel →
      readItems fuel (skipSpace (joinTexts blanks (items.map write) ++ (after ++ ']' :: rest))) =
        .ok (items, rest) := by
  -- An item takes one step from the fuel for those behind it, and the comma between them leaves two.
  induction items with
  | nil => intro fuel empty; exact absurd rfl empty
  | cons item items ih =>
    intro fuel _ opens restores room
    obtain ⟨opened, others⟩ := List.forall_mem_cons.mp opens
    obtain ⟨own, restored⟩ := List.forall_mem_cons.mp restores
    cases fuel with
    | zero => omega
    | succ fuel =>
      cases items with
      | nil =>
        have closed : skipSpace (after ++ ']' :: rest) = ']' :: rest := by
          rw [skipSpace_append afterBlank, skipSpace_cons rfl]
        simp only [List.map_cons, List.map_nil, joinTexts, List.length_append] at room ⊢
        rw [List.append_assoc, skipSpace_append blank, opened.skipSpace]
        exact readItems_last own closed (.append afterBlank (ends_cons (by decide) rest)) (by omega)
      | cons next items =>
        have later := ih fuel (List.cons_ne_nil _ _) others restored
        simp only [List.map_cons, joinTexts_cons_cons, List.length_append, List.length_cons]
          at room later ⊢
        rw [List.append_assoc, List.append_assoc, skipSpace_append blank, opened.skipSpace]
        exact readItems_more own (by omega) (later (by omega))

/-- An array is read back, if its items are. -/
theorem readValue_array (blank : ∀ c ∈ blanks, isSpace c = true)
    (afterBlank : ∀ c ∈ after, isSpace c = true) (opens : ∀ item ∈ items, Opens (write item))
    (restores : ∀ item ∈ items, Restores (write item) item)
    (room : 2 * (listText blanks after (items.map write)).length + 1 ≤ fuel) :
    readValue (fuel + 1) ('[' :: (listText blanks after (items.map write) ++ ']' :: rest)) =
      .ok (.arr items, rest) := by
  cases items with
  | nil => rfl
  | cons item items =>
    rw [List.map_cons, listText, ← List.map_cons] at room ⊢
    rw [List.length_append] at room
    have read : readItems fuel (skipSpace
        (joinTexts blanks ((item :: items).map write) ++ (after ++ ']' :: rest))) = _ :=
      readItems_joinTexts blank afterBlank fuel (List.cons_ne_nil _ _) opens restores (by omega)
    have opened := opens item (List.mem_cons_self ..)
    obtain ⟨more, start⟩ := skipSpace_joinTexts blank opened (items.map write) (after ++ ']' :: rest)
    obtain ⟨c, cs, shape, _, unclosed, _⟩ := opened
    have start : skipSpace (joinTexts blanks (write item :: items.map write) ++ (after ++ ']' :: rest)) =
        c :: (cs ++ more) := by rw [start, shape]; rfl
    rw [List.map_cons, start] at read
    rw [List.map_cons, List.append_assoc]
    simp only [readValue, start]
    split
    · rename_i same
      exact absurd (List.cons.inj same).1 unclosed
    · rw [read]
      rfl

end Items

section Members

variable {char : Char → List Char} {colon : List Char} {key : String} {value : Json}
  {members : List (String × Json)} {write : Json → List Char}

theorem opens_memberText (char : Char → List Char) (colon : List Char) (write : Json → List Char)
    (m : String × Json) : Opens (memberText char colon write m) :=
  ⟨'"', _, rfl, by decide⟩

/-- A member is read up to the end of its value. -/
theorem readMembers_member (back : ReadsBack char) (colonBlank : ∀ c ∈ colon, isSpace c = true)
    (opens : Opens (write value)) (restores : Restores (write value) value) (ends : Ends after)
    (room : 2 * (write value).length ≤ fuel) :
    readMembers (fuel + 1) (memberText char colon write (key, value) ++ after) =
      match skipSpace after with
      | '\x7d' :: rest => .ok ([(key, value)], rest)
      | ',' :: rest => do
        let (members, rest) ← readMembers fuel (skipSpace rest)
        return ((key, value) :: members, rest)
      | rest => .error ⟨.comma, rest⟩ := by
  have name := readString_flatMap back key (':' :: (colon ++ (write value ++ after)))
  have separator : skipSpace (':' :: (colon ++ (write value ++ after))) =
      ':' :: (colon ++ (write value ++ after)) := skipSpace_cons rfl _
  have start : skipSpace (colon ++ (write value ++ after)) = write value ++ after := by
    rw [skipSpace_append colonBlank, opens.skipSpace]
  simp only [memberText, writeString, List.cons_append, List.append_assoc, List.nil_append,
    readMembers, name, bind, Except.bind, separator, start, restores fuel after ends room]
  rfl

/-- Joined members are read back, if the value of each is. -/
theorem readMembers_joinTexts (back : ReadsBack char)
    (colonBlank : ∀ c ∈ colon, isSpace c = true) (blank : ∀ c ∈ blanks, isSpace c = true)
    (afterBlank : ∀ c ∈ after, isSpace c = true) :
    ∀ fuel, members ≠ [] → (∀ m ∈ members, Opens (write m.2)) →
      (∀ m ∈ members, Restores (write m.2) m.2) →
      2 * (joinTexts blanks (members.map (memberText char colon write))).length + 1 ≤ fuel →
      readMembers fuel (skipSpace (joinTexts blanks (members.map (memberText char colon write)) ++
        (after ++ '\x7d' :: rest))) = .ok (members, rest) := by
  induction members with
  | nil => intro fuel empty; exact absurd rfl empty
  | cons member members ih =>
    intro fuel _ opens restores room
    obtain ⟨key, value⟩ := member
    obtain ⟨opened, others⟩ := List.forall_mem_cons.mp opens
    obtain ⟨own, restored⟩ := List.forall_mem_cons.mp restores
    dsimp only at opened own
    have short : (write value).length + 2 ≤ (memberText char colon write (key, value)).length := by
      simp only [memberText, writeString, List.length_append, List.length_cons]
      omega
    have started := opens_memberText char colon write (key, value)
    cases fuel with
    | zero => omega
    | succ fuel =>
      cases members with
      | nil =>
        have closed : skipSpace (after ++ '\x7d' :: rest) = '\x7d' :: rest := by
          rw [skipSpace_append afterBlank, skipSpace_cons rfl]
        simp only [List.map_cons, List.map_nil, joinTexts, List.length_append] at room ⊢
        rw [List.append_assoc, skipSpace_append blank, started.skipSpace,
          readMembers_member back colonBlank opened own
            (.append afterBlank (ends_cons (by decide) rest)) (by omega), closed]
        rfl
      | cons next members =>
        have later := ih fuel (List.cons_ne_nil _ _) others restored
        simp only [List.map_cons, joinTexts_cons_cons, List.length_append, List.length_cons]
          at room later ⊢
        rw [List.append_assoc, List.append_assoc, skipSpace_append blank, started.skipSpace,
          List.cons_append, readMembers_member back colonBlank opened own
            (ends_cons (by decide) _) (by omega), skipSpace_cons rfl]
        change (readMembers fuel (skipSpace _) >>= fun read => pure ((key, value) :: read.1, read.2)) = _
        rw [later (by omega)]
        rfl

/-- An object with distinct keys is read back, if its values are. -/
theorem readValue_object (back : ReadsBack char)
    (colonBlank : ∀ c ∈ colon, isSpace c = true) (blank : ∀ c ∈ blanks, isSpace c = true)
    (afterBlank : ∀ c ∈ after, isSpace c = true) (distinct : (members.map Prod.fst).Nodup)
    (opens : ∀ m ∈ members, Opens (write m.2)) (restores : ∀ m ∈ members, Restores (write m.2) m.2)
    (room : 2 * (listText blanks after (members.map (memberText char colon write))).length + 1 ≤ fuel) :
    readValue (fuel + 1) ('\x7b' ::
      (listText blanks after (members.map (memberText char colon write)) ++ '\x7d' :: rest)) =
      .ok (.obj members, rest) := by
  cases members with
  | nil => rfl
  | cons member members =>
    rw [List.map_cons, listText, ← List.map_cons] at room ⊢
    rw [List.length_append] at room
    have read : readMembers fuel (skipSpace (joinTexts blanks
        ((member :: members).map (memberText char colon write)) ++ (after ++ '\x7d' :: rest))) = _ :=
      readMembers_joinTexts back colonBlank blank afterBlank fuel (List.cons_ne_nil _ _) opens restores
        (by omega)
    have opened := opens_memberText char colon write member
    obtain ⟨more, start⟩ := skipSpace_joinTexts blank opened
      (members.map (memberText char colon write)) (after ++ '\x7d' :: rest)
    rw [List.map_cons, start] at read
    rw [List.map_cons, List.append_assoc, ← ofMembers_of_nodup distinct]
    simp only [memberText, writeString, List.cons_append] at read start
    simp only [readValue, memberText, writeString, List.cons_append, start]
    change (readMembers fuel _ >>= fun read => pure (ofMembers read.1, read.2)) = _
    rw [read]
    rfl

end Members

/-- Legible values without floats are read back from their text in every layout. -/
theorem restores (layout : Layout) {value : Json} (legible : value.Legible) :
    value.FloatFree → ∀ depth, Restores (layout.text depth value) value := by
  -- The brackets of a list leave the fuel for the step into it and for the one to its first part.
  induction legible with
  | null =>
    intro _ depth fuel rest ends room
    rw [layout.text_null] at room ⊢
    cases fuel with
    | zero => cases room
    | succ fuel => rfl
  | bool b =>
    intro _ depth fuel rest ends room
    rw [layout.text_bool] at room ⊢
    cases fuel with
    | zero => cases b <;> cases room
    | succ fuel => cases b <;> rfl
  | @int n short =>
    intro _ depth fuel rest ends room
    rw [layout.text_int] at room ⊢
    cases fuel with
    | zero =>
      obtain ⟨c, cs, text, _⟩ := intText_head n
      simp [text] at room
    | succ fuel => exact readValue_intText short ends
  | float x => intro plain; cases plain
  | str s =>
    intro _ depth fuel rest ends room
    rw [layout.text_str] at room ⊢
    cases fuel with
    | zero => simp [writeString] at room
    | succ fuel => exact readValue_writeString layout.char_back s
  | @arr items _ ih =>
    intro plain depth fuel rest ends room
    cases plain with
    | arr plain =>
      rw [layout.text_arr, List.length_cons, List.length_append] at room
      rw [layout.text_arr, List.cons_append, List.append_assoc]
      cases fuel with
      | zero => omega
      | succ fuel =>
        exact readValue_array (layout.gap_blank _) (layout.gap_blank _)
          (fun item member => layout.opens_text (plain item member) _)
          (fun item member => ih item member (plain item member) _) (by omega)
  | @obj members distinct _ ih =>
    intro plain depth fuel rest ends room
    cases plain with
    | obj plain =>
      rw [layout.text_obj, List.length_cons, List.length_append] at room
      rw [layout.text_obj, List.cons_append, List.append_assoc]
      cases fuel with
      | zero => omega
      | succ fuel =>
        exact readValue_object layout.char_back layout.colon_blank (layout.gap_blank _)
          (layout.gap_blank _) distinct (fun m member => layout.opens_text (plain m member) _)
          (fun m member => ih m member (plain m member) _) (by omega)

/-- The text of a legible value without floats, with blanks behind it, reads as that value. -/
theorem read_text (layout : Layout) {value : Json} (legible : value.Legible) (plain : value.FloatFree)
    (blanks : List Char) (blank : ∀ c ∈ blanks, isSpace c = true) :
    read (String.ofList (layout.text 0 value ++ blanks)) = .ok value := by
  have restored := layout.restores legible plain 0 (2 * (layout.text 0 value ++ blanks).length + 2)
    blanks (by simpa using Ends.append blank ends_nil) (by rw [List.length_append]; omega)
  obtain ⟨c, cs, text, _, _, mark⟩ := layout.opens_text plain 0
  have closed : skipSpace blanks = [] := by
    rw [← List.append_nil blanks, skipSpace_append blank]
    rfl
  rw [Json.read, String.toList_ofList, readText]
  · rw [(layout.opens_text plain 0).skipSpace, restored]
    simp only [bind, Except.bind, closed]
  · intro more same
    rw [text] at same
    exact mark (List.cons.inj same).1

end Reading

section Characters

/-- A character of ASCII that can be seen, or a blank. -/
def Printable (c : Char) : Prop :=
  0x20 ≤ c.toNat ∧ c.toNat < 0x7f

instance : DecidablePred Printable :=
  fun c => inferInstanceAs (Decidable (0x20 ≤ c.toNat ∧ c.toNat < 0x7f))

theorem printable_intText (n : Int) : ∀ c ∈ intText n, Printable c := by
  have digits (n : Nat) : ∀ c ∈ natText n, Printable c := by
    intro c member
    have digit := natText_isDigit n c member
    simp only [Char.isDigit, Bool.and_eq_true, decide_eq_true_eq] at digit
    have low : (48 : UInt32).toNat ≤ c.val.toNat := digit.1
    have high : c.val.toNat ≤ (57 : UInt32).toNat := digit.2
    exact ⟨Nat.le_trans (by decide) low, Nat.lt_of_le_of_lt high (by decide)⟩
  cases n with
  | ofNat n => exact digits n
  | negSucc n => exact List.forall_mem_cons.mpr ⟨by decide, digits (n + 1)⟩

theorem printable_unicodeEscape (n : Nat) : ∀ c ∈ unicodeEscape n, Printable c := by
  have hex : ∀ d < 16, Printable (Text.hexDigit d) := by decide
  have digit : ∀ d, Printable (Text.hexDigit (d % 16)) := fun d => hex _ (Nat.mod_lt _ (by decide))
  have slash : Printable '\\' := by decide
  have letter : Printable 'u' := by decide
  simp [unicodeEscape, Text.hexDigits, digit, slash, letter]

/-- A short escape is printable. -/
theorem printable_shortEscape? {c : Char} {escape : List Char}
    (short : shortEscape? c = some escape) : ∀ d ∈ escape, Printable d := by
  unfold shortEscape? at short
  split at short <;> cases short <;> simp [Printable]

theorem printable_asciiChar (c : Char) : ∀ d ∈ asciiChar c, Printable d := by
  unfold asciiChar
  cases short : shortEscape? c with
  | some escape => exact printable_shortEscape? short
  | none =>
    dsimp only
    split
    · exact List.forall_mem_singleton.mpr ‹_›
    · split
      · exact printable_unicodeEscape _
      · exact List.forall_mem_append.mpr ⟨printable_unicodeEscape _, printable_unicodeEscape _⟩

/-- All characters that a layout puts into texts have a property, as those of printable ASCII have. -/
structure Keeps (layout : Layout) (P : Char → Prop) : Prop where
  char : ∀ c, ∀ d ∈ layout.char c, P d
  gap : ∀ depth, ∀ c ∈ layout.gap depth, P c
  colon : ∀ c ∈ layout.colon, P c
  printable : ∀ c, Printable c → P c

variable {layout : Layout} {P : Char → Prop}

theorem forall_mem_joinTexts {blanks : List Char} {texts : List (List Char)} (comma : P ',')
    (blank : ∀ c ∈ blanks, P c) (all : ∀ text ∈ texts, ∀ c ∈ text, P c) :
    ∀ c ∈ joinTexts blanks texts, P c := by
  induction texts with
  | nil => exact fun c member => by cases member
  | cons text rest ih =>
    obtain ⟨own, others⟩ := List.forall_mem_cons.mp all
    have later := ih others
    cases rest with
    | nil => exact List.forall_mem_append.mpr ⟨blank, own⟩
    | cons next rest =>
      rw [joinTexts_cons_cons, List.forall_mem_append, List.forall_mem_append, List.forall_mem_cons]
      exact ⟨⟨blank, own⟩, comma, later⟩

theorem forall_mem_listText {before after : List Char} {texts : List (List Char)} (comma : P ',')
    (blank : ∀ c ∈ before, P c) (closing : ∀ c ∈ after, P c)
    (all : ∀ text ∈ texts, ∀ c ∈ text, P c) : ∀ c ∈ listText before after texts, P c := by
  cases texts with
  | nil => exact fun c member => by cases member
  | cons text rest =>
    rw [listText, List.forall_mem_append]
    exact ⟨forall_mem_joinTexts comma blank all, closing⟩

theorem Keeps.writeString (keeps : layout.Keeps P) (s : String) :
    ∀ c ∈ writeString layout.char s, P c := by
  have quote : P '"' := keeps.printable _ (by decide)
  rw [Json.writeString, List.cons_append, List.forall_mem_cons, List.forall_mem_append,
    List.forall_mem_singleton]
  refine ⟨quote, ?_, quote⟩
  intro c member
  obtain ⟨source, _, inside⟩ := List.mem_flatMap.mp member
  exact keeps.char source c inside

/-- The characters of a whole text are those that its layout puts there. -/
theorem Keeps.text (keeps : layout.Keeps P) {value : Json} (plain : value.FloatFree) :
    ∀ depth, ∀ c ∈ layout.text depth value, P c := by
  have comma : P ',' := keeps.printable _ (by decide)
  induction plain with
  | null =>
    intro depth c member
    rw [layout.text_null] at member
    have word : ∀ c ∈ "null".toList, Printable c := by simp [Printable]
    exact keeps.printable c (word c member)
  | bool b =>
    intro depth c member
    rw [layout.text_bool] at member
    have word : ∀ c ∈ (if b then "true" else "false").toList, Printable c := by
      cases b <;> simp [Printable]
    exact keeps.printable c (word c member)
  | int n =>
    intro depth c member
    rw [layout.text_int] at member
    exact keeps.printable c (printable_intText n c member)
  | str s =>
    intro depth
    rw [layout.text_str]
    exact keeps.writeString s
  | @arr items _ ih =>
    intro depth
    rw [layout.text_arr, List.forall_mem_cons, List.forall_mem_append, List.forall_mem_singleton]
    refine ⟨keeps.printable _ (by decide),
      forall_mem_listText comma (keeps.gap _) (keeps.gap _) ?_, keeps.printable _ (by decide)⟩
    intro text member
    obtain ⟨item, among, rfl⟩ := List.mem_map.mp member
    exact ih item among (depth + 1)
  | @obj members _ ih =>
    intro depth
    rw [layout.text_obj, List.forall_mem_cons, List.forall_mem_append, List.forall_mem_singleton]
    refine ⟨keeps.printable _ (by decide),
      forall_mem_listText comma (keeps.gap _) (keeps.gap _) ?_, keeps.printable _ (by decide)⟩
    intro text member
    obtain ⟨m, among, rfl⟩ := List.mem_map.mp member
    rw [memberText, List.forall_mem_append, List.forall_mem_cons, List.forall_mem_append]
    exact ⟨keeps.writeString m.1, keeps.printable _ (by decide), keeps.colon, ih m among (depth + 1)⟩

end Characters

end Layout

/-- The compact text of a legible value without floats reads as that value. -/
theorem Legible.read_writeCompact {value : Json} (legible : value.Legible)
    (plain : value.FloatFree) : read (String.ofList value.writeCompact) = .ok value := by
  have back := Layout.compact.read_text legible plain [] (by simp)
  rwa [List.append_nil] at back

end CrateSurface.Json
