import CrateSurface.Proofs.Attempt
import CrateSurface.Proofs.JsonText

namespace CrateSurface.Json

theorem readWhole?_digits {cs whole rest : List Char} (read : readWhole? cs = some (whole, rest)) :
    whole ≠ [] ∧ ∀ c ∈ whole, c.isDigit = true := by
  unfold readWhole? at read
  split at read
  · cases read
    exact ⟨by simp, by simp [Char.isDigit]⟩
  · split at read
    · rename_i digit
      cases read
      refine ⟨List.cons_ne_nil _ _, ?_⟩
      intro c member
      rcases List.mem_cons.mp member with rfl | later
      · exact digit
      · exact List.all_eq_true.mp List.all_takeWhile c later
    · cases read
  · cases read

/-- The number that digits denote has no more digits of its own. -/
theorem natText_asciiNumber_length {digits : List Char} (some : digits ≠ [])
    (all : ∀ c ∈ digits, c.isDigit = true) :
    (natText (asciiNumber digits)).length ≤ digits.length :=
  natText_length_le (List.length_pos_iff.mpr some) (asciiNumber_lt_pow digits all)

/-- A number that is read is a float, or an integer with no more digits than are allowed. -/
theorem readMagnitude_legible {negative : Bool} {start cs rest : List Char} {value : Json}
    (read : readMagnitude negative start cs = .ok (value, rest)) : value.Legible := by
  unfold readMagnitude at read
  cases found : readWhole? cs with
  | none =>
    rw [found] at read
    cases read
  | some part =>
    obtain ⟨whole, after⟩ := part
    obtain ⟨some, digits⟩ := readWhole?_digits found
    rw [found] at read
    dsimp only at read
    split at read
    · by_cases long : whole.length > integerDigitLimit
      · rw [if_pos long] at read
        cases read
      · rw [if_neg long] at read
        have short := natText_asciiNumber_length some digits
        cases read
        refine .int (Nat.le_trans ?_ (Nat.not_lt.mp long))
        cases negative with
        | false => exact short
        | true => rwa [if_pos rfl, Int.natAbs_neg]
    · cases read
      exact .float _

theorem readPlain_legible {cs rest : List Char} {value : Json}
    (read : readPlain cs = .ok (value, rest)) : value.Legible := by
  unfold readPlain at read
  split at read
  · cases read; exact .null
  · cases read; exact .bool _
  · cases read; exact .bool _
  · cases read; exact .float _
  · cases read; exact .float _
  · cases read; exact .float _
  · unfold readNumber at read
    split at read
    · exact readMagnitude_legible read
    · exact readMagnitude_legible read

/-- A member with an old key takes the place of the old one, so keys stay distinct. -/
theorem setMember_keys_nodup {members : List (String × Json)}
    (distinct : (members.map Prod.fst).Nodup) (key : String) (value : Json) :
    ((setMember members key value).map Prod.fst).Nodup := by
  unfold setMember
  split
  · have kept : ∀ m : String × Json, (if m.1 == key then (key, value) else m).1 = m.1 := by
      intro m
      split
      · rename_i same
        exact (beq_iff_eq.mp same).symm
      · rfl
    rw [List.map_map, show Prod.fst ∘ (fun m => if m.1 == key then (key, value) else m) = Prod.fst from
      funext kept]
    exact distinct
  · rename_i unknown
    have new : key ∉ members.map Prod.fst := by
      intro member
      obtain ⟨m, among, same⟩ := List.mem_map.mp member
      exact unknown (List.any_eq_true.mpr ⟨m, among, beq_iff_eq.mpr same⟩)
    rw [List.map_append]
    refine List.nodup_append.mpr ⟨distinct, by simp, ?_⟩
    intro other among last single equal
    rw [List.map_singleton, List.mem_singleton] at single
    change last = key at single
    rw [← single, ← equal] at new
    exact new among

theorem mem_setMember {members : List (String × Json)} {key : String} {value : Json}
    {m : String × Json} (member : m ∈ setMember members key value) :
    m ∈ members ∨ m = (key, value) := by
  unfold setMember at member
  split at member
  · obtain ⟨other, among, same⟩ := List.mem_map.mp member
    split at same
    · exact Or.inr same.symm
    · exact Or.inl (same ▸ among)
  · rcases List.mem_append.mp member with old | new
    · exact Or.inl old
    · exact Or.inr (List.mem_singleton.mp new)

/-- An object is legible if its values are; its keys are distinct in any case. -/
theorem ofMembers_legible {members : List (String × Json)}
    (legible : ∀ m ∈ members, m.2.Legible) : (ofMembers members).Legible := by
  have all : ∀ (rest done : List (String × Json)), (done.map Prod.fst).Nodup →
      (∀ m ∈ done, m.2.Legible) → (∀ m ∈ rest, m.2.Legible) →
      (obj (rest.foldl (fun done m => setMember done m.1 m.2) done)).Legible := by
    intro rest
    induction rest with
    | nil => intro done distinct done' _; exact .obj distinct done'
    | cons m rest ih =>
      intro done distinct before after
      refine ih _ (setMember_keys_nodup distinct m.1 m.2) ?_
        (fun other member => after other (List.mem_cons_of_mem _ member))
      intro other member
      rcases mem_setMember member with old | rfl
      · exact before other old
      · exact after m (List.mem_cons_self ..)
  exact all members [] List.nodup_nil (by simp) legible

section Parts

variable {fuel : Nat} {cs rest : List Char}

/-- What a reader of values, of items or of members gives with some fuel is legible. -/
structure ReadsLegible (fuel : Nat) : Prop where
  value : ∀ {cs rest value}, readValue fuel cs = .ok (value, rest) → value.Legible
  items : ∀ {cs rest items}, readItems fuel cs = .ok (items, rest) → ∀ item ∈ items, item.Legible
  members : ∀ {cs rest members}, readMembers fuel cs = .ok (members, rest) →
    ∀ m ∈ members, m.2.Legible

theorem ReadsLegible.readValue (parts : ReadsLegible fuel) {value : Json}
    (read : readValue (fuel + 1) cs = .ok (value, rest)) : value.Legible := by
  unfold Json.readValue at read
  dsimp only at read
  split at read
  · obtain ⟨⟨s, after⟩, _, same⟩ := bind_eq_ok.mp read
    cases same
    exact .str s
  · split at read
    · cases read
      exact .obj (by simp) (by simp)
    · obtain ⟨⟨members, after⟩, inner, same⟩ := bind_eq_ok.mp read
      cases same
      exact ofMembers_legible (parts.members inner)
  · split at read
    · cases read
      exact .arr (by simp)
    · obtain ⟨⟨items, after⟩, inner, same⟩ := bind_eq_ok.mp read
      cases same
      exact .arr (parts.items inner)
  · exact readPlain_legible read

theorem ReadsLegible.readItems (parts : ReadsLegible fuel) {items : List Json}
    (read : readItems (fuel + 1) cs = .ok (items, rest)) : ∀ item ∈ items, item.Legible := by
  rw [Json.readItems] at read
  obtain ⟨⟨item, after⟩, own, read⟩ := bind_eq_ok.mp read
  dsimp only at read
  split at read
  · cases read
    intro other member
    rw [List.mem_singleton.mp member]
    exact parts.value own
  · obtain ⟨⟨others, end'⟩, inner, same⟩ := bind_eq_ok.mp read
    cases same
    intro other member
    rcases List.mem_cons.mp member with rfl | later
    · exact parts.value own
    · exact parts.items inner other later
  · cases read

theorem ReadsLegible.readMembers (parts : ReadsLegible fuel) {members : List (String × Json)}
    (read : readMembers (fuel + 1) cs = .ok (members, rest)) : ∀ m ∈ members, m.2.Legible := by
  unfold Json.readMembers at read
  dsimp only at read
  split at read
  · obtain ⟨⟨key, after⟩, _, read⟩ := bind_eq_ok.mp read
    dsimp only at read
    split at read
    · obtain ⟨⟨value, after⟩, own, read⟩ := bind_eq_ok.mp read
      dsimp only at read
      split at read
      · cases read
        intro other member
        rw [List.mem_singleton.mp member]
        exact parts.value own
      · obtain ⟨⟨others, end'⟩, inner, same⟩ := bind_eq_ok.mp read
        cases same
        intro other member
        rcases List.mem_cons.mp member with rfl | later
        · exact parts.value own
        · exact parts.members inner other later
      · cases read
    · cases read
  · cases read

/-- Whatever is read, whole or as part of a list, is legible. -/
theorem reads_legible (fuel : Nat) : ReadsLegible fuel := by
  induction fuel with
  | zero => exact ⟨(by intro _ _ _ read; cases read), (by intro _ _ _ read; cases read),
      (by intro _ _ _ read; cases read)⟩
  | succ fuel parts => exact ⟨parts.readValue, parts.readItems, parts.readMembers⟩

end Parts


/-- Whatever is read from a text is legible. -/
theorem read_legible {text : String} {value : Json} (read : Json.read text = .ok value) :
    value.Legible := by
  unfold Json.read readText at read
  split at read
  · cases read
  · obtain ⟨⟨whole, after⟩, own, read⟩ := bind_eq_ok.mp read
    dsimp only at read
    split at read
    · cases read
      exact (reads_legible _).value own
    · cases read

end CrateSurface.Json
