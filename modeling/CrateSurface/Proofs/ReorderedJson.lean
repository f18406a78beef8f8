import CrateSurface.Proofs.JsonText
import Mathlib.Data.String.Basic

namespace CrateSurface.Json

/-- Values that are the same but for the order of the members of objects at any depth. -/
inductive Reordered : Json → Json → Prop
  | refl (value : Json) : Reordered value value
  | trans {first second third : Json} : Reordered first second → Reordered second third →
      Reordered first third
  | members {members others : List (String × Json)} : members.Perm others →
      Reordered (.obj members) (.obj others)
  | item {before after : List Json} {item other : Json} : Reordered item other →
      Reordered (.arr (before ++ item :: after)) (.arr (before ++ other :: after))
  | member {before after : List (String × Json)} {key : String} {value other : Json} :
      Reordered value other →
      Reordered (.obj (before ++ (key, value) :: after)) (.obj (before ++ (key, other) :: after))

section Sorting

variable {members others : List (String × Json)}

theorem insertMember_perm (member : String × Json) (members : List (String × Json)) :
    (insertMember member members).Perm (member :: members) := by
  induction members with
  | nil => exact .refl _
  | cons other rest ih =>
    rw [insertMember]
    split
    · exact .refl _
    · exact (ih.cons other).trans (.swap member other rest)

/-- Sorting members only moves them. -/
theorem sortMembers_perm (members : List (String × Json)) : (sortMembers members).Perm members := by
  induction members with
  | nil => exact .refl _
  | cons member rest ih => exact (insertMember_perm member _).trans (ih.cons member)

/-- Members each with a key above the one before. -/
def Ascending (members : List (String × Json)) : Prop :=
  members.Pairwise fun first second => first.1 < second.1

/-- A new member is inserted at its place. -/
theorem Ascending.insertMember {member : String × Json} (ascending : Ascending members)
    (new : member.1 ∉ members.map Prod.fst) : Ascending (insertMember member members) := by
  induction members with
  | nil => exact List.pairwise_singleton _ _
  | cons other rest ih =>
    obtain ⟨above, later⟩ := List.pairwise_cons.mp ascending
    rw [List.map_cons, List.mem_cons, not_or] at new
    rw [Json.insertMember]
    split
    · rename_i below
      refine List.pairwise_cons.mpr ⟨?_, ascending⟩
      intro m among
      rcases List.mem_cons.mp among with rfl | inside
      · exact below
      · exact below.trans (above m inside)
    · rename_i notBelow
      have below : other.1 < member.1 := lt_of_le_of_ne (not_lt.mp notBelow) (Ne.symm new.1)
      refine List.pairwise_cons.mpr ⟨?_, ih later new.2⟩
      intro m among
      rcases List.mem_cons.mp ((insertMember_perm member rest).mem_iff.mp among) with rfl | inside
      · exact below
      · exact above m inside

/-- Members with distinct keys are sorted into ascending order. -/
theorem ascending_sortMembers (distinct : (members.map Prod.fst).Nodup) :
    Ascending (sortMembers members) := by
  induction members with
  | nil => exact .nil
  | cons member rest ih =>
    obtain ⟨new, others⟩ := List.nodup_cons.mp distinct
    refine (ih others).insertMember ?_
    rwa [((sortMembers_perm rest).map Prod.fst).mem_iff]

/-- Sorting leaves nothing of the order of members with distinct keys. -/
theorem sortMembers_eq_of_perm (distinct : (members.map Prod.fst).Nodup)
    (perm : members.Perm others) : sortMembers members = sortMembers others := by
  have distinctToo : (others.map Prod.fst).Nodup := (perm.map Prod.fst).nodup_iff.mp distinct
  refine List.Perm.eq_of_pairwise ?_ (ascending_sortMembers distinct)
    (ascending_sortMembers distinctToo) ?_
  · intro first second _ _ below above
    exact absurd below above.asymm
  · exact (sortMembers_perm members).trans (perm.trans (sortMembers_perm others).symm)

theorem sortedItems_eq (items : List Json) : sortedItems items = items.map sorted := by
  induction items with
  | nil => rfl
  | cons item rest ih => rw [sortedItems, ih]; rfl

theorem sortedMembers_eq (members : List (String × Json)) :
    sortedMembers members = members.map fun m => (m.1, m.2.sorted) := by
  induction members with
  | nil => rfl
  | cons member rest ih => rw [sortedMembers, ih]; rfl

theorem keys_sortedMembers (members : List (String × Json)) :
    (sortedMembers members).map Prod.fst = members.map Prod.fst := by
  rw [sortedMembers_eq, List.map_map]
  rfl

end Sorting

/-- A property that values have by their parts and by which keys there are, in whatever order. -/
structure OfParts (P : Json → Prop) : Prop where
  arr {items : List Json} : P (.arr items) ↔ ∀ item ∈ items, P item
  of_obj {members : List (String × Json)} : P (.obj members) → ∀ m ∈ members, P m.2
  obj {members others : List (String × Json)} : P (.obj members) →
    (members.map Prod.fst).Perm (others.map Prod.fst) → (∀ m ∈ others, P m.2) → P (.obj others)

theorem ofParts_floatFree : OfParts FloatFree where
  arr := ⟨fun plain => by cases plain with | arr all => exact all, .arr⟩
  of_obj plain := by cases plain with | obj all => exact all
  obj _ _ := .obj

theorem ofParts_legible : OfParts Legible where
  arr := ⟨fun legible => by cases legible with | arr all => exact all, .arr⟩
  of_obj legible := by cases legible with | obj _ all => exact all
  obj legible keys all := by
    cases legible with
    | obj distinct _ => exact .obj (keys.nodup_iff.mp distinct) all

namespace Reordered

variable {value other : Json}

/-- What holds of a value if and only if it does of its parts is kept by reordering. -/
theorem preserves {P : Json → Prop} (ofParts : OfParts P) (reordered : Reordered value other) :
    P value → P other := by
  induction reordered with
  | refl => exact id
  | trans _ _ first second => exact second ∘ first
  | members perm =>
    intro own
    exact ofParts.obj own (perm.map Prod.fst) fun m member =>
      ofParts.of_obj own m (perm.mem_iff.mpr member)
  | item _ ih =>
    rw [ofParts.arr, ofParts.arr]
    simp only [List.forall_mem_append, List.forall_mem_cons]
    exact fun all => ⟨all.1, ih all.2.1, all.2.2⟩
  | member _ ih =>
    intro own
    have all := ofParts.of_obj own
    simp only [List.forall_mem_append, List.forall_mem_cons] at all
    refine ofParts.obj own (by simp) ?_
    simp only [List.forall_mem_append, List.forall_mem_cons]
    exact ⟨all.1, ih all.2.1, all.2.2⟩

/-- Sorting leaves nothing of the order of members at any depth. -/
theorem sorted_eq (reordered : Reordered value other) : value.Legible → value.sorted = other.sorted := by
  -- Members with one key would keep their order, so every value on the way has to be legible.
  induction reordered with
  | refl => exact fun _ => rfl
  | trans early _ first second =>
    exact fun legible => (first legible).trans (second (early.preserves ofParts_legible legible))
  | @members members others perm =>
    intro legible
    cases legible with
    | obj distinct all =>
      have inner : (sortedMembers members).Perm (sortedMembers others) := by
        rw [sortedMembers_eq, sortedMembers_eq]
        exact perm.map _
      rw [sorted, sorted, sortMembers_eq_of_perm ?_ inner]
      rwa [keys_sortedMembers]
  | @item before after item other _ ih =>
    intro legible
    cases legible with
    | arr all =>
      have same := ih (all item (by simp))
      simp only [sorted, sortedItems_eq, List.map_append, List.map_cons, same]
  | @member before after key value other _ ih =>
    intro legible
    cases legible with
    | obj distinct all =>
      have same := ih (all (key, value) (by simp))
      simp only [sorted, sortedMembers_eq, List.map_append, List.map_cons, same]

/-- The items of an array may be reordered one after the other. -/
theorem items {change : Json → Json} {items : List Json} :
    ∀ done : List Json, (∀ item ∈ items, Reordered item (change item)) →
      Reordered (.arr (done ++ items)) (.arr (done ++ items.map change)) := by
  induction items with
  | nil => exact fun _ _ => .refl _
  | cons item rest ih =>
    intro done all
    obtain ⟨own, others⟩ := List.forall_mem_cons.mp all
    have later := ih (done ++ [change item]) others
    simp only [List.append_assoc, List.singleton_append] at later
    exact .trans (.item own) later

theorem values {change : Json → Json} {members : List (String × Json)} :
    ∀ done : List (String × Json), (∀ m ∈ members, Reordered m.2 (change m.2)) →
      Reordered (.obj (done ++ members)) (.obj (done ++ members.map fun m => (m.1, change m.2))) := by
  induction members with
  | nil => exact fun _ _ => .refl _
  | cons member rest ih =>
    intro done all
    obtain ⟨own, others⟩ := List.forall_mem_cons.mp all
    have later := ih (done ++ [(member.1, change member.2)]) others
    simp only [List.append_assoc, List.singleton_append] at later
    exact .trans (.member own) later

end Reordered

/-- A value is sorted by reordering. -/
theorem Legible.reordered_sorted {value : Json} (legible : value.Legible) :
    Reordered value value.sorted := by
  induction legible with
  | arr _ ih =>
    rw [sorted, sortedItems_eq]
    exact Reordered.items [] ih
  | obj _ _ ih =>
    rw [sorted, sortedMembers_eq]
    exact .trans (Reordered.values [] ih) (.members (sortMembers_perm _).symm)
  | _ => exact .refl _

end CrateSurface.Json
