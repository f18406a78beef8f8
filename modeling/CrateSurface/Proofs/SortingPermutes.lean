import CrateSurface.Proofs.Attempt
import CrateSurface.Sorting
import Mathlib.Data.List.Basic

namespace CrateSurface.Sorting

variable {α ε : Type} {less : α → α → Except ε Bool}

theorem rising_append {xs : List α} : ∀ {last : α} {run rest : List α},
    rising less last xs = .ok (run, rest) → run ++ rest = xs := by
  induction xs with
  | nil =>
    intro last run rest found
    cases found
    rfl
  | cons x xs ih =>
    intro last run rest found
    obtain ⟨below, _, found⟩ := bind_eq_ok.mp found
    cases below with
    | true =>
      cases found
      rfl
    | false =>
      obtain ⟨⟨more, left⟩, later, found⟩ := bind_eq_ok.mp found
      cases found
      rw [List.cons_append, ih later]

theorem falling_append {xs : List α} : ∀ {last : α} {run rest : List α},
    falling less last xs = .ok (run, rest) → run ++ rest = xs := by
  induction xs with
  | nil =>
    intro last run rest found
    cases found
    rfl
  | cons x xs ih =>
    intro last run rest found
    obtain ⟨below, _, found⟩ := bind_eq_ok.mp found
    cases below with
    | true =>
      obtain ⟨⟨more, left⟩, later, found⟩ := bind_eq_ok.mp found
      cases found
      rw [List.cons_append, ih later]
    | false =>
      cases found
      rfl

/-- The first run, turned over if it falls, and what is left are the items. -/
theorem leadingRun_perm {items run rest : List α} (found : leadingRun less items = .ok (run, rest)) :
    (run ++ rest).Perm items := by
  unfold leadingRun at found
  split at found
  · rename_i x y others
    obtain ⟨below, _, found⟩ := bind_eq_ok.mp found
    cases below with
    | true =>
      obtain ⟨⟨more, left⟩, later, found⟩ := bind_eq_ok.mp found
      cases found
      rw [← falling_append later]
      exact (List.reverse_perm _).append_right _
    | false =>
      obtain ⟨⟨more, left⟩, later, found⟩ := bind_eq_ok.mp found
      cases found
      rw [← rising_append later]
      exact List.Perm.refl _
  · cases found
    rw [List.append_nil]

/-- Inserting the rest loses no item, also where a comparison fails. -/
theorem insertRest_perm (rest : List α) : ∀ sorted : List α,
    (insertRest less sorted rest).items.Perm (sorted ++ rest) := by
  induction rest with
  | nil =>
    intro sorted
    rw [insertRest, List.append_nil]
  | cons pivot rest ih =>
    intro sorted
    rw [insertRest]
    split
    · exact List.Perm.refl _
    · rename_i place _
      have moved : (sorted.take place ++ pivot :: sorted.drop place).Perm (sorted ++ [pivot]) := by
        calc
          (sorted.take place ++ pivot :: sorted.drop place).Perm
              (pivot :: (sorted.take place ++ sorted.drop place)) := List.perm_middle
          _ = pivot :: sorted := by rw [List.take_append_drop]
          List.Perm _ (sorted ++ [pivot]) := (List.perm_append_singleton pivot sorted).symm
      calc
        (insertRest less (sorted.take place ++ pivot :: sorted.drop place) rest).items.Perm
            (sorted.take place ++ pivot :: sorted.drop place ++ rest) := ih _
        List.Perm _ (sorted ++ [pivot] ++ rest) := moved.append_right rest
        _ = sorted ++ pivot :: rest := by rw [List.append_assoc, List.singleton_append]

/-- A sort moves items only, also where a comparison ended it. -/
theorem sort_perm (less : α → α → Except ε Bool) (items : List α) :
    (sort less items).items.Perm items := by
  unfold sort
  split
  · exact List.Perm.refl _
  · rename_i run rest found
    exact (insertRest_perm rest run).trans (leadingRun_perm found)

end CrateSurface.Sorting
