import Mathlib.Data.List.Nodup

namespace CrateSurface

section FirstOccurrences

variable {α : Type} [BEq α] [LawfulBEq α]

theorem nodup_eraseDups (items : List α) : items.eraseDups.Nodup := by
  induction size : items.length using Nat.strongRecOn generalizing items with
  | ind size ih =>
    subst size
    cases items with
    | nil => exact List.nodup_nil
    | cons item rest =>
      have shorter : (rest.filter fun other => !other == item).length < (item :: rest).length :=
        Nat.lt_succ_of_le (List.length_filter_le _ _)
      rw [List.eraseDups_cons, List.nodup_cons]
      refine ⟨?_, ih _ shorter _ rfl⟩
      simp [List.mem_eraseDups]

/-- A list that takes up wanted items, unless it has them, takes up the first occurrences of those
that it lacked. -/
theorem foldl_addNew {wanted : α → Bool} {add : List α → α → List α}
    (adds : ∀ done item, add done item =
      if wanted item && !done.contains item then done ++ [item] else done) (items : List α) :
    ∀ done : List α, items.foldl add done =
      done ++ (items.filter fun item => wanted item && !done.contains item).eraseDups := by
  induction items with
  | nil => simp
  | cons item rest ih =>
    intro done
    rw [List.foldl_cons, ih, adds, List.filter_cons]
    by_cases new : (wanted item && !done.contains item) = true
    · -- What is still wanted of the rest is what differs from the item that was just taken up.
      have later : (rest.filter fun other => wanted other && !(done ++ [item]).contains other) =
          (rest.filter fun other => wanted other && !done.contains other).filter
            fun other => !other == item := by
        rw [List.filter_filter]
        refine List.filter_congr fun other _ => ?_
        rw [Bool.eq_iff_iff]
        simp
        tauto
      rw [if_pos new, if_pos new, later, List.eraseDups_cons, List.append_assoc, List.singleton_append]
    · rw [if_neg new, if_neg new]

end FirstOccurrences

end CrateSurface
