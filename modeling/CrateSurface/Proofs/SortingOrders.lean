import CrateSurface.Proofs.SortingPermutes
import Mathlib.Data.List.Pairwise
import Mathlib.Order.Lattice

namespace CrateSurface.Sorting

variable {α ε : Type} {less : α → α → Bool}

/-- A comparison by rank: of two items at most one is below the other, and what is not below an
item that is not below a third is not below the third. -/
structure Ranks (less : α → α → Bool) : Prop where
  asymm : ∀ {a b : α}, less a b = true → less b a = false
  trans : ∀ {a b c : α}, less b a = false → less c b = false → less c a = false

/-- A comparison of keys in a linear order is one by rank. -/
theorem Ranks.ofKey {β : Type} [LinearOrder β] (key : α → β)
    (spec : ∀ a b, less a b = true ↔ key a < key b) : Ranks less where
  asymm below := by
    rw [Bool.eq_false_iff, Ne, spec, not_lt]
    exact ((spec _ _).mp below).le
  trans first second := by
    rw [Bool.eq_false_iff, Ne, spec, not_lt] at first second ⊢
    exact first.trans second

theorem Ranks.below_trans (ranks : Ranks less) {a b c : α} (first : less b a = true)
    (second : less c b = true) : less c a = true := by
  by_contra above
  have contrary := ranks.trans (Bool.eq_false_iff.mpr above) (ranks.asymm second)
  rw [first] at contrary
  cases contrary

theorem Ranks.falls_cons (ranks : Ranks less) {first next : α} {items : List α}
    (step : less next first = true) (falls : (next :: items).Pairwise fun a b => less b a = true) :
    (first :: next :: items).Pairwise fun a b => less b a = true := by
  refine List.pairwise_cons.mpr ⟨?_, falls⟩
  intro item member
  rcases List.mem_cons.mp member with rfl | further
  · exact step
  · exact ranks.below_trans step ((List.pairwise_cons.mp falls).1 item further)

/-- No item is below one that stands before it. -/
def InOrder (less : α → α → Bool) (items : List α) : Prop :=
  items.Pairwise fun a b => less b a = false

namespace InOrder

theorem cons (ranks : Ranks less) {first next : α} {items : List α} (step : less next first = false)
    (ordered : InOrder less (next :: items)) : InOrder less (first :: next :: items) := by
  refine List.pairwise_cons.mpr ⟨?_, ordered⟩
  intro item member
  rcases List.mem_cons.mp member with rfl | later
  · exact step
  · exact ranks.trans step ((List.pairwise_cons.mp ordered).1 item later)

/-- Items in order stay so around an item that is not below those before it, and above which all
those after it are. -/
theorem insert (ranks : Ranks less) {before after : List α} {pivot : α}
    (ordered : InOrder less (before ++ after)) (low : ∀ item ∈ before, less pivot item = false)
    (high : ∀ item ∈ after, less pivot item = true) : InOrder less (before ++ pivot :: after) := by
  obtain ⟨front, back, across⟩ := List.pairwise_append.mp ordered
  refine List.pairwise_append.mpr ⟨front, List.pairwise_cons.mpr ⟨?_, back⟩, ?_⟩
  · intro item member
    exact ranks.asymm (high item member)
  · intro item member other among
    rcases List.mem_cons.mp among with rfl | later
    · exact low item member
    · exact across item member other later

end InOrder

section Runs

variable {last : α} {xs run rest : List α}

theorem rising_inOrder (ranks : Ranks less) : ∀ {last : α} {run rest : List α},
    rising (fun a b => (.ok (less a b) : Except ε Bool)) last xs = .ok (run, rest) →
      InOrder less (last :: run) := by
  induction xs with
  | nil =>
    intro last run rest found
    cases found
    exact List.pairwise_singleton _ _
  | cons x xs ih =>
    intro last run rest found
    obtain ⟨below, decided, found⟩ := bind_eq_ok.mp found
    cases decided
    cases step : less x last with
    | true =>
      rw [step] at found
      cases found
      exact List.pairwise_singleton _ _
    | false =>
      rw [step] at found
      obtain ⟨⟨more, left⟩, later, found⟩ := bind_eq_ok.mp found
      cases found
      exact (ih later).cons ranks step

/-- In a falling run every item is below those before it. -/
theorem falling_falls (ranks : Ranks less) : ∀ {last : α} {run rest : List α},
    falling (fun a b => (.ok (less a b) : Except ε Bool)) last xs = .ok (run, rest) →
      (last :: run).Pairwise fun a b => less b a = true := by
  induction xs with
  | nil =>
    intro last run rest found
    cases found
    exact List.pairwise_singleton _ _
  | cons x xs ih =>
    intro last run rest found
    obtain ⟨below, decided, found⟩ := bind_eq_ok.mp found
    cases decided
    cases step : less x last with
    | false =>
      rw [step] at found
      cases found
      exact List.pairwise_singleton _ _
    | true =>
      rw [step] at found
      obtain ⟨⟨more, left⟩, later, found⟩ := bind_eq_ok.mp found
      cases found
      exact ranks.falls_cons step (ih later)

theorem leadingRun_inOrder (ranks : Ranks less) {items : List α}
    (found : leadingRun (fun a b => (.ok (less a b) : Except ε Bool)) items = .ok (run, rest)) :
    InOrder less run := by
  unfold leadingRun at found
  split at found
  · rename_i x y others
    obtain ⟨below, decided, found⟩ := bind_eq_ok.mp found
    cases decided
    cases step : less y x with
    | true =>
      rw [step] at found
      obtain ⟨⟨more, left⟩, later, found⟩ := bind_eq_ok.mp found
      cases found
      have falls := ranks.falls_cons step (falling_falls ranks later)
      exact List.pairwise_reverse.mpr (falls.imp fun below => ranks.asymm below)
    | false =>
      rw [step] at found
      obtain ⟨⟨more, left⟩, later, found⟩ := bind_eq_ok.mp found
      cases found
      exact (rising_inOrder ranks later).cons ranks step
  · rename_i short
    cases found
    match run with
    | [] => exact List.Pairwise.nil
    | [x] => exact List.pairwise_singleton _ _
    | x :: y :: others => exact absurd rfl (short x y others)

end Runs

/-- Halving finds the end of the items that the pivot is not below. -/
theorem bisect_spec (ranks : Ranks less) {sorted : List α} (ordered : InOrder less sorted)
    (pivot : α) : ∀ {fuel low high : Nat}, high - low ≤ fuel → high ≤ sorted.length →
      (∀ item ∈ sorted.take low, less pivot item = false) →
      (∀ item ∈ sorted.drop high, less pivot item = true) → low ≤ high →
      ∃ place, bisect (fun a b => (.ok (less a b) : Except ε Bool)) pivot sorted fuel low high =
          .ok place ∧
        (∀ item ∈ sorted.take place, less pivot item = false) ∧
        ∀ item ∈ sorted.drop place, less pivot item = true := by
  intro fuel
  induction fuel with
  | zero =>
    intro low high bound _ front back order
    obtain rfl : low = high := by omega
    exact ⟨low, rfl, front, back⟩
  | succ fuel ih =>
    intro low high bound length front back order
    rw [bisect]
    by_cases wide : low < high
    · rw [if_pos wide]
      have inside : low + (high - low) / 2 < sorted.length := by omega
      generalize middle_eq : low + (high - low) / 2 = middle at inside ⊢
      have parted : sorted = sorted.take middle ++ sorted[middle] :: sorted.drop (middle + 1) := by
        rw [← List.drop_eq_getElem_cons inside, List.take_append_drop]
      have arranged := ordered
      rw [parted] at arranged
      obtain ⟨_, after, before⟩ := List.pairwise_append.mp arranged
      simp only [List.getElem?_eq_getElem inside]
      cases step : less pivot sorted[middle] with
      | true =>
        -- The pivot is below the middle item, and so below all that stand after it.
        refine ih (by omega) (by omega) front ?_ (by omega)
        intro item member
        rw [List.drop_eq_getElem_cons inside] at member
        rcases List.mem_cons.mp member with rfl | later
        · exact step
        · by_contra above
          have contrary := ranks.trans ((List.pairwise_cons.mp after).1 item later)
            (Bool.eq_false_iff.mpr above)
          rw [step] at contrary
          cases contrary
      | false =>
        refine ih (by omega) (by omega) ?_ back (by omega)
        intro item member
        rw [List.take_succ_eq_append_getElem inside] at member
        rcases List.mem_append.mp member with early | last
        · exact ranks.trans (before item early _ (List.mem_cons_self ..)) step
        · rw [List.mem_singleton.mp last]
          exact step
    · rw [if_neg wide]
      obtain rfl : low = high := by omega
      exact ⟨low, rfl, front, back⟩

/-- The place of a pivot in a sorted list: behind the items that it is not below. -/
theorem bisect_place (ranks : Ranks less) {sorted : List α} (ordered : InOrder less sorted)
    (pivot : α) :
    ∃ place, bisect (fun a b => (.ok (less a b) : Except ε Bool)) pivot sorted sorted.length 0
        sorted.length = .ok place ∧
      (∀ item ∈ sorted.take place, less pivot item = false) ∧
      ∀ item ∈ sorted.drop place, less pivot item = true :=
  bisect_spec ranks ordered pivot (Nat.sub_le _ _) (Nat.le_refl _) (by simp) (by simp)
    (Nat.zero_le _)

theorem insertRest_inOrder (ranks : Ranks less) (rest : List α) : ∀ {sorted : List α},
    InOrder less sorted →
      InOrder less (insertRest (fun a b => (.ok (less a b) : Except ε Bool)) sorted rest).items := by
  induction rest with
  | nil =>
    intro sorted ordered
    exact ordered
  | cons pivot rest ih =>
    intro sorted ordered
    obtain ⟨place, found, low, high⟩ := bisect_place (ε := ε) ranks ordered pivot
    rw [insertRest, found]
    refine ih (InOrder.insert ranks ?_ low high)
    rwa [List.take_append_drop]

end CrateSurface.Sorting

namespace CrateSurface

/-- A sort by rank puts items in order. -/
theorem sortWith_inOrder {α : Type} {less : α → α → Bool} (ranks : Sorting.Ranks less)
    (items : List α) : Sorting.InOrder less (sortWith less items) := by
  unfold sortWith Sorting.sort
  split
  · rename_i failure _
    exact failure.elim
  · rename_i run rest found
    exact Sorting.insertRest_inOrder ranks rest (Sorting.leadingRun_inOrder ranks found)

theorem sortWith_perm {α : Type} (less : α → α → Bool) (items : List α) :
    (sortWith less items).Perm items :=
  Sorting.sort_perm _ items

end CrateSurface
