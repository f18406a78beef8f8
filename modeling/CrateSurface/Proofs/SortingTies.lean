import CrateSurface.Proofs.SortingOrders

namespace CrateSurface.Sorting

variable {α ε : Type} {less : α → α → Bool}

/-- Whether two items rank alike: neither is below the other. -/
def tied (less : α → α → Bool) (a b : α) : Bool :=
  !less a b && !less b a

/-- Lists that hold the items of each rank in the same order. -/
def SameTies (less : α → α → Bool) (xs ys : List α) : Prop :=
  ∀ a, xs.filter (tied less a) = ys.filter (tied less a)

section Ties

variable {a b c : α} {xs ys zs : List α}

theorem tied_iff : tied less a b = true ↔ less a b = false ∧ less b a = false := by
  simp [tied]

theorem Ranks.irrefl (ranks : Ranks less) (a : α) : less a a = false := by
  by_contra below
  exact below (ranks.asymm (Bool.not_eq_false _ ▸ below))

theorem Ranks.tied_self (ranks : Ranks less) (a : α) : tied less a a = true :=
  tied_iff.mpr ⟨ranks.irrefl a, ranks.irrefl a⟩

/-- Of two items that rank like a third neither is below the other. -/
theorem Ranks.not_below_of_tied (ranks : Ranks less) (first : tied less a b = true)
    (second : tied less a c = true) : less b c = false :=
  ranks.trans (tied_iff.mp second).1 (tied_iff.mp first).2

theorem tied_comm : tied less a b = tied less b a :=
  Bool.and_comm _ _

/-- What is tied to the same item is tied. -/
theorem Ranks.tied_of_tied (ranks : Ranks less) (first : tied less a b = true)
    (second : tied less a c = true) : tied less b c = true :=
  tied_iff.mpr ⟨ranks.not_below_of_tied first second, ranks.not_below_of_tied second first⟩

/-- Items that rank alike rank alike with the same items. -/
theorem Ranks.tied_eq (ranks : Ranks less) (first : tied less a b = true) (c : α) :
    tied less a c = tied less b c := by
  rw [Bool.eq_iff_iff]
  exact ⟨ranks.tied_of_tied first, ranks.tied_of_tied (tied_comm ▸ first)⟩

theorem SameTies.trans (first : SameTies less xs ys) (second : SameTies less ys zs) :
    SameTies less xs zs :=
  fun a => (first a).trans (second a)

theorem SameTies.append_right (same : SameTies less xs ys) (zs : List α) :
    SameTies less (xs ++ zs) (ys ++ zs) := by
  intro a
  rw [List.filter_append, List.filter_append, same a]

theorem SameTies.mem_iff (ranks : Ranks less) (same : SameTies less xs ys) : a ∈ xs ↔ a ∈ ys := by
  have holds : ∀ zs : List α, a ∈ zs ↔ a ∈ zs.filter (tied less a) := by
    intro zs
    rw [List.mem_filter, ranks.tied_self a]
    simp
  rw [holds xs, holds ys, same a]

/-- In a strictly falling list no two items rank alike, so that it may be turned round. -/
theorem Ranks.reverse_sameTies (ranks : Ranks less)
    (falls : xs.Pairwise fun a b => less b a = true) : SameTies less xs.reverse xs := by
  intro a
  induction xs with
  | nil => rfl
  | cons x xs ih =>
    obtain ⟨below, rest⟩ := List.pairwise_cons.mp falls
    rw [List.reverse_cons, List.filter_append, ih rest]
    by_cases tie : tied less a x = true
    · have none : xs.filter (tied less a) = [] := by
        refine List.filter_eq_nil_iff.mpr fun y member tieToo => ?_
        have level := ranks.not_below_of_tied tieToo tie
        rw [below y member] at level
        cases level
      simp [tie, none]
    · simp [tie]

/-- An item may pass items that are all above it. -/
theorem Ranks.insert_sameTies (ranks : Ranks less) {before after : List α} {pivot : α}
    (high : ∀ item ∈ after, less pivot item = true) :
    SameTies less (before ++ pivot :: after) (before ++ after ++ [pivot]) := by
  intro a
  simp only [List.filter_append, List.append_assoc]
  by_cases tie : tied less a pivot = true
  · have none : after.filter (tied less a) = [] := by
      refine List.filter_eq_nil_iff.mpr fun item member tieToo => ?_
      have level := ranks.not_below_of_tied tie tieToo
      rw [high item member] at level
      cases level
    simp [tie, none]
  · simp [tie]

/-- Order and the order of ties determine a list. -/
theorem InOrder.eq_of_sameTies (ranks : Ranks less) : ∀ {xs ys : List α}, InOrder less xs →
    InOrder less ys → SameTies less xs ys → xs = ys
  | [], [], _, _, _ => rfl
  | [], y :: ys, _, _, same => by
    have member := (same.mem_iff ranks).mpr (List.mem_cons_self (a := y) (l := ys))
    cases member
  | x :: xs, [], _, _, same => by
    have member := (same.mem_iff ranks).mp (List.mem_cons_self (a := x) (l := xs))
    cases member
  | x :: xs, y :: ys, first, second, same => by
    obtain ⟨low, rest⟩ := List.pairwise_cons.mp first
    obtain ⟨lowToo, restToo⟩ := List.pairwise_cons.mp second
    -- Each head stands somewhere in the other list, and so is not below the other head.
    have left : less y x = false := by
      rcases List.mem_cons.mp ((same.mem_iff ranks).mpr (List.mem_cons_self (a := y))) with equal | later
      · rw [equal]
        exact ranks.irrefl x
      · exact low y later
    have right : less x y = false := by
      rcases List.mem_cons.mp ((same.mem_iff ranks).mp (List.mem_cons_self (a := x))) with equal | later
      · rw [equal]
        exact ranks.irrefl y
      · exact lowToo x later
    have heads := same x
    rw [List.filter_cons_of_pos (ranks.tied_self x),
      List.filter_cons_of_pos (tied_iff.mpr ⟨right, left⟩)] at heads
    obtain rfl : x = y := (List.cons.inj heads).1
    have tails : SameTies less xs ys := by
      intro a
      have whole := same a
      by_cases tie : tied less a x = true
      · rw [List.filter_cons_of_pos tie, List.filter_cons_of_pos tie] at whole
        exact (List.cons.inj whole).2
      · rwa [List.filter_cons_of_neg tie, List.filter_cons_of_neg tie] at whole
    rw [InOrder.eq_of_sameTies ranks rest restToo tails]

end Ties

section Runs

variable {items run rest : List α}

/-- The first run keeps the order of ties, as only strictly falling runs are turned over. -/
theorem leadingRun_sameTies (ranks : Ranks less)
    (found : leadingRun (fun a b => (.ok (less a b) : Except ε Bool)) items = .ok (run, rest)) :
    SameTies less (run ++ rest) items := by
  unfold leadingRun at found
  split at found
  · rename_i x y others
    obtain ⟨below, decided, found⟩ := bind_eq_ok.mp found
    cases decided
    cases step : less y x with
    | true =>
      rw [step] at found
      obtain ⟨⟨more, left⟩, later, found⟩ := bind_eq_ok.mp found
      cases found
      have falls := ranks.falls_cons step (falling_falls ranks later)
      rw [← falling_append later]
      exact (ranks.reverse_sameTies falls).append_right _
    | false =>
      rw [step] at found
      obtain ⟨⟨more, left⟩, later, found⟩ := bind_eq_ok.mp found
      cases found
      rw [← rising_append later]
      exact fun _ => rfl
  · cases found
    rw [List.append_nil]
    exact fun _ => rfl

/-- Inserting the rest keeps the order of ties. -/
theorem insertRest_sameTies (ranks : Ranks less) (rest : List α) : ∀ {sorted : List α},
    InOrder less sorted →
      SameTies less (insertRest (fun a b => (.ok (less a b) : Except ε Bool)) sorted rest).items
        (sorted ++ rest) := by
  induction rest with
  | nil =>
    intro sorted _
    rw [insertRest, List.append_nil]
    exact fun _ => rfl
  | cons pivot rest ih =>
    intro sorted ordered
    obtain ⟨place, found, low, high⟩ := bisect_place (ε := ε) ranks ordered pivot
    have parted := List.take_append_drop place sorted
    have moved : SameTies less (sorted.take place ++ pivot :: sorted.drop place)
        (sorted ++ [pivot]) := by
      have passed : SameTies less (sorted.take place ++ pivot :: sorted.drop place)
          (sorted.take place ++ sorted.drop place ++ [pivot]) := ranks.insert_sameTies high
      rwa [parted] at passed
    have arranged : InOrder less (sorted.take place ++ pivot :: sorted.drop place) :=
      InOrder.insert ranks (by rwa [parted]) low high
    have later := moved.append_right rest
    rw [List.append_assoc sorted, List.singleton_append] at later
    rw [insertRest, found]
    exact (ih arranged).trans later

end Runs

/-- A comparison that decides between any two of the items, by `less`. -/
def DecidesAmong (test : α → α → Except ε Bool) (less : α → α → Bool) (items : List α) : Prop :=
  ∀ a ∈ items, ∀ b ∈ items, test a b = .ok (less a b)

section Decided

variable {test : α → α → Except ε Bool}

theorem DecidesAmong.of_subset {items others : List α} (decides : DecidesAmong test less items)
    (among : others ⊆ items) : DecidesAmong test less others :=
  fun a member b memberToo => decides a (among member) b (among memberToo)

theorem DecidesAmong.rising {xs : List α} : ∀ {last : α}, DecidesAmong test less (last :: xs) →
    ∃ run rest, rising test last xs = .ok (run, rest) ∧
      rising (fun a b => (.ok (less a b) : Except Empty Bool)) last xs = .ok (run, rest) := by
  induction xs with
  | nil => exact fun _ => ⟨[], [], rfl, rfl⟩
  | cons x xs ih =>
    intro last decides
    obtain ⟨run, rest, tested, compared⟩ := ih (decides.of_subset (List.subset_cons_self last _))
    have step : test x last = .ok (less x last) := decides x (by simp) last (by simp)
    rw [Sorting.rising, Sorting.rising, step, tested, compared]
    cases less x last with
    | true => exact ⟨[], x :: xs, rfl, rfl⟩
    | false => exact ⟨x :: run, rest, rfl, rfl⟩

theorem DecidesAmong.falling {xs : List α} : ∀ {last : α}, DecidesAmong test less (last :: xs) →
    ∃ run rest, falling test last xs = .ok (run, rest) ∧
      falling (fun a b => (.ok (less a b) : Except Empty Bool)) last xs = .ok (run, rest) := by
  induction xs with
  | nil => exact fun _ => ⟨[], [], rfl, rfl⟩
  | cons x xs ih =>
    intro last decides
    obtain ⟨run, rest, tested, compared⟩ := ih (decides.of_subset (List.subset_cons_self last _))
    have step : test x last = .ok (less x last) := decides x (by simp) last (by simp)
    rw [Sorting.falling, Sorting.falling, step, tested, compared]
    cases less x last with
    | true => exact ⟨x :: run, rest, rfl, rfl⟩
    | false => exact ⟨[], x :: xs, rfl, rfl⟩

theorem DecidesAmong.leadingRun {items : List α} (decides : DecidesAmong test less items) :
    ∃ run rest, leadingRun test items = .ok (run, rest) ∧
      leadingRun (fun a b => (.ok (less a b) : Except Empty Bool)) items = .ok (run, rest) := by
  match items with
  | [] => exact ⟨[], [], rfl, rfl⟩
  | [x] => exact ⟨[x], [], rfl, rfl⟩
  | x :: y :: others =>
    have step : test y x = .ok (less y x) := decides y (by simp) x (by simp)
    have later : DecidesAmong test less (y :: others) := decides.of_subset (by simp)
    obtain ⟨up, above, risen, rises⟩ := later.rising
    obtain ⟨down, below, fallen, falls⟩ := later.falling
    rw [Sorting.leadingRun, Sorting.leadingRun, step, risen, rises, fallen, falls]
    cases less y x with
    | true => exact ⟨_, _, rfl, rfl⟩
    | false => exact ⟨_, _, rfl, rfl⟩

theorem DecidesAmong.bisect {pivot : α} {sorted : List α}
    (decides : DecidesAmong test less (pivot :: sorted)) : ∀ fuel low high,
      ∃ place, bisect test pivot sorted fuel low high = .ok place ∧
        bisect (fun a b => (.ok (less a b) : Except Empty Bool)) pivot sorted fuel low high =
          .ok place := by
  intro fuel
  induction fuel with
  | zero => exact fun low high => ⟨low, rfl, rfl⟩
  | succ fuel ih =>
    intro low high
    simp only [Sorting.bisect]
    by_cases wide : low < high
    · simp only [if_pos wide]
      cases found : sorted[low + (high - low) / 2]? with
      | none => exact ⟨low, rfl, rfl⟩
      | some item =>
        have member : item ∈ sorted := List.mem_of_getElem? found
        have step : test pivot item = .ok (less pivot item) :=
          decides pivot (by simp) item (List.mem_cons_of_mem _ member)
        simp only [step]
        cases less pivot item with
        | true => exact ih low (low + (high - low) / 2)
        | false => exact ih (low + (high - low) / 2 + 1) high
    · simp only [if_neg wide]
      exact ⟨low, rfl, rfl⟩

/-- A test that decides inserts in the same order. -/
theorem DecidesAmong.insertRest {rest : List α} : ∀ {sorted : List α},
    DecidesAmong test less (sorted ++ rest) →
      insertRest test sorted rest =
        ⟨(insertRest (fun a b => (.ok (less a b) : Except Empty Bool)) sorted rest).items, none⟩ := by
  induction rest with
  | nil => exact fun _ => rfl
  | cons pivot rest ih =>
    intro sorted decides
    have front : DecidesAmong test less (pivot :: sorted) := decides.of_subset (by simp)
    obtain ⟨place, tested, compared⟩ := front.bisect sorted.length 0 sorted.length
    have moved : (sorted.take place ++ pivot :: sorted.drop place ++ rest).Perm
        (sorted ++ pivot :: rest) := by
      calc
        (sorted.take place ++ pivot :: sorted.drop place ++ rest).Perm
            (pivot :: (sorted.take place ++ sorted.drop place) ++ rest) :=
          List.perm_middle.append_right rest
        _ = pivot :: (sorted ++ rest) := by rw [List.take_append_drop, List.cons_append]
        List.Perm _ (sorted ++ pivot :: rest) := List.perm_middle.symm
    rw [Sorting.insertRest, Sorting.insertRest, tested, compared]
    exact ih (decides.of_subset moved.subset)

/-- A comparison that decides between any two of the items sorts them without a failure. -/
theorem DecidesAmong.sort {items : List α} (decides : DecidesAmong test less items) :
    sort test items = ⟨sortWith less items, none⟩ := by
  obtain ⟨run, rest, tested, compared⟩ := decides.leadingRun
  have parted := (leadingRun_perm tested).subset
  rw [sortWith, Sorting.sort, Sorting.sort, tested, compared]
  exact DecidesAmong.insertRest (decides.of_subset parted)

end Decided

end CrateSurface.Sorting

namespace CrateSurface

open Sorting

section SortWith

variable {α β : Type} {less : α → α → Bool}

/-- A sort by rank keeps the order of items that rank alike. -/
theorem sortWith_sameTies (ranks : Ranks less) (items : List α) :
    SameTies less (sortWith less items) items := by
  unfold sortWith Sorting.sort
  split
  · rename_i failure _
    exact failure.elim
  · rename_i run rest found
    exact (insertRest_sameTies ranks rest (leadingRun_inOrder ranks found)).trans
      (leadingRun_sameTies ranks found)

/-- A list in order with the same ties is the sorted one. -/
theorem sortWith_eq (ranks : Ranks less) {items sorted : List α} (ordered : InOrder less sorted)
    (same : SameTies less sorted items) : sortWith less items = sorted :=
  (sortWith_inOrder ranks items).eq_of_sameTies ranks ordered
    ((sortWith_sameTies ranks items).trans fun a => (same a).symm)

theorem sortWith_of_inOrder (ranks : Ranks less) {items : List α} (ordered : InOrder less items) :
    sortWith less items = items :=
  sortWith_eq ranks ordered fun _ => rfl

/-- Sorting may come before a map that keeps the order, or after it. -/
theorem sortWith_map {f : α → β} {below : β → β → Bool} (ranks : Ranks below)
    (same : ∀ a b, below (f a) (f b) = less a b) (items : List α) :
    sortWith below (items.map f) = (sortWith less items).map f := by
  obtain rfl : (fun a b => below (f a) (f b)) = less := funext fun a => funext (same a)
  have pulled : Ranks fun a b => below (f a) (f b) := ⟨ranks.asymm, ranks.trans⟩
  refine sortWith_eq ranks (List.pairwise_map.mpr (sortWith_inOrder pulled items)) fun b => ?_
  have ties := sortWith_sameTies pulled items
  rw [List.filter_map, List.filter_map]
  congr 1
  by_cases found : ∃ a, tied below b (f a) = true
  · obtain ⟨a, tie⟩ := found
    have alike : tied below b ∘ f = tied (fun a b => below (f a) (f b)) a :=
      funext fun x => ranks.tied_eq tie (f x)
    rw [alike, ties a]
  · have none : ∀ xs : List α, xs.filter (tied below b ∘ f) = [] := fun xs =>
      List.filter_eq_nil_iff.mpr fun a _ tie => found ⟨a, tie⟩
    rw [none, none]

/-- Items of which no two rank alike are sorted into one list whatever order they come in. -/
theorem sortWith_eq_of_perm (ranks : Ranks less) {xs ys : List α} (perm : xs.Perm ys)
    (apart : xs.Pairwise fun a b => tied less a b = false) : sortWith less xs = sortWith less ys := by
  refine sortWith_eq ranks (sortWith_inOrder ranks ys) fun a => ?_
  rw [sortWith_sameTies ranks ys a]
  have moved := perm.filter (tied less a)
  have alone := apart.filter (tied less a)
  have tie : ∀ x ∈ xs.filter (tied less a), tied less a x = true := fun x member =>
    (List.mem_filter.mp member).2
  generalize xs.filter (tied less a) = chosen at moved alone tie
  match chosen with
  | [] => exact (List.nil_perm.mp moved)
  | [x] => exact (List.singleton_perm.mp moved).symm
  | x :: y :: more =>
    have level : tied less x y = true :=
      ranks.tied_of_tied (tie x (by simp)) (tie y (by simp))
    rw [(List.pairwise_cons.mp alone).1 y (by simp)] at level
    cases level

theorem tied_iff_key [LinearOrder β] {key : α → β} (spec : ∀ a b, less a b = true ↔ key a < key b)
    {a b : α} : tied less a b = true ↔ key a = key b := by
  rw [tied_iff, Bool.eq_false_iff, Bool.eq_false_iff, Ne, Ne, spec, spec, not_lt, not_lt]
  exact ⟨fun both => le_antisymm both.2 both.1, fun same => ⟨same.ge, same.le⟩⟩

/-- What a stable sort by a key makes of items: the same items, in the order of their keys, and those
of one key in the order they had. -/
structure Sorting.IsStableSort [LinearOrder β] (key : α → β) (items sorted : List α) : Prop where
  perm : sorted.Perm items
  ordered : sorted.Pairwise fun a b => key a ≤ key b
  stable : ∀ k, sorted.filter (fun a => key a = k) = items.filter fun a => key a = k

/-- Sorting by a key is stable. -/
theorem sortWith_isStableSort [LinearOrder β] {key : α → β}
    (spec : ∀ a b, less a b = true ↔ key a < key b) (items : List α) :
    IsStableSort key items (sortWith less items) := by
  have ranks : Ranks less := .ofKey key spec
  refine ⟨sortWith_perm less items, ?_, ?_⟩
  · refine (sortWith_inOrder ranks items).imp fun {a b} above => ?_
    rw [Bool.eq_false_iff, Ne, spec] at above
    exact not_lt.mp above
  · intro k
    by_cases found : ∃ a, key a = k
    · obtain ⟨a, rfl⟩ := found
      have alike : (fun b => decide (key b = key a)) = tied less a := by
        funext b
        rw [Bool.eq_iff_iff, decide_eq_true_eq, tied_iff_key spec, eq_comm]
      rw [alike]
      exact sortWith_sameTies ranks items a
    · have none : ∀ xs : List α, xs.filter (fun a => key a = k) = [] := fun xs =>
        List.filter_eq_nil_iff.mpr fun a _ same => found ⟨a, of_decide_eq_true same⟩
      rw [none, none]

end SortWith

end CrateSurface
