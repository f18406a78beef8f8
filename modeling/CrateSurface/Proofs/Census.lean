import CrateSurface.Surface.Finding
import Mathlib.Data.List.Lex
import Mathlib.Order.Basic

namespace CrateSurface

/-- The place of a construct in a tree: its place among its siblings, level by level. Places compare
in source order. -/
abbrev Place := List Nat

/-- Findings in source order, each with its place. -/
structure Census (R : Place → Finding → Prop) where
  entries : List (Place × Finding)
  ordered : (entries.map Prod.fst).Pairwise (· < ·)
  mem_iff : ∀ place finding, (place, finding) ∈ entries ↔ R place finding

/-- A list of findings has one for each pair of a relation, in the order of the places. -/
def Enumerates (findings : List Finding) (R : Place → Finding → Prop) : Prop :=
  ∃ census : Census R, census.entries.map Prod.snd = findings

namespace Enumerates

variable {R S : Place → Finding → Prop} {findings others : List Finding}

theorem congr (enumerates : Enumerates findings R) (same : ∀ place f, R place f ↔ S place f) :
    Enumerates findings S := by
  obtain ⟨census, listed⟩ := enumerates
  exact ⟨⟨census.entries, census.ordered, fun place f => (census.mem_iff place f).trans (same place f)⟩,
    listed⟩

theorem nil (empty : ∀ place f, ¬ R place f) : Enumerates [] R := by
  refine ⟨⟨[], .nil, ?_⟩, rfl⟩
  intro place f
  rw [List.mem_nil_iff, false_iff]
  exact empty place f

theorem single {finding : Finding} (only : ∀ place f, R place f ↔ place = [] ∧ f = finding) :
    Enumerates [finding] R := by
  refine ⟨⟨[([], finding)], List.pairwise_singleton _ _, ?_⟩, rfl⟩
  intro place f
  rw [only, List.mem_singleton, Prod.mk.injEq]

/-- A finding that is there under a condition. -/
theorem option {finding : Option Finding}
    (only : ∀ place f, R place f ↔ place = [] ∧ finding = some f) :
    Enumerates finding.toList R := by
  cases finding with
  | none => exact nil fun place f holds => by cases ((only place f).mp holds).2
  | some finding =>
    refine single fun place f => (only place f).trans ?_
    rw [Option.some.injEq, eq_comm (a := finding)]

/-- Findings of parts that follow one another, the first of which is at the place `start`. -/
theorem flattenFrom {parts : List (List Finding)} : ∀ {R : Nat → Place → Finding → Prop} (start : Nat),
    (∀ i part, parts[i]? = some part → Enumerates part (R i)) →
    Enumerates parts.flatten fun place f =>
      ∃ i rest, i < parts.length ∧ place = (start + i) :: rest ∧ R i rest f := by
  induction parts with
  | nil =>
    intro R start _
    refine nil ?_
    rintro place f ⟨i, rest, bound, _⟩
    exact absurd bound (Nat.not_lt_zero i)
  | cons part parts ih =>
    intro R start each
    obtain ⟨first, listed⟩ := each 0 part rfl
    obtain ⟨later, others⟩ := ih (R := fun i => R (i + 1)) (start + 1)
      (fun i part found => each (i + 1) part found)
    refine ⟨⟨first.entries.map (fun entry => (start :: entry.1, entry.2)) ++ later.entries, ?_, ?_⟩, ?_⟩
    · -- Places of the first part begin with `start`, those of the others with a greater number.
      rw [List.map_append, List.map_map]
      refine List.pairwise_append.mpr ⟨?_, later.ordered, ?_⟩
      · have inner := List.pairwise_map.mp first.ordered
        refine List.pairwise_map.mpr (inner.imp ?_)
        intro a b less
        exact List.cons_lt_cons_iff.mpr (Or.inr ⟨rfl, less⟩)
      · intro place member other member'
        obtain ⟨entry, _, rfl⟩ := List.mem_map.mp member
        obtain ⟨⟨other, f⟩, after, rfl⟩ := List.mem_map.mp member'
        obtain ⟨i, rest, _, rfl, _⟩ := (later.mem_iff _ _).mp after
        exact List.cons_lt_cons_iff.mpr (Or.inl (by omega))
    · intro place f
      rw [List.mem_append, List.mem_map, later.mem_iff]
      constructor
      · rintro (⟨⟨rest, finding⟩, member, same⟩ | ⟨i, rest, bound, rfl, holds⟩)
        · cases same
          exact ⟨0, rest, Nat.succ_pos _, rfl, (first.mem_iff _ _).mp member⟩
        · refine ⟨i + 1, rest, Nat.succ_lt_succ bound, ?_, holds⟩
          rw [Nat.add_assoc, Nat.add_comm 1 i]
      · rintro ⟨i, rest, bound, rfl, holds⟩
        cases i with
        | zero => exact Or.inl ⟨(rest, f), (first.mem_iff _ _).mpr holds, rfl⟩
        | succ i =>
          refine Or.inr ⟨i, rest, Nat.lt_of_succ_lt_succ bound, ?_, holds⟩
          rw [Nat.add_assoc, Nat.add_comm 1 i]
    · rw [List.map_append, List.map_map, others, List.flatten_cons, ← listed]
      rfl

/-- The findings of the items of a list. -/
theorem flatMap {α : Type} {g : α → List Finding} {T : α → Place → Finding → Prop} {items : List α}
    (each : ∀ item ∈ items, Enumerates (g item) (T item)) :
    Enumerates (items.flatMap g) fun place f =>
      ∃ (i : Nat) (item : α) (rest : Place), items[i]? = some item ∧ place = i :: rest ∧ T item rest f := by
  have parts : ∀ (i : Nat) part, (items.map g)[i]? = some part →
      Enumerates part fun rest f => ∃ item, items[i]? = some item ∧ T item rest f := by
    intro i part found
    rw [List.getElem?_map] at found
    obtain ⟨item, there, rfl⟩ := Option.map_eq_some_iff.mp found
    refine (each item (List.mem_of_getElem? there)).congr fun rest f => ?_
    rw [there]
    simp
  refine (flattenFrom 0 parts).congr fun place f => ?_
  constructor
  · rintro ⟨i, rest, _, rfl, item, found, holds⟩
    exact ⟨i, item, rest, found, by rw [Nat.zero_add], holds⟩
  · rintro ⟨i, item, rest, found, rfl, holds⟩
    have bound := (List.getElem?_eq_some_iff.mp found).1
    exact ⟨i, rest, by rwa [List.length_map], by rw [Nat.zero_add], item, found, holds⟩

/-- The findings of some items of a list. The places count the others too. -/
theorem flatMapFilter {α : Type} {g : α → List Finding} {T : α → Place → Finding → Prop}
    {p : α → Bool} {items : List α} (each : ∀ item ∈ items, Enumerates (g item) (T item)) :
    Enumerates ((items.filter p).flatMap g) fun place f =>
      ∃ (i : Nat) (item : α) (rest : Place), items[i]? = some item ∧ place = i :: rest ∧
        p item = true ∧ T item rest f := by
  have padded : (items.filter p).flatMap g = items.flatMap fun item => if p item then g item else [] := by
    clear each
    induction items with
    | nil => rfl
    | cons item items ih =>
      rw [List.filter_cons, List.flatMap_cons, ← ih]
      split <;> rfl
  rw [padded]
  refine flatMap fun item member => ?_
  split
  · rename_i kept
    exact (each item member).congr fun place f => (and_iff_right kept).symm
  · rename_i dropped
    exact nil fun place f holds => dropped holds.1

/-- Findings of two parts, the first at place 0 and the second at place 1. -/
theorem append (first : Enumerates findings R) (second : Enumerates others S) :
    Enumerates (findings ++ others) fun place f =>
      (∃ rest, place = 0 :: rest ∧ R rest f) ∨ ∃ rest, place = 1 :: rest ∧ S rest f := by
  have parts : ∀ i part, [findings, others][i]? = some part →
      Enumerates part fun rest f => (i = 0 ∧ R rest f) ∨ (i = 1 ∧ S rest f) := by
    intro i part found
    match i with
    | 0 =>
      cases found
      exact first.congr (by simp)
    | 1 =>
      cases found
      exact second.congr (by simp)
  have both := flattenFrom 0 parts
  rw [List.flatten_cons, List.flatten_cons, List.flatten_nil, List.append_nil] at both
  refine both.congr fun place f => ?_
  constructor
  · rintro ⟨i, rest, _, rfl, ⟨rfl, holds⟩ | ⟨rfl, holds⟩⟩
    · exact Or.inl ⟨rest, rfl, holds⟩
    · exact Or.inr ⟨rest, rfl, holds⟩
  · rintro (⟨rest, rfl, holds⟩ | ⟨rest, rfl, holds⟩)
    · exact ⟨0, rest, Nat.succ_pos _, rfl, Or.inl ⟨rfl, holds⟩⟩
    · exact ⟨1, rest, Nat.one_lt_two, rfl, Or.inr ⟨rfl, holds⟩⟩

end Enumerates

end CrateSurface
