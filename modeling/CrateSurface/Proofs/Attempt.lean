namespace CrateSurface

variable {ε α β : Type}

/-- A chain of steps that may fail gives a result only through results of its parts. -/
theorem bind_eq_ok {x : Except ε α} {f : α → Except ε β} {b : β} :
    (x >>= f) = .ok b ↔ ∃ a, x = .ok a ∧ f a = .ok b := by
  cases x with
  | error e => simp [bind, Except.bind]
  | ok a => simp [bind, Except.bind]

theorem mapError_eq_ok {ε' : Type} {f : ε → ε'} {x : Except ε α} {a : α} :
    x.mapError f = .ok a ↔ x = .ok a := by
  cases x with
  | error e =>
    constructor
    · intro same
      cases same
    · intro same
      cases same
  | ok a =>
    constructor
    · intro same
      cases same
      rfl
    · intro same
      cases same
      rfl

/-- Every result of a list of steps is the result of a step. -/
theorem exists_of_mem_mapM {f : α → Except ε β} {xs : List α} : ∀ {ys : List β},
    xs.mapM f = .ok ys → ∀ y ∈ ys, ∃ x ∈ xs, f x = .ok y := by
  induction xs with
  | nil =>
    intro ys run y member
    cases run
    cases member
  | cons x xs ih =>
    intro ys run y member
    rw [List.mapM_cons] at run
    obtain ⟨first, own, run⟩ := bind_eq_ok.mp run
    obtain ⟨others, later, run⟩ := bind_eq_ok.mp run
    cases run
    rcases List.mem_cons.mp member with rfl | member
    · exact ⟨x, List.mem_cons_self .., own⟩
    · obtain ⟨source, among, same⟩ := ih later y member
      exact ⟨source, List.mem_cons_of_mem x among, same⟩

/-- A step that undoes a function undoes it on a list. -/
theorem mapM_map_of_undoes {f : α → β} {g : β → Except ε α} (undoes : ∀ x, g (f x) = .ok x)
    (xs : List α) : (xs.map f).mapM g = .ok xs := by
  induction xs with
  | nil => rfl
  | cons x xs ih =>
    rw [List.map_cons, List.mapM_cons, undoes, ih]
    rfl

/-- A step that gives a result. -/
def Succeeds (x : Except ε α) : Prop :=
  ∃ a, x = .ok a

theorem succeeds_pure (a : α) : Succeeds (pure a : Except ε α) :=
  ⟨a, rfl⟩

/-- A chain of two steps, the second of which succeeds or fails whatever the first one gives. -/
theorem succeeds_bind {x : Except ε α} {f : α → Except ε β} {P : Prop}
    (next : ∀ a, Succeeds (f a) ↔ P) : Succeeds (x >>= f) ↔ Succeeds x ∧ P := by
  constructor
  · rintro ⟨b, run⟩
    obtain ⟨a, first, second⟩ := bind_eq_ok.mp run
    exact ⟨⟨a, first⟩, (next a).mp ⟨b, second⟩⟩
  · rintro ⟨⟨a, first⟩, holds⟩
    obtain ⟨b, second⟩ := (next a).mpr holds
    exact ⟨b, bind_eq_ok.mpr ⟨a, first, second⟩⟩

/-- The last step of a chain that ends in a result. -/
theorem succeeds_map {x : Except ε α} {f : α → β} :
    Succeeds (do let a ← x; return f a) ↔ Succeeds x := by
  rw [succeeds_bind fun a => iff_true_intro (succeeds_pure (f a)), and_true]

theorem succeeds_mapM {f : α → Except ε β} {xs : List α} :
    Succeeds (xs.mapM f) ↔ ∀ x ∈ xs, Succeeds (f x) := by
  induction xs with
  | nil =>
    rw [List.mapM_nil]
    exact iff_of_true (succeeds_pure []) (by simp)
  | cons x xs ih =>
    rw [List.mapM_cons, List.forall_mem_cons, ← ih]
    exact succeeds_bind fun first => succeeds_map

end CrateSurface
