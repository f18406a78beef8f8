import CrateSurface.Proofs.IssueReports
import CrateSurface.Proofs.ParameterLists

namespace CrateSurface

namespace Node

section Wrappers

variable {pattern identifier child : Node}

/-- What may stand in a wrapper around a name besides the pattern that is wrapped: mutability markers
and comments. -/
def accompanies (child : Node) : Bool :=
  child.kind == "mutable_specifier" || child.isComment

/-- A pattern wraps an identifier, by any number of `mut` and `ref` patterns around it. -/
inductive Wraps : Node → Node → Prop
  | identifier {n : Node} : n.kind = "identifier" → Wraps n n
  | wrapped {n inner identifier : Node} {before after : List Node} :
      n.kind = "mut_pattern" ∨ n.kind = "ref_pattern" →
      n.namedChildren = before ++ inner :: after → (∀ child ∈ before, child.accompanies = true) →
      (∀ child ∈ after, child.accompanies = true) → inner.Wraps identifier → Wraps n identifier

/-- One of the wrappers around a name holds a comment. -/
inductive WrapsComment : Node → Prop
  | here {n comment : Node} : n.kind = "mut_pattern" ∨ n.kind = "ref_pattern" →
      comment ∈ n.namedChildren → comment.isComment = true → WrapsComment n
  | inside {n inner : Node} : n.kind = "mut_pattern" ∨ n.kind = "ref_pattern" →
      inner ∈ n.namedChildren → inner.WrapsComment → WrapsComment n

theorem Wraps.kind (wraps : pattern.Wraps identifier) :
    pattern.kind = "identifier" ∨ pattern.kind = "mut_pattern" ∨ pattern.kind = "ref_pattern" := by
  cases wraps with
  | identifier kind => exact Or.inl kind
  | wrapped kind => exact Or.inr kind

theorem Wraps.kind_ne_self (wraps : pattern.Wraps identifier) : pattern.kind ≠ "self" := by
  intro self
  rcases wraps.kind with kind | kind | kind <;> exact absurd (kind.symm.trans self) (by decide)

theorem WrapsComment.kind (commented : pattern.WrapsComment) :
    pattern.kind = "mut_pattern" ∨ pattern.kind = "ref_pattern" := by
  cases commented with
  | here kind => exact kind
  | inside kind => exact kind

/-- A name or a wrapper is a pattern itself, and accompanies none. -/
theorem not_accompanies_of_kind
    (kind : child.kind = "identifier" ∨ child.kind = "mut_pattern" ∨ child.kind = "ref_pattern") :
    child.accompanies = false := by
  rcases kind with kind | kind | kind <;> simp [accompanies, isComment, kind]

/-- The pattern in a wrapper is the only child that does not accompany one. -/
theorem mem_wrapped {before after : List Node} {inner : Node}
    (front : ∀ child ∈ before, child.accompanies = true)
    (back : ∀ child ∈ after, child.accompanies = true) (member : child ∈ before ++ inner :: after) :
    child.accompanies = true ∨ child = inner := by
  rcases List.mem_append.mp member with early | late
  · exact Or.inl (front child early)
  · rcases List.mem_cons.mp late with same | late
    · exact Or.inr same
    · exact Or.inl (back child late)

theorem not_marker_of_isComment (comment : child.isComment = true) :
    (child.kind != "mutable_specifier") = true := by
  rcases Bool.or_eq_true_iff.mp comment with line | block
  · simp [beq_iff_eq.mp line]
  · simp [beq_iff_eq.mp block]

theorem Wraps.not_marker (wraps : pattern.Wraps identifier) :
    (pattern.kind != "mutable_specifier") = true := by
  rcases wraps.kind with kind | kind | kind <;> simp [kind]

/-- Without comments in the way a wrapped name is bound. -/
theorem Wraps.binds (wraps : pattern.Wraps identifier) (plain : ¬ pattern.WrapsComment) :
    pattern.Binds identifier.textOrEmpty := by
  induction wraps with
  | identifier kind => exact .identifier kind
  | @wrapped n inner identifier before after kind split front back wraps ih =>
    have among : ∀ child, child ∈ before ∨ child = inner ∨ child ∈ after → child ∈ n.namedChildren := by
      intro child place
      rw [split, List.mem_append, List.mem_cons]
      exact place
    -- No comment is there, so that all that accompanies the pattern is a marker.
    have marker : ∀ child ∈ n.namedChildren, child.accompanies = true →
        ¬ (child.kind != "mutable_specifier") = true := by
      intro child member accompanies
      rcases Bool.or_eq_true_iff.mp accompanies with marker | comment
      · simpa using marker
      · exact absurd (.here kind member comment) plain
    have early : before.filter (fun child => child.kind != "mutable_specifier") = [] :=
      List.filter_eq_nil_iff.mpr fun child member =>
        marker child (among child (Or.inl member)) (front child member)
    have late : after.filter (fun child => child.kind != "mutable_specifier") = [] :=
      List.filter_eq_nil_iff.mpr fun child member =>
        marker child (among child (Or.inr (Or.inr member))) (back child member)
    refine .wrapped kind ?_ (ih fun commented =>
      plain (.inside kind (among inner (Or.inr (Or.inl rfl))) commented))
    rw [split, List.filter_append, early, List.nil_append, List.filter_cons, if_pos wraps.not_marker,
      late]

/-- A comment in any of the wrappers hides the name. -/
theorem Wraps.not_binds (wraps : pattern.Wraps identifier) (commented : pattern.WrapsComment)
    (name : String) : ¬ pattern.Binds name := by
  induction wraps with
  | identifier kind =>
    rcases commented.kind with other | other
    · exact absurd (kind.symm.trans other) (by decide)
    · exact absurd (kind.symm.trans other) (by decide)
  | @wrapped n inner identifier before after kind split front back wraps ih =>
    intro binds
    cases binds with
    | identifier other =>
      rcases kind with kind | kind
      · exact absurd (kind.symm.trans other) (by decide)
      · exact absurd (kind.symm.trans other) (by decide)
    | @wrapped _ alone _ _ only binds =>
      have sole : ∀ child ∈ n.namedChildren, (child.kind != "mutable_specifier") = true →
          child = alone := by
        intro child member other
        have kept : child ∈ n.namedChildren.filter fun child => child.kind != "mutable_specifier" :=
          List.mem_filter.mpr ⟨member, other⟩
        rw [only] at kept
        exact List.mem_singleton.mp kept
      have member : inner ∈ n.namedChildren := by
        rw [split]
        exact List.mem_append_right before (List.mem_cons_self ..)
      have same : inner = alone := sole inner member wraps.not_marker
      -- Beside the inner pattern there is a comment, which the code counts as another pattern.
      cases commented with
      | @here _ comment _ memberToo isComment =>
        have found : comment = inner := by rw [sole comment memberToo (not_marker_of_isComment isComment), same]
        have guest := not_accompanies_of_kind wraps.kind
        rw [← found, accompanies, isComment, Bool.or_true] at guest
        cases guest
      | @inside _ other _ memberToo commented =>
        have guest := not_accompanies_of_kind (Or.inr commented.kind)
        rw [split] at memberToo
        rcases mem_wrapped front back memberToo with accompanies | rfl
        · rw [guest] at accompanies
          cases accompanies
        · rw [← same] at binds
          exact ih commented binds

end Wrappers

end Node

/-- A plain name keeps its place, its name and its type in a parameter list, however it is wrapped, if
and only if none of the wrappers holds a comment. Otherwise it counts as a pattern that is no name. -/
theorem wrapped_binding_kept_iff {list param pattern identifier : Node} {before after : List Node}
    (split : list.namedChildren = before ++ param :: after) (kind : param.kind = "parameter")
    (found : param.childByField? "pattern" = some pattern) (wraps : pattern.Wraps identifier) :
    ∃ entry, Param.ofList (some list) =
        (before.filter Param.isListed).map Param.ofNode ++
          entry :: (after.filter Param.isListed).map Param.ofNode ∧
      (entry = ⟨⟨identifier.textOrEmpty, Node.renderOption (param.childByField? "type")⟩, none⟩ ↔
        ¬ pattern.WrapsComment) ∧
      (pattern.WrapsComment →
        entry = ⟨⟨"unsupported", Node.renderOption (param.childByField? "type")⟩,
          some ⟨.parameterPattern, pattern.render⟩⟩) := by
  have listed : Param.isListed param = true := by
    rw [isListed_eq, kind]
    rfl
  have kept : ¬ pattern.WrapsComment → Param.ofNode param =
      ⟨⟨identifier.textOrEmpty, Node.renderOption (param.childByField? "type")⟩, none⟩ :=
    fun plain => (ParamRole.bound kind found (wraps.binds plain)).eq_ofNode.symm
  have lost : pattern.WrapsComment → Param.ofNode param =
      ⟨⟨"unsupported", Node.renderOption (param.childByField? "type")⟩,
        some ⟨.parameterPattern, pattern.render⟩⟩ := by
    intro commented
    have role := ParamRole.unbound kind fun other same => by
      cases found.symm.trans same
      exact ⟨wraps.kind_ne_self, wraps.not_binds commented⟩
    rw [← role.eq_ofNode, found]
    rfl
  refine ⟨Param.ofNode param, ?_, ⟨?_, kept⟩, lost⟩
  · simp only [Param.ofList, split, List.filter_append, List.filter_cons, listed, if_true,
      List.map_append, List.map_cons]
  · intro same commented
    have finding := congrArg Param.finding ((lost commented).symm.trans same)
    cases finding

/-- A comment between `ref` and the name costs a parameter its name. -/
theorem commented_binding_unnamed :
    CommentedBinding.pattern.WrapsComment ∧
      Param.ofList (some CommentedBinding.list) =
        [⟨⟨"unsupported", "u8"⟩, some ⟨.parameterPattern, "ref x"⟩⟩] := by
  have commented : CommentedBinding.pattern.WrapsComment :=
    .here (Or.inr rfl) (List.mem_cons_self ..) rfl
  have inside : CommentedBinding.pattern.namedChildren =
      [.leaf "block_comment" "/* c */"] ++ .leaf "identifier" "x" :: [] := rfl
  have wraps : CommentedBinding.pattern.Wraps (.leaf "identifier" "x") :=
    .wrapped (Or.inr rfl) inside (by decide) (by decide) (.identifier rfl)
  have split : CommentedBinding.list.namedChildren = [] ++ CommentedBinding.param :: [] := rfl
  obtain ⟨entry, listed, _, lost⟩ := wrapped_binding_kept_iff split rfl rfl wraps
  refine ⟨commented, ?_⟩
  rw [listed, lost commented]
  rfl

end CrateSurface
