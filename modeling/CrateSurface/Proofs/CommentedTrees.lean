import CrateSurface.Proofs.IssueCensus
import Mathlib.Data.List.Forall2

namespace CrateSurface.Node

/-- Two nodes that are the same but for their children. -/
structure SameLabel (n m : Node) : Prop where
  kind : n.kind = m.kind
  text : n.text = m.text
  field : n.field = m.field
  named : n.named = m.named
  error : n.error = m.error
  missing : n.missing = m.missing

/-- Whether comments may stand among the children of a node: it has some already, and it is not of
the kinds whose children are counted. -/
def admitsComments (n : Node) : Bool :=
  !n.children.isEmpty &&
    !(["attribute", "expression_statement", "mut_pattern", "ref_pattern"].contains n.kind)

/-- A comment as it stands among the children of a node: named and without a role. -/
structure IsInsertion (c : Node) : Prop where
  comment : c.isComment = true
  named : c.named = true
  roleless : c.field = none

/-- The second list has, besides nodes that `R` relates to those of the first, in the same order,
only comments, and these only where they are admitted. -/
inductive Inserted (R : Node → Node → Prop) : Bool → List Node → List Node → Prop
  | nil (admitted : Bool) : Inserted R admitted [] []
  | keep {admitted : Bool} {x y : Node} {xs ys : List Node} : R x y → Inserted R admitted xs ys →
      Inserted R admitted (x :: xs) (y :: ys)
  | comment {c : Node} {xs ys : List Node} : c.IsInsertion → Inserted R true xs ys →
      Inserted R true xs (c :: ys)

/-- The second tree is the first with comments inserted at any depth. -/
inductive Commented : Node → Node → Prop
  | intro {n m : Node} : n.SameLabel m →
      Inserted Commented n.admitsComments n.children m.children → Commented n m

namespace Inserted

variable {R S : Node → Node → Prop} {admitted : Bool} {xs ys : List Node} {β : Type}

theorem imp (inserted : Inserted R admitted xs ys)
    (more : ∀ x y, x ∈ xs → R x y → S x y) : Inserted S admitted xs ys := by
  induction inserted with
  | nil => exact .nil _
  | keep pair _ ih =>
    exact .keep (more _ _ (List.mem_cons_self ..) pair)
      (ih fun x y member => more x y (List.mem_cons_of_mem _ member))
  | comment fresh _ ih => exact .comment fresh (ih more)

/-- Where no comments are admitted, the lists are related one by one. -/
theorem forall₂ (inserted : Inserted R false xs ys) : List.Forall₂ R xs ys := by
  generalize closed : false = admitted at inserted
  induction inserted with
  | nil => exact .nil
  | keep pair _ ih => exact .cons pair (ih closed)
  | comment => cases closed

theorem isEmpty_eq (inserted : Inserted R (!xs.isEmpty && admitted) xs ys) :
    xs.isEmpty = ys.isEmpty := by
  cases xs with
  | nil => cases inserted.forall₂; rfl
  | cons x xs =>
    cases inserted with
    | keep => rfl
    | comment => rfl

/-- A list that is collected from the nodes, and to which comments add nothing, is the same. -/
theorem flatMap_eq (inserted : Inserted R admitted xs ys) {g : Node → List β}
    (silent : ∀ c : Node, c.IsInsertion → g c = []) (same : ∀ x y, R x y → g x = g y) :
    xs.flatMap g = ys.flatMap g := by
  induction inserted with
  | nil => rfl
  | keep pair _ ih => rw [List.flatMap_cons, List.flatMap_cons, same _ _ pair, ih]
  | comment fresh _ ih => rw [List.flatMap_cons, silent _ fresh, ih, List.nil_append]

theorem filterMap_eq (inserted : Inserted R admitted xs ys) {g : Node → Option β}
    (silent : ∀ c : Node, c.IsInsertion → g c = none) (same : ∀ x y, R x y → g x = g y) :
    xs.filterMap g = ys.filterMap g := by
  simp only [List.filterMap_eq_flatMap_toList]
  refine inserted.flatMap_eq ?_ fun x y pair => by rw [same x y pair]
  intro c fresh
  rw [silent c fresh]
  rfl

/-- What is made of filtered nodes is the same, if comments are filtered out. -/
theorem filter_map_eq (inserted : Inserted R admitted xs ys) {p : Node → Bool} {g : Node → β}
    (silent : ∀ c : Node, c.IsInsertion → p c = false)
    (same : ∀ x y, R x y → p x = p y ∧ g x = g y) : (xs.filter p).map g = (ys.filter p).map g := by
  induction inserted with
  | nil => rfl
  | @keep _ x y _ _ pair _ ih =>
    obtain ⟨both, image⟩ := same x y pair
    rw [List.filter_cons, List.filter_cons, ← both]
    cases p x with
    | false => exact ih
    | true =>
      simp only [if_true, List.map_cons]
      rw [image, ih]
  | comment fresh _ ih =>
    rw [List.filter_cons, silent _ fresh]
    exact ih

/-- A search that passes over comments finds related nodes or none in both lists. -/
theorem find? (inserted : Inserted R admitted xs ys) {p : Node → Bool}
    (silent : ∀ c : Node, c.IsInsertion → p c = false) (same : ∀ x y, R x y → p x = p y) :
    Option.Rel R (xs.find? p) (ys.find? p) := by
  induction inserted with
  | nil => exact .none
  | @keep _ x y _ _ pair _ ih =>
    rw [List.find?_cons, List.find?_cons, ← same x y pair]
    cases p x with
    | true => exact .some pair
    | false => exact ih
  | comment fresh _ ih =>
    rw [List.find?_cons, silent _ fresh]
    exact ih

theorem filter (inserted : Inserted R admitted xs ys) {p : Node → Bool}
    (kept : ∀ c : Node, c.IsInsertion → p c = true) (same : ∀ x y, R x y → p x = p y) :
    Inserted R admitted (xs.filter p) (ys.filter p) := by
  induction inserted with
  | nil => exact .nil _
  | @keep _ x y _ _ pair _ ih =>
    rw [List.filter_cons, List.filter_cons, ← same x y pair]
    cases p x with
    | true => exact .keep pair ih
    | false => exact ih
  | comment fresh _ ih =>
    rw [List.filter_cons, kept _ fresh]
    exact .comment fresh ih

end Inserted

namespace Commented

variable {n m : Node}

theorem label (commented : Commented n m) : n.SameLabel m := by
  cases commented with
  | intro label _ => exact label

theorem kind (commented : Commented n m) : n.kind = m.kind :=
  commented.label.kind

theorem children (commented : Commented n m) :
    Inserted Commented n.admitsComments n.children m.children := by
  cases commented with
  | intro _ inserted => exact inserted

/-- What holds of two trees whenever it holds of their related children holds of every tree and the
same tree with comments. -/
theorem induct {P : Node → Node → Prop}
    (step : ∀ n m, n.SameLabel m →
      Inserted (fun x y => Commented x y ∧ P x y) n.admitsComments n.children m.children → P n m)
    (commented : Commented n m) : P n m := by
  induction size : n.size using Nat.strong_induction_on generalizing n m with
  | _ size ih =>
    subst size
    refine step n m commented.label (commented.children.imp ?_)
    intro x y member pair
    exact ⟨pair, ih _ (size_lt_of_mem_children member) pair rfl⟩

/-- Inserting nothing leaves a tree as it is. -/
theorem refl (n : Node) : Commented n n := by
  induction size : n.size using Nat.strong_induction_on generalizing n with
  | _ size ih =>
    subst size
    have all : ∀ xs : List Node, (∀ x ∈ xs, x.size < n.size) →
        Inserted Commented n.admitsComments xs xs := by
      intro xs smaller
      induction xs with
      | nil => exact .nil _
      | cons x xs rest =>
        exact .keep (ih _ (smaller x (List.mem_cons_self ..)) x rfl)
          (rest fun y member => smaller y (List.mem_cons_of_mem _ member))
    exact .intro ⟨rfl, rfl, rfl, rfl, rfl, rfl⟩
      (all n.children fun x member => size_lt_of_mem_children member)

end Commented

/-- The tokens of a node are its own, or those of its children; a comment has none. -/
theorem tokens_eq (n : Node) :
    n.tokens =
      if n.isComment then []
      else if isAtomic n.kind || n.children.isEmpty then ownTokens n.text
      else n.children.flatMap tokens := by
  have all : ∀ trees : List Node, tokensOf trees = trees.flatMap tokens := by
    intro trees
    induction trees with
    | nil => rfl
    | cons first rest ih => rw [tokensOf, List.flatMap_cons, ih]
  obtain ⟨kind, text, field, named, error, missing, children⟩ := n
  rw [tokens, all]
  rfl

/-- The nodes of a tree, from the outside in and in source order. -/
def subtrees (n : Node) : List Node :=
  n :: n.children.attach.flatMap fun child => subtrees child.1
termination_by n.size
decreasing_by exact size_lt_of_mem_children child.2

theorem subtrees_eq (n : Node) : n.subtrees = n :: n.children.flatMap subtrees := by
  rw [subtrees, List.flatMap_subtype (g := subtrees) fun _ _ => rfl, List.unattach_attach]

namespace IsInsertion

variable {c : Node}

theorem kind (fresh : c.IsInsertion) : c.kind = "line_comment" ∨ c.kind = "block_comment" := by
  simpa [isComment] using fresh.comment

theorem kind_ne (fresh : c.IsInsertion) {kind : String}
    (proper : kind ∉ ["line_comment", "block_comment"]) : (c.kind == kind) = false := by
  rw [beq_eq_false_iff_ne]
  rintro rfl
  exact proper (by simpa using fresh.kind)

theorem tokens (fresh : c.IsInsertion) : c.tokens = [] := by
  rw [tokens_eq, if_pos fresh.comment]

end IsInsertion

/-- Comments play no role, so that they are never found by one. -/
theorem Inserted.childByField? {R : Node → Node → Prop} {admitted : Bool} {n m : Node}
    (inserted : Inserted R admitted n.children m.children)
    (fields : ∀ x y, R x y → x.field = y.field) (role : String) :
    Option.Rel R (n.childByField? role) (m.childByField? role) := by
  refine inserted.find? ?_ fun x y pair => by rw [fields x y pair]
  intro c fresh
  rw [fresh.roleless]
  rfl

namespace Commented

variable {n m : Node}

theorem isComment_eq (commented : Commented n m) : n.isComment = m.isComment := by
  rw [isComment, isComment, commented.kind]

theorem isEmpty_eq (commented : Commented n m) : n.children.isEmpty = m.children.isEmpty :=
  commented.children.isEmpty_eq

/-- Comments are no tokens of a tree. -/
theorem tokens_eq (commented : Commented n m) : n.tokens = m.tokens := by
  refine induct (P := fun n m => n.tokens = m.tokens) ?_ commented
  intro n m label inserted
  have empty : n.children.isEmpty = m.children.isEmpty := inserted.isEmpty_eq
  have below : n.children.flatMap tokens = m.children.flatMap tokens :=
    inserted.flatMap_eq (fun c fresh => fresh.tokens) fun x y pair => pair.2
  rw [Node.tokens_eq, Node.tokens_eq, isComment, isComment, label.kind, label.text, empty, below]

/-- A node has the same text with comments in it. -/
theorem render_eq (commented : Commented n m) : n.render = m.render := by
  rw [render, render, commented.tokens_eq]

theorem textOrEmpty_eq (commented : Commented n m) : n.textOrEmpty = m.textOrEmpty := by
  rw [textOrEmpty, textOrEmpty, commented.label.text]

theorem namedChildren (commented : Commented n m) :
    Inserted Commented n.admitsComments n.namedChildren m.namedChildren :=
  commented.children.filter (fun _ fresh => fresh.named) fun _ _ pair => pair.label.named

theorem childByField? (commented : Commented n m) (role : String) :
    Option.Rel Commented (n.childByField? role) (m.childByField? role) :=
  commented.children.childByField? (fun _ _ pair => pair.label.field) role

/-- A child of a proper kind is found past comments. -/
theorem childOfKind? (commented : Commented n m) (kind : String)
    (proper : kind ∉ ["line_comment", "block_comment"]) :
    Option.Rel Commented (n.childOfKind? kind) (m.childOfKind? kind) :=
  commented.children.find? (fun _ fresh => fresh.kind_ne proper) fun x y pair => by rw [pair.kind]

theorem isPublic_eq (commented : Commented n m) : n.isPublic = m.isPublic := by
  have markers := commented.childOfKind? "visibility_modifier" (by decide)
  unfold isPublic
  generalize n.childOfKind? "visibility_modifier" = marker,
    m.childOfKind? "visibility_modifier" = other at markers ⊢
  cases markers with
  | none => rfl
  | some pair => simp only [pair.render_eq]

theorem renderBounds_eq (commented : Commented n m) :
    renderBounds (some n) = renderBounds (some m) := by
  refine commented.namedChildren.filter_map_eq ?_ ?_
  · intro c fresh
    rw [fresh.comment]
    rfl
  · intro x y pair
    rw [pair.isComment_eq]
    exact ⟨rfl, pair.render_eq⟩

/-- The nodes of a tree stand in the same order among those of the tree with comments. -/
theorem subtrees (commented : Commented n m) :
    ∃ kept, kept.Sublist m.subtrees ∧ List.Forall₂ Commented n.subtrees kept := by
  refine induct (P := fun n m => ∃ kept, kept.Sublist m.subtrees ∧
    List.Forall₂ Commented n.subtrees kept) ?_ commented
  intro n m label inserted
  have own : Commented n m := .intro label (inserted.imp fun _ _ _ pair => pair.1)
  have below : ∃ kept, kept.Sublist (m.children.flatMap Node.subtrees) ∧
      List.Forall₂ Commented (n.children.flatMap Node.subtrees) kept := by
    clear own label
    generalize n.admitsComments = admitted, n.children = xs, m.children = ys at inserted
    induction inserted with
    | nil => exact ⟨[], .slnil, .nil⟩
    | keep pair _ ih =>
      obtain ⟨_, first, among, pairs⟩ := pair
      obtain ⟨rest, later, others⟩ := ih
      exact ⟨first ++ rest, among.append later, List.rel_append pairs others⟩
    | comment _ _ ih =>
      obtain ⟨kept, among, pairs⟩ := ih
      exact ⟨kept, among.trans (List.sublist_append_right _ _), pairs⟩
  obtain ⟨kept, among, pairs⟩ := below
  rw [subtrees_eq, subtrees_eq]
  exact ⟨m :: kept, among.cons_cons m, .cons own pairs⟩

end Commented

end CrateSurface.Node
