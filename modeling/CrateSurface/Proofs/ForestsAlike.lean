import CrateSurface.Proofs.CommentedTrees
import CrateSurface.Grammar.Rule

namespace CrateSurface.Grammar

/-- A node of the grammar around a forest. -/
def inner (kind : String) (field : Option String) (children : List Node) : Node :=
  ⟨kind, none, field, true, false, false, children⟩

/-- A comment as the reader finds it. -/
structure IsRemark (c : Node) : Prop extends c.IsInsertion where
  faultless : c.hasFault = false

/-- Whether an inner node is a comment does not hang on its children. -/
theorem inner_isComment (kind : String) (field : Option String) (cs ds : List Node) :
    (inner kind field cs).isComment = (inner kind field ds).isComment :=
  rfl

/-- Two forests that are the same but for the comments in them, at any depth. -/
inductive Alike : List Node → List Node → Prop
  | nil : Alike [] []
  | left {c : Node} {xs ys : List Node} : IsRemark c → Alike xs ys → Alike (c :: xs) ys
  | right {c : Node} {xs ys : List Node} : IsRemark c → Alike xs ys → Alike xs (c :: ys)
  | same (n : Node) {xs ys : List Node} : Alike xs ys → Alike (n :: xs) (n :: ys)
  | node (kind : String) (field : Option String) {cs ds xs ys : List Node} :
      Alike cs ds → Alike xs ys → Alike (inner kind field cs :: xs) (inner kind field ds :: ys)

namespace Alike

variable {xs ys xs' ys' : List Node}

theorem refl (xs : List Node) : Alike xs xs := by
  induction xs with
  | nil => exact .nil
  | cons x xs ih => exact .same x ih

theorem append (front : Alike xs ys) (back : Alike xs' ys') : Alike (xs ++ xs') (ys ++ ys') := by
  induction front with
  | nil => exact back
  | left fresh _ ih => exact .left fresh ih
  | right fresh _ ih => exact .right fresh ih
  | same n _ ih => exact .same n ih
  | node kind field children _ _ ih => exact .node kind field children ih

/-- Any two rows of comments are alike. -/
theorem comments (left : ∀ c ∈ xs, IsRemark c) (right : ∀ c ∈ ys, IsRemark c) :
    Alike xs ys := by
  induction xs with
  | nil =>
    induction ys with
    | nil => exact .nil
    | cons y ys ih =>
      exact .right (right y (List.mem_cons_self ..))
        (ih fun c member => right c (List.mem_cons_of_mem _ member))
  | cons x xs ih =>
    exact .left (left x (List.mem_cons_self ..))
      (ih fun c member => left c (List.mem_cons_of_mem _ member))

theorem takeWhile (alike : Alike xs ys) :
    Alike (xs.takeWhile Node.isComment) (ys.takeWhile Node.isComment) := by
  induction alike with
  | nil => exact .nil
  | left fresh _ ih =>
    rw [List.takeWhile_cons_of_pos fresh.comment]
    exact .left fresh ih
  | right fresh _ ih =>
    rw [List.takeWhile_cons_of_pos fresh.comment]
    exact .right fresh ih
  | same n _ ih =>
    rw [List.takeWhile_cons, List.takeWhile_cons]
    cases n.isComment with
    | true => exact .same n ih
    | false => exact .nil
  | @node kind field cs ds _ _ children _ _ ih =>
    rw [List.takeWhile_cons, List.takeWhile_cons, inner_isComment kind field cs ds]
    cases (inner kind field ds).isComment with
    | true => exact .node kind field children ih
    | false => exact .nil

theorem dropWhile (alike : Alike xs ys) :
    Alike (xs.dropWhile Node.isComment) (ys.dropWhile Node.isComment) := by
  induction alike with
  | nil => exact .nil
  | left fresh _ ih =>
    rw [List.dropWhile_cons_of_pos fresh.comment]
    exact ih
  | right fresh _ ih =>
    rw [List.dropWhile_cons_of_pos fresh.comment]
    exact ih
  | same n rest ih =>
    rw [List.dropWhile_cons, List.dropWhile_cons]
    cases n.isComment with
    | true => exact ih
    | false => exact .same n rest
  | @node kind field cs ds _ _ children rest _ ih =>
    rw [List.dropWhile_cons, List.dropWhile_cons, inner_isComment kind field cs ds]
    cases (inner kind field ds).isComment with
    | true => exact ih
    | false => exact .node kind field children rest

/-- A node over forests that are alike is alike, with the comments before it outside. -/
theorem wrap (kind : String) (alike : Alike xs ys) :
    Alike (wrap kind xs) (wrap kind ys) :=
  alike.takeWhile.append (.node kind none alike.dropWhile .nil)

/-- A role goes to the same node in forests that are alike. -/
theorem giveRole (role : String) (alike : Alike xs ys) :
    Alike (giveRole role xs) (giveRole role ys) := by
  induction alike with
  | nil => exact .nil
  | left fresh _ ih =>
    rw [Grammar.giveRole, if_pos fresh.comment]
    exact .left fresh ih
  | right fresh _ ih =>
    rw [Grammar.giveRole, if_pos fresh.comment]
    exact .right fresh ih
  | same n rest ih =>
    rw [Grammar.giveRole, Grammar.giveRole]
    split
    · exact .same n ih
    · exact .same _ rest
  | @node kind field cs ds _ _ children rest _ ih =>
    rw [Grammar.giveRole, Grammar.giveRole, inner_isComment kind field cs ds]
    cases (inner kind field ds).isComment with
    | true => exact .node kind field children ih
    | false => exact .node kind (some role) children rest

/-- A node over a head and its tail is alike if both are. -/
theorem wrapTail (kind : String) (role : Option String) (head : Alike xs ys)
    (tail : Alike xs' ys') : Alike (wrapTail kind role xs xs') (wrapTail kind role ys ys') := by
  have closed : ∀ {front front' : List Node}, Alike front front' →
      Alike (if kind == "" then front ++ xs' else Grammar.wrap kind (front ++ xs'))
        (if kind == "" then front' ++ ys' else Grammar.wrap kind (front' ++ ys')) := by
    intro front front' alike
    split
    · exact alike.append tail
    · exact (alike.append tail).wrap kind
  cases role with
  | none => exact closed head
  | some role => exact closed (head.giveRole role)

/-- Forests that are alike have the same tokens. -/
theorem flatMap_tokens_eq (alike : Alike xs ys) :
    xs.flatMap Node.tokens = ys.flatMap Node.tokens := by
  induction alike with
  | nil => rfl
  | left fresh _ ih => rw [List.flatMap_cons, fresh.tokens, ih, List.nil_append]
  | right fresh _ ih => rw [List.flatMap_cons, fresh.tokens, ih, List.nil_append]
  | same n _ ih => rw [List.flatMap_cons, List.flatMap_cons, ih]
  | @node kind field cs ds xs ys _ _ children ih =>
    -- An inner node has no text of its own, so that it does not matter whether only comments are
    -- left in it.
    have held : ∀ cs : List Node, (inner kind field cs).tokens =
        if (inner kind field []).isComment || Node.isAtomic kind then []
        else cs.flatMap Node.tokens := by
      intro cs
      rw [Node.tokens_eq, inner_isComment kind field cs []]
      have silent : Node.ownTokens (inner kind field cs).text = [] := rfl
      cases (inner kind field []).isComment with
      | true => rfl
      | false =>
        rw [silent]
        cases cs with
        | nil => simp [inner]
        | cons c cs => simp [inner]
    rw [List.flatMap_cons, List.flatMap_cons, ih, held, held, children]

theorem anyFault_eq (alike : Alike xs ys) : Node.anyFault xs = Node.anyFault ys := by
  induction alike with
  | nil => rfl
  | left fresh _ ih => rw [Node.anyFault, fresh.faultless, ih, Bool.false_or]
  | right fresh _ ih => rw [Node.anyFault, fresh.faultless, ih, Bool.false_or]
  | same n _ ih => rw [Node.anyFault, Node.anyFault, ih]
  | node kind field _ _ children ih =>
    rw [Node.anyFault, Node.anyFault, inner, inner, Node.hasFault, Node.hasFault, children, ih]

end Alike

/-- Two nodes that are the same but for the comments below them. -/
def NodesAlike (n m : Node) : Prop :=
  n = m ∨ ∃ kind field cs ds, Alike cs ds ∧ n = inner kind field cs ∧ m = inner kind field ds

namespace NodesAlike

variable {n m : Node}

theorem children (alike : NodesAlike n m) : Alike n.children m.children := by
  obtain rfl | ⟨kind, field, cs, ds, below, rfl, rfl⟩ := alike
  · exact .refl _
  · exact below

theorem tokens_eq (alike : NodesAlike n m) : n.tokens = m.tokens := by
  have forests : Alike [n] [m] := by
    obtain rfl | ⟨kind, field, cs, ds, below, rfl, rfl⟩ := alike
    · exact .refl _
    · exact .node kind field below .nil
  simpa using forests.flatMap_tokens_eq

end NodesAlike

/-- The first node that is no comment and that the kinds and roles single out is alike in both
forests. -/
theorem Alike.find? {xs ys : List Node} {p : Node → Bool} (alike : Alike xs ys)
    (silent : ∀ c : Node, IsRemark c → p c = false)
    (shallow : ∀ kind field cs ds, p (inner kind field cs) = p (inner kind field ds)) :
    Option.Rel NodesAlike (xs.find? p) (ys.find? p) := by
  induction alike with
  | nil => exact .none
  | left fresh _ ih =>
    rw [List.find?_cons_of_neg (by rw [silent _ fresh]; simp)]
    exact ih
  | right fresh _ ih =>
    rw [List.find?_cons_of_neg (by rw [silent _ fresh]; simp)]
    exact ih
  | same n _ ih =>
    rw [List.find?_cons, List.find?_cons]
    split
    · exact .some (.inl rfl)
    · exact ih
  | @node kind field cs ds _ _ children _ _ ih =>
    rw [List.find?_cons, List.find?_cons, shallow kind field cs ds]
    split
    · exact .some (.inr ⟨kind, field, cs, ds, children, rfl, rfl⟩)
    · exact ih

/-- Nodes that are alike have children of a proper kind that are alike. -/
theorem NodesAlike.childOfKind? {n m : Node} (alike : NodesAlike n m) {kind : String}
    (proper : kind ∉ ["line_comment", "block_comment"]) :
    Option.Rel NodesAlike (n.childOfKind? kind) (m.childOfKind? kind) :=
  alike.children.find? (fun _ fresh => fresh.kind_ne proper) fun _ _ _ _ => rfl

theorem NodesAlike.childByField? {n m : Node} (alike : NodesAlike n m) (role : String) :
    Option.Rel NodesAlike (n.childByField? role) (m.childByField? role) :=
  alike.children.find? (fun _ fresh => by rw [fresh.roleless]; rfl) fun _ _ _ _ => rfl

theorem rel_bind {α β : Type} {R : α → α → Prop} {S : β → β → Prop} {a b : Option α}
    {f g : α → Option β} (related : Option.Rel R a b)
    (behind : ∀ {x y}, R x y → Option.Rel S (f x) (g y)) :
    Option.Rel S (a.bind f) (b.bind g) := by
  cases related with
  | none => exact .none
  | some pair => exact behind pair

end CrateSurface.Grammar
