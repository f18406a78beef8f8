import CrateSurface.Proofs.CommentedTrees
import CrateSurface.Proofs.Unresolved

namespace CrateSurface

namespace Spelling

/-- A token after which a sigil is taken for an operator between two operands. -/
def endsOperand (token : String) : Bool :=
  isWord token || [")", "]", ">"].contains token

theorem isPrefixSigil_iff {before : Option String} {token : String} (sigil : isSigil token = true) :
    isPrefixSigil before token = true ↔ ∀ last, before = some last → endsOperand last = false := by
  cases before with
  | none => simp [isPrefixSigil, sigil]
  | some last => simp [isPrefixSigil, sigil, endsOperand]

theorem spacedAfter_append_cons (xs : List String) (token : String) (ys : List String) :
    ∀ before bound, spacedAfter before bound (xs ++ token :: ys) =
      spacedAfter before bound (xs ++ [token]) ++
        spacedAfter token (isPrefixSigil (before :: xs).getLast? token) ys := by
  induction xs with
  | nil =>
    intro before bound
    rfl
  | cons x xs ih =>
    intro before bound
    rw [List.cons_append, List.cons_append, spacedAfter, spacedAfter, ih, List.getLast?_cons_cons]
    rfl

/-- What is written up to a token does not depend on the tokens behind it. -/
theorem join_append_cons (xs : List String) (token : String) (ys : List String) :
    join (xs ++ token :: ys) =
      join (xs ++ [token]) ++
        String.join (spacedAfter token (isPrefixSigil xs.getLast? token) ys) := by
  cases xs with
  | nil => simp [join, spacedAfter]
  | cons x xs =>
    simp only [List.cons_append, join]
    rw [spacedAfter_append_cons xs token ys]
    simp only [String.join_cons, String.join_append, String.append_assoc]

theorem join_append_singleton (xs : List String) (token : String) :
    ∃ front, front ++ token = join (xs ++ [token]) := by
  rcases List.eq_nil_or_concat xs with rfl | ⟨others, last, rfl⟩
  · exact ⟨"", by simp [join, spacedAfter]⟩
  · rw [List.concat_eq_append, List.append_assoc, List.singleton_append, join_append_cons,
      spacedAfter, spacedAfter]
    split
    · exact ⟨_, by rw [String.join_cons, String.join_nil, String.append_empty]⟩
    · refine ⟨join (others ++ [last]) ++ " ", ?_⟩
      rw [String.join_cons, String.join_nil, String.append_empty, String.append_assoc]

/-- What follows a sigil of references and pointers stands directly behind it where it closes up
with any token, or where the sigil is taken for one. -/
theorem isGlued_sigil {sigil : String} (isSigil : sigil = "&" ∨ sigil = "*") (bound : Bool)
    (next : String) : isGlued sigil bound next = (closesUp next || bound) := by
  have plain : opensUp sigil = false ∧ (sigil == "!") = false ∧ isWord sigil = false := by
    rcases isSigil with rfl | rfl <;> decide
  obtain ⟨opens, bang, word⟩ := plain
  simp [isGlued, opens, bang, word]

end Spelling

namespace Text

theorem stripList_head {text rest : List Char} {c : Char} (stripped : stripList text = c :: rest) :
    isBlank c = false := by
  have shortened : stripList text <+: text.dropWhile isBlank := by
    have behind := List.dropWhile_suffix isBlank (l := (text.dropWhile isBlank).reverse)
    rw [← List.reverse_prefix, List.reverse_reverse] at behind
    exact behind
  rw [stripped] at shortened
  obtain ⟨more, same⟩ := shortened
  have front := List.head?_dropWhile_not isBlank text
  rw [← same] at front
  exact front

end Text

namespace Node

/-- No token of a tree begins with a blank. -/
theorem tokens_head {n : Node} {token : String} (member : token ∈ n.tokens) :
    ∃ c rest, token.toList = c :: rest ∧ Text.isBlank c = false := by
  obtain ⟨text, own⟩ := exists_of_mem_tokens token n member
  simp only [ownTokens] at own
  split at own
  · cases own
  · next full =>
    rw [List.mem_singleton.mp own]
    have some : (Text.strip (text.getD "")).toList ≠ [] := by simpa using full
    obtain ⟨c, rest, letters⟩ := List.exists_cons_of_ne_nil some
    refine ⟨c, rest, letters, ?_⟩
    rw [Text.strip, String.toList_ofList] at letters
    exact Text.stripList_head letters

/-- A node that stands somewhere in a tree, with the tokens of the tree before it and those after it.
Comments and atomic nodes have no tokens of their parts. -/
inductive StandsIn (n : Node) : List String → Node → List String → Prop
  | whole : StandsIn n [] n []
  | child {tree child : Node} {left right : List Node} {before after : List String} :
      tree.isComment = false → isAtomic tree.kind = false → tree.children = left ++ child :: right →
      StandsIn n before child after →
      StandsIn n (left.flatMap tokens ++ before) tree (after ++ right.flatMap tokens)

theorem StandsIn.tokens_eq {n tree : Node} {before after : List String}
    (stands : n.StandsIn before tree after) : tree.tokens = before ++ (n.tokens ++ after) := by
  induction stands with
  | whole => simp
  | child noComment divided parts _ ih =>
    rw [Node.tokens_eq, noComment, divided, parts]
    simp [ih]

/-- A reference or pointer sigil is written directly in front of the token that it applies to exactly
if this is a token that nothing separates from the one before, or if no operand ends before the
sigil. Behind a word it does: in `&mut &T` and `*const *const T` the inner sigil is taken for an
operator and stands apart. -/
theorem sigil_attached_iff {tree n : Node} {before after rest : List String} {sigil next : String}
    (stands : n.StandsIn before tree after) (isSigil : sigil = "&" ∨ sigil = "*")
    (own : n.tokens = sigil :: next :: rest) :
    (∃ front tail, front ++ sigil = Spelling.join (before ++ [sigil]) ∧
      tree.render = front ++ sigil ++ next ++ tail) ↔
    (Spelling.closesUp next = true ∨
      ∀ last, before.getLast? = some last → Spelling.endsOperand last = false) := by
  have known : Spelling.isSigil sigil = true := by
    rcases isSigil with rfl | rfl <;> rfl
  have text : tree.render = Spelling.join (before ++ [sigil]) ++
      String.join (Spelling.spacedAfter sigil (Spelling.isPrefixSigil before.getLast? sigil)
        (next :: (rest ++ after))) := by
    rw [render, stands.tokens_eq, own, ← Spelling.join_append_cons]
    rfl
  rw [Spelling.spacedAfter, Spelling.isGlued_sigil isSigil, String.join_cons] at text
  rw [← Spelling.isPrefixSigil_iff known, ← Bool.or_eq_true]
  constructor
  · rintro ⟨front, tail, written, same⟩
    by_contra apart
    -- The space that is written before the next token would be the first character of the token.
    rw [if_neg apart, same, ← written] at text
    have member : next ∈ n.tokens := by simp [own]
    obtain ⟨c, more, begins, solid⟩ := tokens_head member
    have letters := congrArg String.toList text
    simp only [String.toList_append, List.append_assoc, List.append_cancel_left_eq, begins,
      List.cons_append] at letters
    have blank : c = ' ' := (List.cons.inj letters).1
    rw [blank] at solid
    cases solid
  · intro glued
    obtain ⟨front, written⟩ := Spelling.join_append_singleton before sigil
    rw [if_pos glued, ← written, ← String.append_assoc] at text
    exact ⟨front, _, written, text⟩

/-- The type `&mut T` for a type `T`. -/
def mutableReference (target : Node) : Node :=
  branch "reference_type" none [token "&", leaf "mutable_specifier" "mut", target]

/-- In `&mut &mut T` the outer sigil is attached and the inner one is not. -/
theorem nested_reference_detached :
    let inner := mutableReference (leaf "type_identifier" "T")
    let tree := mutableReference inner
    inner.StandsIn ["&", "mut"] tree [] ∧ tree.render = "&mut & mut T" ∧
      (∃ front tail, front ++ "&" = Spelling.join ["&"] ∧ tree.render = front ++ "&" ++ "mut" ++ tail) ∧
      ¬ ∃ front tail, front ++ "&" = Spelling.join ["&", "mut", "&"] ∧
        tree.render = front ++ "&" ++ "mut" ++ tail := by
  intro inner tree
  have parts : tree.children = [token "&", leaf "mutable_specifier" "mut"] ++ inner :: [] := rfl
  have stands : inner.StandsIn ["&", "mut"] tree [] := .child rfl rfl parts .whole
  have outerTokens : tree.tokens = ["&", "mut", "&", "mut", "T"] := by decide
  have innerTokens : inner.tokens = ["&", "mut", "T"] := by decide
  refine ⟨stands, by decide, ?_, ?_⟩
  · exact (sigil_attached_iff .whole (Or.inl rfl) outerTokens).mpr (Or.inr (by simp))
  · intro attached
    have allowed := (sigil_attached_iff stands (Or.inl rfl) innerTokens).mp attached
    revert allowed
    decide

end Node

end CrateSurface
