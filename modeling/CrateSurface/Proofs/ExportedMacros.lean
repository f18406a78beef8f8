import CrateSurface.Proofs.IssueCensus
import CrateSurface.Proofs.ItemOrder

namespace CrateSurface

namespace Node

/-- What may stand between an attribute and the item that it belongs to. -/
def IsAttached (n : Node) : Prop :=
  n.kind ∈ ["attribute_item", "inner_attribute_item", "line_comment", "block_comment"]

/-- The attribute `macro_export`. The arguments of an attribute are children behind its path. -/
structure ExportsMacro (n : Node) : Prop where
  kind : n.kind = "attribute_item"
  path : ∃ inner path, (n.namedChildren.find? fun child => child.kind == "attribute") =
    some inner ∧ inner.namedChildren.head? = some path ∧ path.render = "macro_export"

/-- A `macro_export` stands before the item at a place, with nothing but attributes and comments
between them. -/
def ExportMarked (items : List Node) (i : Nat) : Prop :=
  ∃ j mark, j < i ∧ items[j]? = some mark ∧ mark.ExportsMacro ∧
    ∀ k n, j < k → k < i → items[k]? = some n → n.IsAttached

/-- An item that stands for a macro: a definition, or a call, bare or as a statement. -/
inductive IsMacro (item : Node) : Node → Prop
  | definition : item.kind = "macro_definition" → IsMacro item item
  | call : item.kind = "macro_invocation" → IsMacro item item
  | statement {call : Node} : item.kind = "expression_statement" → item.namedChildren = [call] →
      call.kind = "macro_invocation" → IsMacro item call

variable {n : Node} {items earlier : List Node}

theorem isAttached_iff : n.IsAttached ↔ n.isAttribute = true ∨ n.isComment = true := by
  simp [IsAttached, isAttribute, isComment, or_assoc]

theorem exportsMacro_iff :
    n.ExportsMacro ↔ n.kind = "attribute_item" ∧ n.attributePath = "macro_export" := by
  constructor
  · rintro ⟨kind, inner, path, found, first, rendered⟩
    refine ⟨kind, ?_⟩
    rw [attributePath, found]
    dsimp only
    rw [first]
    exact rendered
  · rintro ⟨kind, rendered⟩
    refine ⟨kind, ?_⟩
    unfold attributePath at rendered
    split at rendered
    · rename_i inner found
      cases first : inner.namedChildren.head? with
      | none =>
        rw [first] at rendered
        exact absurd rendered (by decide)
      | some path =>
        rw [first] at rendered
        exact ⟨inner, path, found, first, rendered⟩
    · exact absurd rendered (by decide)

/-- An item is exported by the sibling before it, or by those before an attached one. -/
theorem isExported_cons_iff : isExported (n :: earlier) = true ↔
    n.ExportsMacro ∨ (n.IsAttached ∧ isExported earlier = true) := by
  rw [isExported_iff, isExported_iff, exportsMacro_iff, isAttached_iff]
  constructor
  · rintro (⟨kind, path⟩ | ⟨skipped, rest⟩)
    · exact Or.inl ⟨kind, path⟩
    · exact Or.inr ⟨skipped, rest⟩
  · rintro (⟨kind, path⟩ | ⟨skipped, rest⟩)
    · exact .here kind path
    · exact .behind skipped rest

theorem exportMarked_zero : ¬ ExportMarked items 0 := by
  rintro ⟨j, _, before, _⟩
  exact absurd before (Nat.not_lt_zero j)

theorem exportMarked_succ_iff {i : Nat} (found : items[i]? = some n) :
    ExportMarked items (i + 1) ↔ n.ExportsMacro ∨ (n.IsAttached ∧ ExportMarked items i) := by
  constructor
  · rintro ⟨j, mark, before, there, exports, between⟩
    rcases Nat.lt_succ_iff_lt_or_eq.mp before with earlier | rfl
    · refine Or.inr ⟨between i n earlier (Nat.lt_succ_self i) found, j, mark, earlier, there,
        exports, ?_⟩
      intro k m after inside
      exact between k m after (Nat.lt_succ_of_lt inside)
    · rw [found] at there
      cases there
      exact Or.inl exports
  · rintro (exports | ⟨attached, j, mark, before, there, exports, between⟩)
    · refine ⟨i, n, Nat.lt_succ_self i, found, exports, ?_⟩
      intro k m after inside
      omega
    · refine ⟨j, mark, Nat.lt_succ_of_lt before, there, exports, ?_⟩
      intro k m after inside at_k
      rcases Nat.lt_succ_iff_lt_or_eq.mp inside with earlier | rfl
      · exact between k m after earlier at_k
      · rw [found] at at_k
        cases at_k
        exact attached

/-- The backward walk over the siblings of an item finds a mark if and only if there is one. -/
theorem isExported_take_iff (items : List Node) : ∀ i ≤ items.length,
    (isExported (items.take i).reverse = true ↔ ExportMarked items i) := by
  intro i
  induction i with
  | zero =>
    intro _
    simp [exportMarked_zero, isExported, attachedAttributes]
  | succ i ih =>
    intro bound
    have found : items[i]? = some items[i] := List.getElem?_eq_getElem bound
    rw [List.take_succ_eq_append_getElem bound, List.reverse_append, List.reverse_singleton,
      List.singleton_append, isExported_cons_iff, exportMarked_succ_iff found,
      ih (Nat.le_of_succ_le bound)]

/-- Nothing before an item that is neither an attribute nor a comment is attached to a later one. -/
theorem attachedAttributes_barrier {barrier : Node} (proper : ¬ barrier.IsAttached)
    (between before : List Node) :
    attachedAttributes (between ++ barrier :: before) = attachedAttributes between := by
  induction between with
  | nil =>
    rw [isAttached_iff, ← Bool.or_eq_true] at proper
    rw [List.nil_append, attachedAttributes_cons, if_neg proper]
    rfl
  | cons n rest ih =>
    rw [List.cons_append, attachedAttributes_cons, attachedAttributes_cons, ih]

end Node

section Macros

variable {file : String} {earlier : List Node} {item node : Node}

theorem addition_isMacro (stands : item.IsMacro node) :
    addition file earlier item =
      if Node.isExported earlier then (Contribution.ofExportedMacro node).record file
      else Module.blank file [] := by
  have contributed : Contribution.ofItem earlier item =
      if Node.isExported earlier then Contribution.ofExportedMacro node else .nothing := by
    unfold Contribution.ofItem
    cases stands with
    | definition kind => simp [kind]
    | call kind => simp [kind]
    | statement kind only call => simp [kind, only, call]
  rw [addition, contributed]
  split <;> rfl

/-- A definition with a name adds one function, from tokens to tokens. -/
theorem record_named_definition (kind : node.kind = "macro_definition") (named : node.nameText ≠ "") :
    (Contribution.ofExportedMacro node).record file =
      { Module.blank file [] with
        functions := [⟨node.nameText, [], [⟨"tokens", "Tokens"⟩], "Tokens"⟩] } := by
  rw [Contribution.record_eq]
  simp [Contribution.ofExportedMacro, macroStub, kind, named, Module.blank, Declaration.const?,
    Declaration.enum?, Declaration.struct?, Declaration.trait?, Declaration.function?,
    Declaration.methods?]

/-- Any other exported macro adds one issue. -/
theorem record_nameless_macro (nameless : node.kind = "macro_definition" → node.nameText = "") :
    (Contribution.ofExportedMacro node).record file =
      { Module.blank file [] with
        issues := [⟨file, "macro", node.render,
          "Encountered #[macro_export] macro without a stable name."⟩] } := by
  have reason : Cause.namelessMacro.reason =
      "Encountered #[macro_export] macro without a stable name." := rfl
  rw [Contribution.record_eq, ← reason]
  by_cases kind : node.kind = "macro_definition"
  · simp [Contribution.ofExportedMacro, kind, nameless kind, Module.blank, Finding.issue, Cause.kind]
  · simp [Contribution.ofExportedMacro, kind, Module.blank, Finding.issue, Cause.kind]

theorem additions_eq_mapIdx (file : String) (items : List Node) : ∀ earlier,
    additions file earlier items =
      items.mapIdx fun i item => addition file ((items.take i).reverse ++ earlier) item := by
  induction items with
  | nil => intro earlier; rfl
  | cons n rest ih =>
    intro earlier
    rw [additions, ih, List.mapIdx_cons]
    simp

/-- Whether a macro is exported is up to the attributes directly before it. A definition that is
exported and has a name adds to its module one function from tokens to tokens and nothing else,
another exported macro one issue and nothing else, a macro that is not exported nothing. No attribute reaches
an item behind another one. The record of a body is what its items add, in source order. -/
theorem exported_macros (file : String) (items : List Node) :
    (∀ i item node, items[i]? = some item → item.IsMacro node →
      (Node.isExported (items.take i).reverse = true ↔ Node.ExportMarked items i) ∧
      (Node.ExportMarked items i → node.kind = "macro_definition" → node.nameText ≠ "" →
        addition file (items.take i).reverse item =
          { Module.blank file [] with
            functions := [⟨node.nameText, [], [⟨"tokens", "Tokens"⟩], "Tokens"⟩] }) ∧
      (Node.ExportMarked items i → (node.kind = "macro_definition" → node.nameText = "") →
        addition file (items.take i).reverse item =
          { Module.blank file [] with
            issues := [⟨file, "macro", node.render,
              "Encountered #[macro_export] macro without a stable name."⟩] }) ∧
      (¬ Node.ExportMarked items i →
        addition file (items.take i).reverse item = Module.blank file [])) ∧
    (∀ before barrier between item, ¬ barrier.IsAttached →
      addition file (before ++ barrier :: between).reverse item =
        addition file between.reverse item) ∧
    ∀ parts (body : Node), body.namedChildren = items →
      Module.ofBody file parts body.outline =
        Module.concat file parts
          (items.mapIdx fun i item => addition file (items.take i).reverse item) := by
  refine ⟨?_, ?_, ?_⟩
  · intro i item node there stands
    have bound := (List.getElem?_eq_some_iff.mp there).1
    have marked := Node.isExported_take_iff items i (Nat.le_of_lt bound)
    refine ⟨marked, ?_, ?_, ?_⟩
    · intro mark kind named
      rw [addition_isMacro stands, if_pos (marked.mpr mark), record_named_definition kind named]
    · intro mark nameless
      rw [addition_isMacro stands, if_pos (marked.mpr mark), record_nameless_macro nameless]
    · intro unmarked
      rw [addition_isMacro stands, if_neg (mt marked.mp unmarked)]
  · intro before barrier between item proper
    rw [List.reverse_append, List.reverse_cons, List.append_assoc, List.singleton_append, addition,
      Node.ofItem_eq (Node.attachedAttributes_barrier proper between.reverse before.reverse), addition]
  · rintro parts body rfl
    rw [ofBody_outline, additions_eq_mapIdx]
    simp only [List.append_nil]

end Macros

section

open SwappedItems

/-- A `macro_export` with a comment behind it, the macro it exports, and a constant that keeps it from
the next macro. -/
def twoMacros : List Node :=
  [exportAttribute, .leaf "line_comment" "// traces", traceMacro, limitConst, traceMacro]

/-- Only the first macro is exported. -/
theorem two_macros_one_exported :
    Node.ExportMarked twoMacros 2 ∧ ¬ Node.ExportMarked twoMacros 4 ∧
      addition "lib.rs" (twoMacros.take 2).reverse traceMacro =
        ⟨"lib.rs", [], [], [], [], [], [⟨"trace", [], [⟨"tokens", "Tokens"⟩], "Tokens"⟩], [], []⟩ ∧
      addition "lib.rs" (twoMacros.take 4).reverse traceMacro = Module.blank "lib.rs" [] := by
  have stands : traceMacro.IsMacro traceMacro := .definition rfl
  obtain ⟨first, exported, _, _⟩ := (exported_macros "lib.rs" twoMacros).1 2 _ _ rfl stands
  obtain ⟨second, _, _, silent⟩ := (exported_macros "lib.rs" twoMacros).1 4 _ _ rfl stands
  have marked : Node.ExportMarked twoMacros 2 := first.mp (by decide +kernel)
  have unmarked : ¬ Node.ExportMarked twoMacros 4 := mt second.mpr (by decide +kernel)
  exact ⟨marked, unmarked, exported marked rfl (by decide), silent unmarked⟩

end

end CrateSurface
