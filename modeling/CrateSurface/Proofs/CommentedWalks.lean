import CrateSurface.Proofs.CommentedItems

namespace CrateSurface

section Hushed

mutual

/-- An entry without what was noticed about it for the log. -/
def Entry.hushed : Entry → Entry
  | .item contribution => .item ⟨contribution.value, contribution.findings, []⟩
  | .inlineModule name body => .inlineModule name (hushed body)
  | .fileModule name => .fileModule name

/-- A body whose items leave no remarks. -/
def hushed : List Entry → List Entry
  | [] => []
  | entry :: rest => entry.hushed :: hushed rest

end

theorem hushed_append (xs ys : List Entry) : hushed (xs ++ ys) = hushed xs ++ hushed ys := by
  induction xs with
  | nil => rfl
  | cons entry rest ih => rw [List.cons_append, hushed, hushed, ih, List.cons_append]

theorem contributions_hushed (body : List Entry) :
    contributions (hushed body) =
      (contributions body).map fun noted => ⟨noted.value, noted.findings, []⟩ := by
  induction body using Entry.bodyInduction with
  | nil => rfl
  | item contribution rest ih => simpa [hushed, Entry.hushed, contributions] using ih
  | inlineModule name body rest _ ih => simpa [hushed, Entry.hushed, contributions] using ih
  | fileModule name rest ih => simpa [hushed, Entry.hushed, contributions] using ih

theorem ofBody_hushed (file : String) (parts : List String) (body : List Entry) :
    Module.ofBody file parts (hushed body) = Module.ofBody file parts body := by
  unfold Module.ofBody
  simp only [contributions_hushed, List.filterMap_map, List.flatMap_map]
  rfl

variable {view : FileView} {f : String → List String → List String → Visit} {file : String}

theorem visitBody_hushed_of_entries {parts : List String} {base : String} {body : List Entry}
    {seen : List String}
    (entries : (visitEntries view f file parts base (hushed body) seen).SameOutcome
      (visitEntries view f file parts base body seen)) :
    (visitBody view f file parts base (hushed body) seen).SameOutcome
      (visitBody view f file parts base body seen) := by
  unfold visitBody
  rw [ofBody_hushed]
  exact entries.andThen fun _ => .refl _

/-- The visit of entries without their remarks has the same outcome. -/
theorem visitEntries_hushed (body : List Entry) : ∀ parts base seen,
    (visitEntries view f file parts base (hushed body) seen).SameOutcome
      (visitEntries view f file parts base body seen) := by
  induction body using Entry.bodyInduction with
  | nil =>
    intro parts base seen
    rw [hushed]
    exact .refl _
  | item contribution rest ih =>
    intro parts base seen
    rw [hushed, Entry.hushed, visitEntries_item, visitEntries_item]
    have same : (Visit.remarking ((⟨contribution.value, contribution.findings, []⟩ :
          Contribution).remarks.map (Remark.note file)) seen).SameOutcome
        (Visit.remarking (contribution.remarks.map (Remark.note file)) seen) := ⟨rfl, rfl, rfl⟩
    exact same.andThen fun _ => ih parts base seen
  | inlineModule name body rest inner ih =>
    intro parts base seen
    rw [hushed, Entry.hushed, visitEntries_inlineModule, visitEntries_inlineModule]
    exact (visitBody_hushed_of_entries (inner _ _ seen)).andThen fun _ => ih parts base _
  | fileModule name rest ih =>
    intro parts base seen
    rw [hushed, Entry.hushed, visitEntries_fileModule, visitEntries_fileModule]
    exact (Visit.SameOutcome.refl _).andThen fun _ => ih parts base _

/-- The outcome of a visit does not hang on what is only logged. -/
theorem visitBody_hushed (parts : List String) (base : String) (body : List Entry)
    (seen : List String) :
    (visitBody view f file parts base (hushed body) seen).SameOutcome
      (visitBody view f file parts base body seen) :=
  visitBody_hushed_of_entries (visitEntries_hushed body parts base seen)

end Hushed

namespace Node

variable {n m : Node} {earlier earlier' : List Node}

/-- A comment between an attribute and its item does not part them. -/
theorem IsInsertion.attachedAttributes {c : Node} (fresh : c.IsInsertion) (earlier : List Node) :
    attachedAttributes (c :: earlier) = attachedAttributes earlier := by
  rw [attachedAttributes_cons, fresh.comment, fresh.kind_ne (by decide), Bool.or_true]
  rfl

theorem Commented.attachedAttributes (commented : Commented n m)
    (attributes : List.Forall₂ Commented (attachedAttributes earlier) (attachedAttributes earlier')) :
    List.Forall₂ Commented (Node.attachedAttributes (n :: earlier))
      (Node.attachedAttributes (m :: earlier')) := by
  rw [attachedAttributes_cons, attachedAttributes_cons, isAttribute, isAttribute,
    commented.isComment_eq, commented.kind]
  split
  · refine List.rel_append ?_ attributes
    split
    · exact .cons commented .nil
    · exact .nil
  · exact .nil

theorem isExported_eq
    (attributes : List.Forall₂ Commented (attachedAttributes earlier) (attachedAttributes earlier')) :
    isExported earlier = isExported earlier' := by
  unfold isExported
  generalize attachedAttributes earlier = xs, attachedAttributes earlier' = ys at attributes ⊢
  induction attributes with
  | nil => rfl
  | cons pair _ ih => rw [List.any_cons, List.any_cons, pair.attributePath_eq, ih]

/-- A comment among the items of a module adds nothing but a line to the log. -/
theorem IsInsertion.entry {c : Node} (fresh : c.IsInsertion) (earlier : List Node) :
    ∃ remarks, c.entry? earlier = some (.item ⟨none, [], remarks⟩) := by
  rw [entry?_eq]
  by_cases isPublic : c.isPublic = true
  · exact ⟨[.ignored c.kind], by
      simp [Contribution.ofItem, Contribution.ofPublicItem, fresh.kind_ne, isPublic]⟩
  · exact ⟨[], by simp [Contribution.ofItem, Contribution.nothing, fresh.kind_ne, isPublic]⟩

/-- The outline of a node is made of all its children. -/
theorem outline_eq_entriesAfter (n : Node) : n.outline = entriesAfter [] n.children := by
  cases n
  rw [outline]

/-- The outlines of two bodies match, apart from what is only logged. -/
def OutlinesMatch (n m : Node) : Prop :=
  Matches (hushed n.outline) (hushed m.outline)

/-- Items that differ in comments have matching entries. -/
theorem Commented.entries (commented : Commented n m)
    (bodies : Option.Rel OutlinesMatch (n.childByField? "body") (m.childByField? "body"))
    (exported : isExported earlier = isExported earlier') {xs ys : List Entry}
    (matched : Matches (hushed xs) (hushed ys)) :
    Matches (hushed ((n.entry? earlier).toList ++ xs)) (hushed ((m.entry? earlier').toList ++ ys)) := by
  rw [entry?_eq, entry?_eq, commented.kind, commented.isPublic_eq, commented.nameText_eq,
    commented.ofItem_eq exported, hushed_append, hushed_append]
  split
  · split
    · generalize n.childByField? "body" = body, m.childByField? "body" = other at bodies ⊢
      cases bodies with
      | none => exact .fileModule _ matched
      | some inner => exact .inlineModule _ inner matched
    · exact matched
  · exact .item _ matched

/-- Items with comments between them make the same entries, if they match one by one. -/
theorem Inserted.entriesAfter {admitted : Bool} {xs ys : List Node}
    (inserted : Inserted (fun x y => Commented x y ∧
      Option.Rel OutlinesMatch (x.childByField? "body") (y.childByField? "body")) admitted xs ys) :
    ∀ earlier earlier',
      List.Forall₂ Commented (attachedAttributes earlier) (attachedAttributes earlier') →
      Matches (hushed (entriesAfter earlier xs)) (hushed (entriesAfter earlier' ys)) := by
  induction inserted with
  | nil =>
    intro earlier earlier' _
    rw [Node.entriesAfter, Node.entriesAfter]
    exact .nil
  | @keep _ x y _ _ pair _ ih =>
    intro earlier earlier' attributes
    obtain ⟨commented, bodies⟩ := pair
    rw [Node.entriesAfter, Node.entriesAfter, commented.label.named]
    split
    · exact commented.entries bodies (isExported_eq attributes)
        (ih _ _ (commented.attachedAttributes attributes))
    · exact ih earlier earlier' attributes
  | @comment c _ _ fresh _ ih =>
    intro earlier earlier' attributes
    obtain ⟨remarks, silent⟩ := fresh.entry earlier'
    rw [← fresh.attachedAttributes earlier'] at attributes
    rw [Node.entriesAfter, if_pos fresh.named, silent]
    exact .right (ih _ _ attributes)

/-- Bodies that differ in comments have matching outlines. -/
theorem Commented.outline (commented : Commented n m) : OutlinesMatch n m := by
  refine (induct (P := fun n m => OutlinesMatch n m ∧
    Option.Rel OutlinesMatch (n.childByField? "body") (m.childByField? "body")) ?_ commented).1
  intro n m label inserted
  refine ⟨?_, ?_⟩
  · unfold OutlinesMatch
    rw [outline_eq_entriesAfter, outline_eq_entriesAfter]
    exact (inserted.imp fun _ _ _ pair => ⟨pair.1, pair.2.2⟩).entriesAfter [] [] .nil
  · have found := inserted.childByField? (fun _ _ pair => pair.1.label.field) "body"
    generalize n.childByField? "body" = body, m.childByField? "body" = other at found ⊢
    cases found with
    | none => exact .none
    | some pair => exact .some pair.2.1

end Node

/-- Comments change nothing that is read off a tree: the nodes that were there keep their tokens,
their texts and their visibility, and a walk through the tree has the same outcome. -/
theorem comments_change_nothing {root other : Node} (commented : Node.Commented root other) :
    (∃ kept, kept.Sublist other.subtrees ∧
      List.Forall₂ (fun n m => Node.Commented n m ∧ n.tokens = m.tokens ∧ n.render = m.render ∧
        Node.renderBounds (some n) = Node.renderBounds (some m) ∧ n.isPublic = m.isPublic)
        root.subtrees kept) ∧
    ∀ view allowFaults file parts base seen,
      (walkBody view allowFaults file parts base root.outline seen).SameOutcome
        (walkBody view allowFaults file parts base other.outline seen) := by
  refine ⟨?_, ?_⟩
  · obtain ⟨kept, among, pairs⟩ := commented.subtrees
    refine ⟨kept, among, pairs.imp ?_⟩
    intro n m pair
    exact ⟨pair, pair.tokens_eq, pair.render_eq, pair.renderBounds_eq, pair.isPublic_eq⟩
  · intro view allowFaults file parts base seen
    have agree : OutcomesAgree (fun _ => True) seen (walk view allowFaults) (walk view allowFaults) :=
      fun _ _ _ _ _ => .refl _
    have same := commented.outline.visitBody (walk_grows view allowFaults)
      (Eq.refl view.pathExists) file parts base seen agree fun _ _ _ => trivial
    exact ((visitBody_hushed parts base root.outline seen).symm.trans same).trans
      (visitBody_hushed parts base other.outline seen)

namespace CommentedCrate

open Node (branch nameLeaf leaf token)

/-- A comment up to the end of its line. -/
def comment : Node :=
  leaf "line_comment" "// not counted"

/-- The attribute that exports a macro. -/
def exporting : Node :=
  branch "attribute_item" none [token "#", token "[",
    branch "attribute" none [leaf "identifier" "macro_export"], token "]"]

/-- A receiver, with comments before it. -/
def parameters (comments : List Node) : Node :=
  branch "parameters" (some "parameters")
    ([token "("] ++ comments ++ [branch "self_parameter" none [leaf "self" "self"], token ")"])

/-- An exported macro and a public method with a receiver, with comments after the attribute and
before the receiver. -/
def root (comments : List Node) : Node :=
  branch "source_file" none ([exporting] ++ comments ++
    [branch "macro_definition" none [token "macro_rules!", nameLeaf "m"],
      branch "function_item" none
        [leaf "visibility_modifier" "pub", nameLeaf "f", parameters comments]])

/-- No further files are there. -/
def view : FileView where
  workdir := "/"
  files := []
  pathExists _ := false
  isFile _ := false
  canonical path := .ok path
  read path := .error (.path (.system .notFound path))
  read_mem path source h := by cases h

theorem comment_isInsertion : comment.IsInsertion :=
  ⟨by decide +kernel, rfl, rfl⟩

/-- The crate with a comment in it is the one without, but for the comment. -/
theorem root_commented : Node.Commented (root []) (root [comment]) := by
  have file : (root []).admitsComments = true := by decide +kernel
  have list : (parameters []).admitsComments = true := by decide +kernel
  have params : Node.Commented (parameters []) (parameters [comment]) := by
    refine .intro ⟨rfl, rfl, rfl, rfl, rfl, rfl⟩ ?_
    rw [list]
    exact .keep (.refl _) (.comment comment_isInsertion (.keep (.refl _) (.keep (.refl _) (.nil _))))
  refine .intro ⟨rfl, rfl, rfl, rfl, rfl, rfl⟩ ?_
  rw [file]
  refine .keep (.refl _) (.comment comment_isInsertion (.keep (.refl _) (.keep ?_ (.nil _))))
  refine .intro ⟨rfl, rfl, rfl, rfl, rfl, rfl⟩ ?_
  exact .keep (.refl _) (.keep (.refl _) (.keep params (.nil _)))

end CommentedCrate

section

open CommentedCrate

/-- Comments after an attribute and before a receiver change neither the text nor the records. -/
theorem commented_crate_unchanged :
    (root []).render = (root [comment]).render ∧
    (walkBody view false "/lib.rs" [] "/" (root [comment]).outline []).records.map
      (fun record => record.functions.map fun f => (f.name, f.params.map (·.name))) =
        [[("m", ["tokens"]), ("f", ["self"])]] ∧
    (walkBody view false "/lib.rs" [] "/" (root []).outline []).SameOutcome
      (walkBody view false "/lib.rs" [] "/" (root [comment]).outline []) := by
  obtain ⟨_, outcomes⟩ := comments_change_nothing root_commented
  exact ⟨root_commented.render_eq, by decide +kernel, outcomes view false "/lib.rs" [] "/" []⟩

end

end CrateSurface
