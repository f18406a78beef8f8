import CrateSurface.Surface.Outline

namespace CrateSurface

/-- The induction that every walk through a module body follows. -/
theorem Entry.bodyInduction {P : List Entry → Prop} (nil : P [])
    (item : ∀ contribution rest, P rest → P (.item contribution :: rest))
    (inlineModule : ∀ name body rest, P body → P rest → P (.inlineModule name body :: rest))
    (fileModule : ∀ name rest, P rest → P (.fileModule name :: rest)) : ∀ body, P body
  | [] => nil
  | .item contribution :: rest =>
    item contribution rest (Entry.bodyInduction nil item inlineModule fileModule rest)
  | .inlineModule name body :: rest =>
    inlineModule name body rest (Entry.bodyInduction nil item inlineModule fileModule body)
      (Entry.bodyInduction nil item inlineModule fileModule rest)
  | .fileModule name :: rest =>
    fileModule name rest (Entry.bodyInduction nil item inlineModule fileModule rest)

namespace Node

theorem size_le_sizeAll {n : Node} {trees : List Node} (member : n ∈ trees) :
    n.size ≤ sizeAll trees := by
  induction trees with
  | nil => simp at member
  | cons first rest ih =>
    rw [sizeAll]
    rcases List.mem_cons.mp member with rfl | later
    · omega
    · have := ih later
      omega

theorem size_lt_of_mem_children {n child : Node} (member : child ∈ n.children) :
    child.size < n.size := by
  rw [n.size_eq]
  exact Nat.lt_succ_of_le (size_le_sizeAll member)

theorem mem_children_of_mem_namedChildren {n child : Node} (member : child ∈ n.namedChildren) :
    child ∈ n.children :=
  (List.mem_filter.mp member).1

theorem mem_children_of_childByField? {n child : Node} {role : String}
    (found : n.childByField? role = some child) : child ∈ n.children :=
  List.mem_of_find?_eq_some found

/-- A node of the grammar with children. -/
def branch (kind : String) (role : Option String) (children : List Node) : Node :=
  ⟨kind, none, role, true, false, false, children⟩

/-- The name of an item. -/
def nameLeaf (name : String) : Node :=
  { leaf "identifier" name with field := some "name" }

/-- The body of a public module that is written inside its parent. -/
def inlineBody? (n : Node) : Option Node :=
  if n.kind == "mod_item" && n.isPublic then n.childByField? "body" else none

/-- A public module that is declared here and written in a file of its own. -/
structure IsFileModule (n : Node) : Prop where
  kind : n.kind = "mod_item"
  isPublic : n.isPublic = true
  bodiless : n.childByField? "body" = none

/-- A module in a file has no body. -/
theorem IsFileModule.inlineBody? {n : Node} (declared : n.IsFileModule) : n.inlineBody? = none := by
  rw [Node.inlineBody?, declared.bodiless, ite_self]

/-- The public declaration of a module that has a file of its own. -/
def declaring (name : String) : Node :=
  branch "mod_item" none [leaf "visibility_modifier" "pub", nameLeaf name]

theorem declaring_isFileModule (name : String) : (declaring name).IsFileModule where
  kind := rfl
  isPublic := by
    have marker : (declaring name).childOfKind? "visibility_modifier" =
        some (leaf "visibility_modifier" "pub") := by
      simp [declaring, branch, childOfKind?, leaf]
    rw [isPublic, marker]
    decide +kernel
  bodiless := by simp [declaring, branch, childByField?, leaf, nameLeaf]

theorem nameText_declaring (name : String) : (declaring name).nameText = name := by
  simp [declaring, nameText, branch, childByField?, leaf, nameLeaf, textOrEmpty]

/-- The body of an inline module is smaller than the module. -/
theorem size_lt_of_inlineBody? {n body : Node} (found : n.inlineBody? = some body) :
    body.size < n.size := by
  unfold inlineBody? at found
  split at found
  · exact size_lt_of_mem_children (mem_children_of_childByField? found)
  · cases found

/-- The named children of a node are smaller than it, all together. -/
theorem sizeAll_namedChildren_lt (n : Node) : sizeAll n.namedChildren < n.size := by
  have fewer : ∀ trees : List Node, sizeAll (trees.filter (·.named)) ≤ sizeAll trees := by
    intro trees
    induction trees with
    | nil => exact Nat.le_refl _
    | cons first rest ih =>
      rw [List.filter_cons]
      split <;> simp only [sizeAll] <;> omega
  have := fewer n.children
  rw [n.size_eq, namedChildren]
  omega

/-- The public inline modules among the items of a module body and, through them, inside one
another, in source order. -/
def inlineModules (items : List Node) : List Node :=
  items.flatMap fun n =>
    match _found : n.inlineBody? with
    | some body => n :: inlineModules body.namedChildren
    | none => []
termination_by sizeAll items
decreasing_by
  rename_i member
  have := sizeAll_namedChildren_lt body
  have := size_lt_of_inlineBody? _found
  have := size_le_sizeAll member
  omega

/-- The inline modules of items are each of them and those inside it. -/
theorem inlineModules_eq (items : List Node) :
    inlineModules items = items.flatMap fun n =>
      match n.inlineBody? with
      | some body => n :: inlineModules body.namedChildren
      | none => [] := by
  rw [inlineModules]
  congr 1
  funext n
  split <;> rename_i found <;> rw [found]

theorem inlineModules_cons (n : Node) (rest : List Node) :
    inlineModules (n :: rest) =
      (match n.inlineBody? with
        | some body => n :: inlineModules body.namedChildren
        | none => []) ++ inlineModules rest := by
  rw [inlineModules_eq, List.flatMap_cons, ← inlineModules_eq]

/-- The items of a module body that stand at its top level or inside public inline modules; `names`
are the names of these modules, from the outside in. -/
inductive Nested : List Node → List String → Node → Prop
  | here {items : List Node} {n : Node} : n ∈ items → Nested items [] n
  | inside {items : List Node} {outer body n : Node} {names : List String} :
      outer ∈ items → outer.inlineBody? = some body → Nested body.namedChildren names n →
      Nested items (outer.nameText :: names) n

/-- The attributes before an item do not reach across an item of another kind. -/
theorem attachedAttributes_cons (n : Node) (earlier : List Node) :
    attachedAttributes (n :: earlier) =
      if n.isAttribute || n.isComment then
        (if n.kind == "attribute_item" then [n] else []) ++ attachedAttributes earlier
      else [] := by
  unfold attachedAttributes
  rw [List.takeWhile_cons]
  split
  · rw [List.filter_cons]
    split <;> rfl
  · rfl

section Outline

variable {earlier children : List Node} {n : Node}

/-- A body is the first child in the role of one, and its outline that of the child. -/
theorem bodyOutline?_eq (children : List Node) :
    bodyOutline? children =
      (children.find? fun child => child.field == some "body").map outline := by
  induction children with
  | nil => rfl
  | cons child rest ih =>
    rw [bodyOutline?, List.find?_cons]
    cases child.field == some "body" with
    | true => rfl
    | false => simpa using ih

/-- An item is an entry by its kind: a public module with a body or without one, or a contribution.
-/
theorem entry?_eq (earlier : List Node) (n : Node) :
    n.entry? earlier =
      if n.kind == "mod_item" then
        if n.isPublic then
          match n.childByField? "body" with
          | some body => some (.inlineModule n.nameText body.outline)
          | none => some (.fileModule n.nameText)
        else none
      else some (.item (Contribution.ofItem earlier n)) := by
  obtain ⟨kind, text, field, named, error, missing, children⟩ := n
  simp only [ entry?, bodyOutline?_eq, childByField?]
  cases children.find? fun child => child.field == some "body" <;> rfl

theorem entry?_of_inlineBody? {body : Node} (found : n.inlineBody? = some body) :
    n.entry? earlier = some (.inlineModule n.nameText body.outline) := by
  unfold inlineBody? at found
  split at found
  · rename_i here
    obtain ⟨kind, isPublic⟩ := Bool.and_eq_true_iff.mp here
    rw [entry?_eq, if_pos kind, if_pos isPublic, found]
  · cases found

theorem IsFileModule.entry? (declared : n.IsFileModule) :
    n.entry? earlier = some (.fileModule n.nameText) := by
  rw [entry?_eq, if_pos (beq_iff_eq.mpr declared.kind), if_pos declared.isPublic,
    declared.bodiless]

/-- Nodes without names make no entries. -/
theorem entriesAfter_eq (earlier children : List Node) :
    entriesAfter earlier children = entriesAfter earlier (children.filter (·.named)) := by
  induction children generalizing earlier with
  | nil => rfl
  | cons child rest ih =>
    rw [entriesAfter, List.filter_cons]
    split
    · rename_i named
      rw [entriesAfter, if_pos named, ih]
    · exact ih earlier

theorem outline_eq (n : Node) : n.outline = entriesAfter [] n.namedChildren := by
  cases n
  rw [outline, entriesAfter_eq]
  rfl

/-- Only a public module with a body is an entry of that sort. -/
theorem entry?_eq_inlineModule_iff {name : String} {entries : List Entry} :
    n.entry? earlier = some (.inlineModule name entries) ↔
      ∃ body, n.inlineBody? = some body ∧ n.nameText = name ∧ body.outline = entries := by
  constructor
  · intro found
    rw [entry?_eq] at found
    split at found
    · rename_i kind
      split at found
      · rename_i isPublic
        split at found
        · rename_i body atBody
          cases found
          exact ⟨body, by simp only [inlineBody?, kind, isPublic, Bool.and_self, if_true, atBody],
            rfl, rfl⟩
        · cases found
      · cases found
    · cases found
  · rintro ⟨body, found, rfl, rfl⟩
    exact entry?_of_inlineBody? found

theorem entry?_eq_fileModule_iff {name : String} :
    n.entry? earlier = some (.fileModule name) ↔ n.IsFileModule ∧ n.nameText = name := by
  constructor
  · intro found
    rw [entry?_eq] at found
    split at found
    · rename_i kind
      split at found
      · rename_i isPublic
        split at found
        · cases found
        · rename_i bodiless
          cases found
          exact ⟨⟨beq_iff_eq.mp kind, isPublic, bodiless⟩, rfl⟩
      · cases found
    · cases found
  · rintro ⟨declared, rfl⟩
    exact declared.entry?

/-- An entry that does not hang on the siblings of its node is there if the node is. -/
theorem mem_entriesAfter_iff {entry : Entry} {Q : Node → Prop}
    (same : ∀ n earlier, n.entry? earlier = some entry ↔ Q n) (earlier children : List Node) :
    entry ∈ entriesAfter earlier children ↔ ∃ n ∈ children.filter (·.named), Q n := by
  induction children generalizing earlier with
  | nil => simp [entriesAfter]
  | cons child rest ih =>
    rw [entriesAfter, List.filter_cons]
    split
    · rw [List.mem_append, ih, Option.mem_toList, same]
      simp only [List.mem_cons, exists_eq_or_imp]
    · exact ih earlier

/-- The inline modules of an outline are those of the body. -/
theorem inlineModule_mem_outline {body : Node} {name : String} {entries : List Entry} :
    .inlineModule name entries ∈ body.outline ↔ ∃ n ∈ body.namedChildren, ∃ inner,
      n.inlineBody? = some inner ∧ n.nameText = name ∧ inner.outline = entries := by
  rw [outline_eq, mem_entriesAfter_iff (fun n earlier => entry?_eq_inlineModule_iff)]
  simp [namedChildren]

theorem fileModule_mem_outline {body : Node} {name : String} :
    .fileModule name ∈ body.outline ↔
      ∃ n ∈ body.namedChildren, n.IsFileModule ∧ n.nameText = name := by
  rw [outline_eq, mem_entriesAfter_iff (fun n earlier => entry?_eq_fileModule_iff)]
  simp [namedChildren]

end Outline

end Node

/-- The modules in files of their own that a body declares, each with the names of the inline
modules around the declaration, from the outside in. -/
def declarations : List Entry → List (List String × String)
  | [] => []
  | .item _ :: rest => declarations rest
  | .inlineModule outer body :: rest =>
    (declarations body).map (fun d => (outer :: d.1, d.2)) ++ declarations rest
  | .fileModule name :: rest => ([], name) :: declarations rest

/-- The number of inline modules in a body, those inside one another included. -/
def inlineCount : List Entry → Nat
  | [] => 0
  | .item _ :: rest => inlineCount rest
  | .inlineModule _ body :: rest => inlineCount body + 1 + inlineCount rest
  | .fileModule _ :: rest => inlineCount rest

theorem nil_mem_declarations {body : List Entry} {name : String} :
    ([], name) ∈ declarations body ↔ .fileModule name ∈ body := by
  induction body using Entry.bodyInduction with
  | nil => simp [declarations]
  | item contribution rest ih => simp [declarations, ih]
  | inlineModule outer body rest _ ih => simp [declarations, ih]
  | fileModule declared rest ih => simp [declarations, ih]

/-- A body declares modules by its inline modules, under their names. -/
theorem cons_mem_declarations {body : List Entry} {outer name : String} {names : List String} :
    (outer :: names, name) ∈ declarations body ↔
      ∃ inner, .inlineModule outer inner ∈ body ∧ (names, name) ∈ declarations inner := by
  induction body using Entry.bodyInduction with
  | nil => simp [declarations]
  | item contribution rest ih => simp [declarations, ih]
  | inlineModule other body rest _ ih =>
    rw [declarations, List.mem_append, ih]
    constructor
    · rintro (inside | ⟨inner, member, inside⟩)
      · obtain ⟨declared, member, same⟩ := List.mem_map.mp inside
        cases same
        exact ⟨body, List.mem_cons_self .., member⟩
      · exact ⟨inner, List.mem_cons_of_mem _ member, inside⟩
    · rintro ⟨inner, member, inside⟩
      rcases List.mem_cons.mp member with same | later
      · cases same
        exact Or.inl (List.mem_map.mpr ⟨(names, name), inside, rfl⟩)
      · exact Or.inr ⟨inner, later, inside⟩
  | fileModule declared rest ih => simp [declarations, ih]

/-- The declarations of an outline are the public declarations of its tree. -/
theorem mem_declarations_outline {body : Node} {names : List String} {name : String} :
    (names, name) ∈ declarations body.outline ↔
      ∃ n, Node.Nested body.namedChildren names n ∧ n.IsFileModule ∧ n.nameText = name := by
  induction names generalizing body with
  | nil =>
    rw [nil_mem_declarations, Node.fileModule_mem_outline]
    constructor
    · rintro ⟨n, member, declared, same⟩
      exact ⟨n, .here member, declared, same⟩
    · rintro ⟨n, nested, declared, same⟩
      cases nested with
      | here member => exact ⟨n, member, declared, same⟩
  | cons outer names ih =>
    rw [cons_mem_declarations]
    constructor
    · rintro ⟨entries, member, inside⟩
      obtain ⟨m, among, inner, found, rfl, rfl⟩ := Node.inlineModule_mem_outline.mp member
      obtain ⟨n, nested, declared, same⟩ := ih.mp inside
      exact ⟨n, .inside among found nested, declared, same⟩
    · rintro ⟨n, nested, declared, same⟩
      cases nested with
      | @inside _ m inner _ _ among found nested =>
        exact ⟨inner.outline, Node.inlineModule_mem_outline.mpr ⟨m, among, inner, found, rfl, rfl⟩,
          ih.mpr ⟨n, nested, declared, same⟩⟩

theorem inlineCount_of_inlineBody?_none {n : Node} (none : n.inlineBody? = none)
    (earlier : List Node) (rest : List Entry) :
    inlineCount ((n.entry? earlier).toList ++ rest) = inlineCount rest := by
  cases found : n.entry? earlier with
  | none => rfl
  | some entry =>
    cases entry with
    | item contribution => simp [inlineCount]
    | fileModule name => simp [inlineCount]
    | inlineModule name body =>
      obtain ⟨inner, some, _⟩ := Node.entry?_eq_inlineModule_iff.mp found
      rw [none] at some
      cases some

/-- The outline of items has as many inline modules as the items. -/
theorem inlineCount_entriesAfter (earlier items : List Node)
    (named : ∀ n ∈ items, n.named = true) :
    inlineCount (Node.entriesAfter earlier items) = (Node.inlineModules items).length := by
  induction size : Node.sizeAll items using Nat.strongRecOn generalizing earlier items with
  | ind size ih =>
    subst size
    cases items with
    | nil => simp [Node.entriesAfter, inlineCount, Node.inlineModules_eq []]
    | cons n rest =>
      have smaller : Node.sizeAll rest < Node.sizeAll (n :: rest) := by
        rw [Node.sizeAll, n.size_eq]
        omega
      have later := ih _ smaller (n :: earlier) rest
        (fun m member => named m (List.mem_cons_of_mem _ member)) rfl
      rw [Node.entriesAfter, if_pos (named n (List.mem_cons_self ..)), Node.inlineModules_cons]
      cases found : n.inlineBody? with
      | none => rw [inlineCount_of_inlineBody?_none found, later, List.nil_append]
      | some body =>
        have within := Node.sizeAll_namedChildren_lt body
        have below := Node.size_lt_of_inlineBody? found
        have inside := ih _ (by rw [Node.sizeAll]; omega) [] body.namedChildren
          (fun m member => (List.mem_filter.mp member).2) rfl
        rw [Node.entry?_of_inlineBody? found, Node.outline_eq]
        simp only [Option.toList_some, List.cons_append, List.nil_append, inlineCount, inside,
          later, List.length_cons, List.length_append]
        omega

/-- The inline modules of an outline are the public inline modules of its tree. -/
theorem inlineCount_outline (body : Node) :
    inlineCount body.outline = (Node.inlineModules body.namedChildren).length := by
  rw [Node.outline_eq]
  exact inlineCount_entriesAfter _ _ (fun n member => (List.mem_filter.mp member).2)

end CrateSurface
