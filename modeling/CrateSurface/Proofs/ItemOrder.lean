import CrateSurface.Proofs.AlikeBodies
import CrateSurface.Proofs.RecordFilling
import CrateSurface.Proofs.WalkUnfolding

namespace CrateSurface

namespace Module

/-- Records put together list by list. -/
def concat (file : String) (parts : List String) (records : List (Module String)) :
    Module String where
  file
  parts
  consts := records.flatMap (·.consts)
  enums := records.flatMap (·.enums)
  structs := records.flatMap (·.structs)
  traits := records.flatMap (·.traits)
  functions := records.flatMap (·.functions)
  pendingMethods := records.flatMap (·.pendingMethods)
  issues := records.flatMap (·.issues)

/-- The number of entries in all lists but that of the issues. -/
def itemCount (m : Module String) : Nat :=
  m.consts.length + m.enums.length + m.structs.length + m.traits.length + m.functions.length +
    m.pendingMethods.length

variable (m : Module String) (file : String) (parts : List String)

theorem append_blank : m.append (blank file parts) = m := by
  simp [append, blank]

theorem append_concat_nil : m.append (concat file parts []) = m := by
  simp [append, concat]

theorem append_concat_cons (record : Module String) (records : List (Module String)) :
    m.append (concat file parts (record :: records)) =
      (m.append record).append (concat file parts records) := by
  simp [append, concat]

theorem blank_append_concat (records : List (Module String)) :
    (blank file parts).append (concat file parts records) = concat file parts records := by
  simp [append, concat, blank]

end Module

/-- What an item adds to the record of its module, given its earlier siblings, nearest first. -/
def addition (file : String) (earlier : List Node) (item : Node) : Module String :=
  (Contribution.ofItem earlier item).record file

/-- What the items of a body add, each on its own. -/
def additions (file : String) (earlier : List Node) : List Node → List (Module String)
  | [] => []
  | item :: rest => addition file earlier item :: additions file (item :: earlier) rest

section Additions

variable (file : String) (parts : List String)

/-- The record of a contribution has its declaration in the list of its kind. -/
theorem Contribution.record_eq (c : Contribution) :
    c.record file =
      ⟨file, [], (c.value.bind (·.const?)).toList, (c.value.bind (·.enum?)).toList,
        (c.value.bind (·.struct?)).toList, (c.value.bind (·.trait?)).toList,
        (c.value.bind (·.function?)).toList, (c.value.bind (·.methods?)).toList,
        c.findings.map (Finding.issue file)⟩ := by
  obtain ⟨value, findings, remarks⟩ := c
  rcases value with _ | d
  · simp [record, Module.ofBody, contributions]
  · cases d <;>
      simp [record, Module.ofBody, contributions, Declaration.const?, Declaration.enum?,
        Declaration.struct?, Declaration.trait?, Declaration.function?, Declaration.methods?]

theorem itemCount_record_le_one (c : Contribution) : (c.record file).itemCount ≤ 1 := by
  rw [c.record_eq]
  rcases c.value with _ | d
  · exact Nat.zero_le 1
  · cases d <;> exact Nat.le_refl 1

theorem file_of_mem_issues {body : List Entry} {issue : Issue String}
    (member : issue ∈ (Module.ofBody file parts body).issues) : issue.file = file := by
  obtain ⟨finding, _, rfl⟩ := List.mem_map.mp member
  rfl

/-- Items without a handler add nothing, public or not. -/
theorem addition_other (earlier : List Node) {item : Node}
    (other : item.kind ∈ ["mod_item", "attribute_item", "inner_attribute_item", "line_comment",
      "block_comment"]) :
    addition file earlier item = Module.blank file [] := by
  have silent : (Contribution.ofItem earlier item).value = none ∧
      (Contribution.ofItem earlier item).findings = [] := by
    simp only [List.mem_cons, List.not_mem_nil, or_false] at other
    rcases other with kind | kind | kind | kind | kind <;>
      cases shown : item.isPublic <;>
        simp [Contribution.ofItem, Contribution.ofPublicItem, Contribution.nothing, kind, shown]
  rw [addition, Contribution.record_eq, silent.1, silent.2]
  rfl

theorem addition_attached (earlier : List Node) {item : Node}
    (attached : (item.isAttribute || item.isComment) = true) :
    addition file earlier item = Module.blank file [] := by
  refine addition_other file earlier ?_
  simp only [Node.isAttribute, Node.isComment, Bool.or_eq_true, beq_iff_eq] at attached
  simp only [List.mem_cons]
  tauto

/-- The record of a body is that of its parts, one behind the other. -/
theorem Module.ofBody_append (xs ys : List Entry) :
    ofBody file parts (xs ++ ys) = (ofBody file parts xs).append (ofBody file parts ys) := by
  simp [ofBody, append, contributions]

theorem Module.ofBody_item (c : Contribution) :
    ofBody file parts [.item c] = (blank file parts).append (c.record file) := by
  simp [ofBody, append, blank, Contribution.record]

/-- Modules have entries of their own and stay out of the record around them. -/
theorem ofBody_entry (earlier : List Node) (item : Node) (rest : List Entry) :
    Module.ofBody file parts ((item.entry? earlier).toList ++ rest) =
      ((Module.blank file parts).append (addition file earlier item)).append
        (Module.ofBody file parts rest) := by
  by_cases kind : item.kind = "mod_item"
  · have skipped : contributions ((item.entry? earlier).toList ++ rest) = contributions rest := by
      rw [Node.entry?_eq, if_pos (beq_iff_eq.mpr kind)]
      split
      · split <;> rfl
      · rfl
    rw [addition_other file earlier (by simp [kind])]
    simp [Module.ofBody, skipped, Module.append, Module.blank]
  · rw [Node.entry?_eq, if_neg (by simpa using kind), Option.toList_some, Module.ofBody_append,
      Module.ofBody_item]
    rfl

/-- The record of a body is what its items add, one after the other. -/
theorem ofBody_entriesAfter (items : List Node) : ∀ earlier, (∀ n ∈ items, n.named = true) →
    Module.ofBody file parts (Node.entriesAfter earlier items) =
      Module.concat file parts (additions file earlier items) := by
  induction items with
  | nil => intro earlier _; rfl
  | cons n rest ih =>
    intro earlier named
    rw [Node.entriesAfter, if_pos (named n (List.mem_cons_self ..)), ofBody_entry,
      ih (n :: earlier) fun m member => named m (List.mem_cons_of_mem n member), additions,
      ← Module.append_concat_cons, Module.blank_append_concat]

/-- The record of a body is made of what its items add. -/
theorem ofBody_outline (body : Node) :
    Module.ofBody file parts body.outline =
      Module.concat file parts (additions file [] body.namedChildren) := by
  rw [Node.outline_eq]
  exact ofBody_entriesAfter file parts _ _ fun n member => (List.mem_filter.mp member).2

/-- Going through the items appends what each of them adds. -/
theorem classifyAll_run (items : List Node) : ∀ (earlier : List Node) (m : Module String),
    (Filling.classifyAll earlier items).run m =
      ((), m.append (Module.concat m.file m.parts (additions m.file earlier items))) := by
  induction items with
  | nil =>
    intro earlier m
    rw [additions, m.append_concat_nil]
    rfl
  | cons n rest ih =>
    intro earlier m
    rw [additions, Module.append_concat_cons, Filling.classifyAll]
    by_cases kind : n.kind = "mod_item"
    · rw [addition_other m.file earlier (by simp [kind]), Module.append_blank,
        if_pos (beq_iff_eq.mpr kind)]
      exact ih (n :: earlier) m
    · rw [if_neg (by simpa using kind), StateT.run_bind, (classify_adds earlier n).run m]
      exact ih (n :: earlier) (m.append (addition m.file earlier n))

end Additions

/-- The lists of a record that hold declarations. -/
inductive ItemList where
  | consts
  | enums
  | structs
  | traits
  | functions
  | pendingMethods
deriving DecidableEq

/-- The list that a declaration goes to. -/
def Declaration.list : Declaration → ItemList
  | .const _ => .consts
  | .enum _ => .enums
  | .struct _ => .structs
  | .trait _ => .traits
  | .function _ => .functions
  | .methods _ => .pendingMethods

/-- An item with the attributes and comments directly before it, nearest first. -/
structure ItemGroup where
  attached : List Node
  item : Node

namespace ItemGroup

/-- What a group contributes. -/
def contribution (g : ItemGroup) : Contribution :=
  Contribution.ofItem g.attached g.item

/-- Whether the item contributes to a list. -/
def goesTo (list : ItemList) (g : ItemGroup) : Bool :=
  g.contribution.value.any fun d => d.list == list

/-- The items of a body with what is attached to them, given what stands before the first. -/
def inBody (attached : List Node) : List Node → List ItemGroup
  | [] => []
  | n :: rest =>
    if n.isAttribute || n.isComment then inBody (n :: attached) rest
    else ⟨attached, n⟩ :: inBody [] rest

end ItemGroup

/-- Two arrangements of the same items, in which those that contribute to the same list stand in the
same order. Attributes and comments move along with the item they stand before. -/
structure Rearranged (groups others : List ItemGroup) : Prop where
  perm : groups.Perm others
  kept : ∀ list, groups.filter (·.goesTo list) = others.filter (·.goesTo list)

section Rearrangement

variable {file : String} {groups others : List ItemGroup} {β : Type}

/-- An item adds the same in its body and with what is attached to it alone. -/
theorem flatMap_additions {f : Module String → List β} (empty : f (Module.blank file []) = [])
    (items : List Node) : ∀ earlier attached,
    Node.attachedAttributes earlier = Node.attachedAttributes attached →
    (additions file earlier items).flatMap f =
      (ItemGroup.inBody attached items).flatMap fun g => f (g.contribution.record file) := by
  induction items with
  | nil => intro earlier attached _; rfl
  | cons n rest ih =>
    intro earlier attached same
    rw [additions, ItemGroup.inBody, List.flatMap_cons]
    split
    · rename_i skipped
      rw [addition_attached file earlier skipped, empty, List.nil_append]
      refine ih (n :: earlier) (n :: attached) ?_
      rw [Node.attachedAttributes_cons, Node.attachedAttributes_cons, same]
    · rename_i proper
      rw [List.flatMap_cons, addition, Node.ofItem_eq same n, ItemGroup.contribution]
      refine congrArg _ (ih (n :: earlier) [] ?_)
      rw [Node.attachedAttributes_cons, if_neg proper]
      rfl

variable {body other : Node}

/-- What is picked from the declarations of one list comes in the same order. -/
theorem Rearranged.flatMap_eq
    (rearranged : Rearranged (ItemGroup.inBody [] body.namedChildren)
      (ItemGroup.inBody [] other.namedChildren)) (file : String) (list : ItemList)
    (pick : Declaration → Option β) (f : Module String → List β)
    (own : ∀ d, d.list ≠ list → pick d = none)
    (picked : ∀ c : Contribution, f (c.record file) = (c.value.bind pick).toList) :
    (additions file [] body.namedChildren).flatMap f =
      (additions file [] other.namedChildren).flatMap f := by
  have ofGroups : ∀ items, (additions file [] items).flatMap f =
      ((ItemGroup.inBody [] items).filter (·.goesTo list)).flatMap fun g =>
        f (g.contribution.record file) := by
    intro items
    rw [flatMap_additions (picked .nothing) items [] [] rfl, ← flatMap_if]
    refine List.flatMap_congr fun g _ => ?_
    rw [picked, ItemGroup.goesTo]
    rcases g.contribution.value with _ | d
    · rfl
    · by_cases here : d.list = list
      · simp [here]
      · simp [here, own d here]
  rw [ofGroups, ofGroups, rearranged.kept list]

/-- Rearranged items have the same record but for the issues. -/
theorem Rearranged.ofBody_eq
    (rearranged : Rearranged (ItemGroup.inBody [] body.namedChildren)
      (ItemGroup.inBody [] other.namedChildren)) (file : String) (parts : List String) :
    { Module.ofBody file parts body.outline with issues := [] } =
      { Module.ofBody file parts other.outline with issues := [] } := by
  rw [ofBody_outline, ofBody_outline]
  unfold Module.concat
  rw [Module.mk.injEq]
  refine ⟨rfl, rfl,
    rearranged.flatMap_eq file .consts (·.const?) _ ?_ fun c => by rw [c.record_eq],
    rearranged.flatMap_eq file .enums (·.enum?) _ ?_ fun c => by rw [c.record_eq],
    rearranged.flatMap_eq file .structs (·.struct?) _ ?_ fun c => by rw [c.record_eq],
    rearranged.flatMap_eq file .traits (·.trait?) _ ?_ fun c => by rw [c.record_eq],
    rearranged.flatMap_eq file .functions (·.function?) _ ?_ fun c => by rw [c.record_eq],
    rearranged.flatMap_eq file .pendingMethods (·.methods?) _ ?_ fun c => by rw [c.record_eq],
    rfl⟩
  all_goals
    intro d elsewhere
    cases d <;> first | rfl | exact absurd rfl elsewhere

/-- Rearranged items have the same issues in another order. -/
theorem Rearranged.issues_perm
    (rearranged : Rearranged (ItemGroup.inBody [] body.namedChildren)
      (ItemGroup.inBody [] other.namedChildren)) (file : String) (parts : List String) :
    (Module.ofBody file parts body.outline).issues.Perm
      (Module.ofBody file parts other.outline).issues := by
  have ofGroups : ∀ items, (additions file [] items).flatMap (·.issues) =
      (ItemGroup.inBody [] items).flatMap fun g => (g.contribution.record file).issues :=
    fun items => flatMap_additions rfl items [] [] rfl
  rw [ofBody_outline, ofBody_outline, Module.concat, Module.concat, ofGroups, ofGroups]
  exact rearranged.perm.flatMap_right _

end Rearrangement

section Walk

variable {file : String} {parts : List String}

theorem entriesAfter_items (items : List Node) : ∀ earlier, (∀ n ∈ items, n.named = true) →
    (∀ n ∈ items, n.kind = "mod_item" → n.isPublic = false) →
    ∃ cs : List Contribution, Node.entriesAfter earlier items = cs.map .item := by
  induction items with
  | nil => intro earlier _ _; exact ⟨[], rfl⟩
  | cons n rest ih =>
    intro earlier named hidden
    obtain ⟨cs, entries⟩ := ih (n :: earlier) (fun m member => named m (List.mem_cons_of_mem n member))
      (fun m member => hidden m (List.mem_cons_of_mem n member))
    rw [Node.entriesAfter, if_pos (named n (List.mem_cons_self ..)), Node.entry?_eq, entries]
    by_cases kind : n.kind = "mod_item"
    · simp only [kind, hidden n (List.mem_cons_self ..) kind]
      exact ⟨cs, rfl⟩
    · rw [if_neg (by simpa using kind)]
      exact ⟨Contribution.ofItem earlier n :: cs, rfl⟩

/-- Contributions are visited without opening anything. -/
theorem visitEntries_items (file : String) (parts : List String) (view : FileView)
    (visitFile : String → List String → List String → Visit) (base : String)
    (cs : List Contribution) : ∀ seen, ∃ notes,
    visitEntries view visitFile file parts base (cs.map .item) seen = .remarking notes seen := by
  induction cs with
  | nil => intro seen; exact ⟨[], visitEntries_nil ..⟩
  | cons c cs ih =>
    intro seen
    obtain ⟨notes, visited⟩ := ih seen
    rw [List.map_cons, visitEntries_item, Visit.andThen_of_success rfl]
    dsimp only [Visit.remarking]
    rw [visited]
    exact ⟨_, rfl⟩

/-- Where no module is public, a walk through a body appends one record, made of what the items
add. -/
theorem walkBody_records (view : FileView) (allowFaults : Bool) (base : String) (seen : List String)
    {body : Node} (hidden : ∀ n ∈ body.namedChildren, n.kind = "mod_item" → n.isPublic = false) :
    (walkBody view allowFaults file parts base body.outline seen).failure = none ∧
      (walkBody view allowFaults file parts base body.outline seen).records =
        [Module.concat file parts (additions file [] body.namedChildren)] := by
  obtain ⟨cs, entries⟩ := entriesAfter_items body.namedChildren []
    (fun n member => (List.mem_filter.mp member).2) hidden
  obtain ⟨notes, visited⟩ := visitEntries_items file parts view
    (walk view allowFaults) base cs seen
  rw [← ofBody_outline, walkBody, visitBody, Node.outline_eq, entries, visited]
  exact ⟨rfl, rfl⟩

end Walk

/-- Classification is compositional. On whatever record it works, an item puts its own addition
behind it, which depends on the item, its earlier siblings and the file of the record alone, holds at
most one declaration and has its issues in that file. A body so becomes the additions of its items put
together list by list, and that is the record the walk brings; where items that contribute to
different lists change places, only the order of the issues changes. -/
theorem classification_compositional :
    (∀ earlier item m, (Filling.classify earlier item).run m =
      ((), m.append (addition m.file earlier item))) ∧
    (∀ file earlier item, (addition file earlier item).itemCount ≤ 1 ∧
      ∀ issue ∈ (addition file earlier item).issues, issue.file = file) ∧
    (∀ file parts (body : Node), (Filling.classifyAll [] body.namedChildren).run (.blank file parts) =
        ((), Module.ofBody file parts body.outline) ∧
      Module.ofBody file parts body.outline =
        Module.concat file parts (additions file [] body.namedChildren)) ∧
    (∀ view allowFaults file parts base seen (body : Node),
      (∀ n ∈ body.namedChildren, n.kind = "mod_item" → n.isPublic = false) →
      (walkBody view allowFaults file parts base body.outline seen).failure = none ∧
        (walkBody view allowFaults file parts base body.outline seen).records =
          [Module.concat file parts (additions file [] body.namedChildren)]) ∧
    ∀ file parts (body other : Node),
      Rearranged (ItemGroup.inBody [] body.namedChildren) (ItemGroup.inBody [] other.namedChildren) →
      { Module.ofBody file parts body.outline with issues := [] } =
          { Module.ofBody file parts other.outline with issues := [] } ∧
        (Module.ofBody file parts body.outline).issues.Perm
          (Module.ofBody file parts other.outline).issues := by
  refine ⟨?_, ?_, ?_, ?_, ?_⟩
  · intro earlier item m
    exact (classify_adds earlier item).run m
  · intro file earlier item
    exact ⟨itemCount_record_le_one file _, fun issue member => file_of_mem_issues file [] member⟩
  · intro file parts body
    have filled := classifyAll_run body.namedChildren [] (.blank file parts)
    have blank := Module.blank_append_concat file parts (additions file [] body.namedChildren)
    rw [ofBody_outline, filled]
    exact ⟨congrArg (Prod.mk ()) blank, rfl⟩
  · intro view allowFaults file parts base seen body hidden
    exact walkBody_records view allowFaults base seen hidden
  · intro file parts body other rearranged
    exact ⟨rearranged.ofBody_eq file parts, rearranged.issues_perm file parts⟩

namespace SwappedItems

/-- The public constant `LIMIT` of type `u8`. -/
def limitConst : Node :=
  .branch "const_item" none [.leaf "visibility_modifier" "pub", .nameLeaf "LIMIT",
    { Node.leaf "primitive_type" "u8" with field := some "type" }]

/-- The attribute that exports a macro. -/
def exportAttribute : Node :=
  .branch "attribute_item" none [.branch "attribute" none [.leaf "identifier" "macro_export"]]

/-- The definition of a macro `trace`. -/
def traceMacro : Node :=
  .branch "macro_definition" none [.nameLeaf "trace"]

/-- A constant, and a macro under its attribute. -/
def constFirst : Node :=
  .branch "source_file" none [limitConst, exportAttribute, traceMacro]

/-- The macro under its attribute, and the constant. -/
def macroFirst : Node :=
  .branch "source_file" none [exportAttribute, traceMacro, limitConst]

theorem rearranged : Rearranged (ItemGroup.inBody [] constFirst.namedChildren)
    (ItemGroup.inBody [] macroFirst.namedChildren) where
  perm := .swap ..
  kept list := by cases list <;> rfl

theorem withoutModules : ∀ n ∈ constFirst.namedChildren, n.kind = "mod_item" → n.isPublic = false := by
  intro n member kind
  have kinds : "mod_item" ∈ constFirst.namedChildren.map (·.kind) :=
    List.mem_map.mpr ⟨n, member, kind⟩
  exact absurd kinds (by decide)

end SwappedItems

section

open SwappedItems

/-- An exported macro that moves before a constant, with its attribute, stays in the same list. -/
theorem swapped_items_keep_lists :
    (∀ n ∈ constFirst.namedChildren, n.kind = "mod_item" → n.isPublic = false) ∧
      (walkBody (FileTree.view ⟨[], []⟩ fun _ => constFirst) false "lib.rs" [] "" constFirst.outline
        []).records =
        [⟨"lib.rs", [], [⟨"LIMIT", "u8"⟩], [], [], [], [macroStub "trace"], [], []⟩] ∧
      Rearranged (ItemGroup.inBody [] constFirst.namedChildren)
        (ItemGroup.inBody [] macroFirst.namedChildren) ∧
      { Module.ofBody "lib.rs" [] constFirst.outline with issues := [] } =
        { Module.ofBody "lib.rs" [] macroFirst.outline with issues := [] } := by
  obtain ⟨_, _, _, walked, moved⟩ := classification_compositional
  refine ⟨withoutModules, ?_, rearranged, (moved "lib.rs" [] constFirst macroFirst rearranged).1⟩
  rw [(walked (FileTree.view ⟨[], []⟩ fun _ => constFirst) false "lib.rs" [] "" [] constFirst
    withoutModules).2]
  decide +kernel

end

end CrateSurface
