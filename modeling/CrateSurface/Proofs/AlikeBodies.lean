import CrateSurface.Proofs.ModuleTree
import Mathlib.Data.List.Forall2

namespace CrateSurface

section Lists

variable {α β : Type} {S : α → α → Prop} {xs ys : List α}

theorem map_eq_of_forall₂ {f : α → β} (pairs : List.Forall₂ S xs ys)
    (same : ∀ x y, S x y → f x = f y) : xs.map f = ys.map f := by
  induction pairs with
  | nil => rfl
  | cons pair _ ih => rw [List.map_cons, List.map_cons, same _ _ pair, ih]

theorem filter_map_eq_of_forall₂ {p : α → Bool} {f : α → β} (pairs : List.Forall₂ S xs ys)
    (same : ∀ x y, S x y → p x = p y ∧ (p x = true → f x = f y)) :
    (xs.filter p).map f = (ys.filter p).map f := by
  induction pairs with
  | nil => rfl
  | @cons x y xs ys pair _ ih =>
    obtain ⟨both, image⟩ := same x y pair
    rw [List.filter_cons, List.filter_cons, ← both]
    cases kept : p x with
    | false => simpa using ih
    | true =>
      simp only [if_true, List.map_cons]
      rw [image kept, ih]

end Lists

namespace Node

/-- Two nodes of one kind whose children are the same but for one, which plays the same role and is
of the same kind in both. `R` relates its two forms; the texts of the nodes themselves are free. -/
inductive Revised (role : Option String) (R : Node → Node → Prop) (n m : Node) : Prop
  | intro (before after : List Node) (x y : Node) : n.kind = m.kind →
      n.children = before ++ x :: after → m.children = before ++ y :: after →
      x.field = role → y.field = role → x.kind = y.kind → R x y → Revised role R n m

namespace Revised

variable {role : Option String} {R : Node → Node → Prop} {n m : Node}

theorem kind_eq (revised : Revised role R n m) : n.kind = m.kind := by
  obtain ⟨_, _, _, _, kind, _⟩ := revised
  exact kind

/-- A search that looks at roles and kinds finds the same child in both, or the two forms of the
child that differs. -/
theorem find? (revised : Revised role R n m) {p : Node → Bool}
    (blind : ∀ x y : Node, x.field = y.field → x.kind = y.kind → p x = p y) :
    n.children.find? p = m.children.find? p ∨
      ∃ x y, n.children.find? p = some x ∧ m.children.find? p = some y ∧ p x = true ∧
        x.field = role ∧ x.kind = y.kind ∧ R x y := by
  obtain ⟨before, after, x, y, _, left, right, atX, atY, kind, related⟩ := revised
  rw [left, right, List.find?_append, List.find?_append]
  cases before.find? p with
  | some found => exact Or.inl rfl
  | none =>
    have both := blind x y (atX.trans atY.symm) kind
    cases here : p x with
    | false =>
      rw [here] at both
      left
      rw [List.find?_cons, List.find?_cons, here, ← both]
    | true =>
      rw [here] at both
      refine Or.inr ⟨x, y, ?_, ?_, here, atX, kind, related⟩
      · rw [List.find?_cons, here]
        rfl
      · rw [List.find?_cons, ← both]
        rfl

/-- A field of a revised node is the same, or the one that was revised. -/
theorem childByField? (revised : Revised role R n m) (key : String) :
    n.childByField? key = m.childByField? key ∨
      ∃ x y, n.childByField? key = some x ∧ m.childByField? key = some y ∧ x.field = some key ∧
        role = some key ∧ R x y := by
  rcases revised.find? (p := fun child => child.field == some key)
    (by intro x y field _; rw [field]) with same | ⟨x, y, left, right, here, field, _, related⟩
  · exact Or.inl same
  · have own := beq_iff_eq.mp here
    exact Or.inr ⟨x, y, left, right, own, field ▸ own, related⟩

theorem childByField?_eq (revised : Revised role R n m) (key : String) (other : role ≠ some key) :
    n.childByField? key = m.childByField? key := by
  rcases revised.childByField? key with same | ⟨_, _, _, _, _, role, _⟩
  · exact same
  · exact absurd role other

theorem childOfKind? (revised : Revised role R n m) (kind : String) :
    n.childOfKind? kind = m.childOfKind? kind ∨
      ∃ x y, n.childOfKind? kind = some x ∧ m.childOfKind? kind = some y ∧ x.kind = kind ∧ R x y := by
  rcases revised.find? (p := fun child => child.kind == kind)
    (by intro x y _ same; rw [same]) with same | ⟨x, y, left, right, here, _, _, related⟩
  · exact Or.inl same
  · exact Or.inr ⟨x, y, left, right, beq_iff_eq.mp here, related⟩

theorem nameText_eq (revised : Revised role R n m) (other : role ≠ some "name") :
    n.nameText = m.nameText := by
  rw [nameText, nameText, revised.childByField?_eq _ other]

/-- The type parameters are the same unless they were revised. -/
theorem typeParams_eq (revised : Revised role R n m) (other : role ≠ some "type_parameters")
    (owner : Owner) (name : String) : typeParams owner name n = typeParams owner name m := by
  rw [typeParams, typeParams, revised.childByField?_eq _ other]

/-- The signature of a function does not read its body. -/
theorem signature_eq (revised : Revised (some "body") R n m) : n.signature = m.signature := by
  rw [signature, signature, revised.nameText_eq (by decide), revised.typeParams_eq (by decide),
    revised.childByField?_eq "parameters" (by decide),
    revised.childByField?_eq "return_type" (by decide)]

theorem slot_eq (revised : Revised (some "value") R n m) : n.slot = m.slot := by
  rw [slot, slot, revised.nameText_eq (by decide), revised.childByField?_eq "type" (by decide)]

theorem members {S : Node → Node → Prop} (reflexive : ∀ x, S x x)
    (revised : Revised (some "body") (fun x y => List.Forall₂ S x.namedChildren y.namedChildren) n m) :
    List.Forall₂ S n.members m.members := by
  have equal : ∀ xs : List Node, List.Forall₂ S xs xs :=
    fun xs => List.forall₂_same.mpr fun x _ => reflexive x
  unfold Node.members
  rcases revised.childByField? "body" with same | ⟨x, y, left, right, _, _, pairs⟩
  · rw [same]
    exact equal _
  · rw [left, right]
    exact pairs

end Revised

section Parts

/-- A named field that its struct does not show. -/
def IsHiddenField (n : Node) : Prop :=
  n.kind = "field_declaration" ∧ n.isPublic = false

/-- A member of an inherent block that is no public method. -/
def IsHiddenMember (n : Node) : Prop :=
  n.kind ≠ "function_item" ∨ n.isPublic = false

/-- A function with another body. -/
def Rebodied (n m : Node) : Prop :=
  n.kind = "function_item" ∧ Revised (some "body") (fun _ _ => True) n m

/-- The same field, or two hidden ones. -/
def FieldsAlike (x y : Node) : Prop :=
  x = y ∨ (x.IsHiddenField ∧ y.IsHiddenField)

/-- The same member of a trait, or a method with another body. -/
def TraitMembersAlike (x y : Node) : Prop :=
  x = y ∨ Rebodied x y

/-- The same member of an inherent block, two hidden ones, or a method with another body. -/
def MethodsAlike (x y : Node) : Prop :=
  x = y ∨ (x.IsHiddenMember ∧ y.IsHiddenMember) ∨ (Rebodied x y ∧ x.isPublic = y.isPublic)

/-- Lists of named fields that differ in hidden ones. A list that names its struct has one text. -/
structure FieldListsAlike (x y : Node) : Prop where
  kind : x.kind = "field_declaration_list"
  text : x.field = some "name" → x.text = y.text
  fields : List.Forall₂ FieldsAlike x.namedChildren y.namedChildren

variable {role : Option String} {n m : Node}

/-- Hidden fields are not recorded. -/
theorem publicFields_eq {x y : Node}
    (pairs : List.Forall₂ FieldsAlike x.namedChildren y.namedChildren) :
    x.publicFields = y.publicFields := by
  refine filter_map_eq_of_forall₂ pairs ?_
  rintro x y (rfl | ⟨⟨_, left⟩, _, right⟩)
  · exact ⟨rfl, fun _ => rfl⟩
  · rw [left, right, Bool.and_false, Bool.and_false]
    exact ⟨rfl, fun absurd => by cases absurd⟩

theorem nameText_eq_of_fieldLists (revised : Revised role FieldListsAlike n m) :
    n.nameText = m.nameText := by
  unfold nameText
  rcases revised.childByField? "name" with same | ⟨x, y, left, right, field, _, alike⟩
  · rw [same]
  · rw [left, right, Option.map_some, Option.map_some, textOrEmpty, textOrEmpty, alike.text field]

/-- No field is a generic parameter. -/
theorem typeParams_eq_of_fieldLists (revised : Revised role FieldListsAlike n m) (owner : Owner)
    (name : String) : typeParams owner name n = typeParams owner name m := by
  have entries : GenericParam.ofList owner name (n.childByField? "type_parameters") =
      GenericParam.ofList owner name (m.childByField? "type_parameters") := by
    rcases revised.childByField? "type_parameters" with same | ⟨x, y, left, right, _, _, alike⟩
    · rw [same]
    · rw [left, right]
      refine map_eq_of_forall₂ alike.fields ?_
      rintro x y (rfl | ⟨⟨left, _⟩, right, _⟩)
      · rfl
      · simp [GenericParam.ofNode, isLifetimeParam, typeParamName?, left, right]
  rw [typeParams, typeParams, entries]

/-- The record of a struct does not read its hidden fields. -/
theorem structRecord_eq (revised : Revised role FieldListsAlike n m) :
    n.structRecord = m.structRecord := by
  have tuple : n.childOfKind? "ordered_field_declaration_list" =
      m.childOfKind? "ordered_field_declaration_list" := by
    rcases revised.childOfKind? "ordered_field_declaration_list" with
      same | ⟨x, y, _, _, kind, alike⟩
    · exact same
    · have list := alike.kind
      rw [kind] at list
      exact absurd list (by decide)
  unfold structRecord
  rw [nameText_eq_of_fieldLists revised, typeParams_eq_of_fieldLists revised, tuple]
  rcases revised.childOfKind? "field_declaration_list" with same | ⟨x, y, left, right, _, alike⟩
  · rw [same]
  · rw [left, right]
    simp only [publicFields_eq alike.fields]

theorem traitMember_eq {x y : Node} (alike : TraitMembersAlike x y) :
    TraitMember.ofNode x = TraitMember.ofNode y := by
  rcases alike with rfl | ⟨kind, revised⟩
  · rfl
  · have other : y.kind = "function_item" := revised.kind_eq ▸ kind
    simp [TraitMember.ofNode, isAttribute, isComment, kind, other, revised.signature_eq]

/-- The record of a trait does not read the bodies of its methods. -/
theorem traitRecord_eq
    (revised : Revised (some "body")
      (fun x y => List.Forall₂ TraitMembersAlike x.namedChildren y.namedChildren) n m) :
    n.traitRecord = m.traitRecord := by
  have pairs := revised.members fun x => Or.inl rfl
  have members := map_eq_of_forall₂ pairs fun x y => traitMember_eq
  unfold traitRecord
  rw [revised.nameText_eq (by decide), revised.typeParams_eq (by decide),
    revised.childByField?_eq "bounds" (by decide), members]

/-- The methods of an inherent block do not hang on its hidden members. -/
theorem methodGroup?_eq
    (revised : Revised (some "body")
      (fun x y => List.Forall₂ MethodsAlike x.namedChildren y.namedChildren) n m) :
    n.methodGroup? = m.methodGroup? := by
  have pairs := revised.members fun x => Or.inl rfl
  have methods : (n.members.filter fun member =>
        member.kind == "function_item" && member.isPublic).map signature =
      (m.members.filter fun member =>
        member.kind == "function_item" && member.isPublic).map signature := by
    refine filter_map_eq_of_forall₂ pairs ?_
    have hidden : ∀ x : Node, x.IsHiddenMember →
        (x.kind == "function_item" && x.isPublic) = false := by
      rintro x (other | closed)
      · rw [beq_eq_false_iff_ne.mpr other, Bool.false_and]
      · rw [closed, Bool.and_false]
    rintro x y (rfl | ⟨left, right⟩ | ⟨⟨_, revised⟩, isPublic⟩)
    · exact ⟨rfl, fun _ => rfl⟩
    · rw [hidden x left, hidden y right]
      exact ⟨rfl, fun absurd => by cases absurd⟩
    · rw [revised.kind_eq, isPublic]
      exact ⟨rfl, fun _ => revised.signature_eq⟩
  unfold methodGroup?
  rw [revised.childByField?_eq "trait" (by decide), revised.childByField?_eq "type" (by decide),
    methods]

end Parts

/-- An item that a module does not show: it has no bare `pub`, and it is of none of the kinds that
count without one. -/
structure IsHidden (n : Node) : Prop where
  isPrivate : n.isPublic = false
  kind : n.kind ∉ ["impl_item", "macro_definition", "macro_invocation", "expression_statement",
    "attribute_item", "inner_attribute_item", "line_comment", "block_comment"]

/-- Two items that differ in hidden content at most; modules with bodies apart. -/
inductive ItemsAlike : Node → Node → Prop
  | same (n : Node) : ItemsAlike n n
  | hidden {n m : Node} : n.IsHidden → m.IsHidden → ItemsAlike n m
  | function {n m : Node} : Rebodied n m → n.isPublic = m.isPublic → ItemsAlike n m
  | const {n m : Node} : n.kind = "const_item" → Revised (some "value") (fun _ _ => True) n m →
      n.isPublic = m.isPublic → ItemsAlike n m
  | struct {n m : Node} {role : Option String} : n.kind = "struct_item" →
      Revised role FieldListsAlike n m → ItemsAlike n m
  | trait {n m : Node} : n.kind = "trait_item" →
      Revised (some "body")
        (fun x y => List.Forall₂ TraitMembersAlike x.namedChildren y.namedChildren) n m →
      n.isPublic = m.isPublic → ItemsAlike n m
  | inherentImpl {n m : Node} : n.kind = "impl_item" →
      Revised (some "body")
        (fun x y => List.Forall₂ MethodsAlike x.namedChildren y.namedChildren) n m →
      ItemsAlike n m
  | traitImpl {n m : Node} : n.kind = "impl_item" → m.kind = "impl_item" →
      (n.childByField? "trait").isSome = true → (m.childByField? "trait").isSome = true →
      ItemsAlike n m

/-- Two lists of items that differ in hidden content at most, also inside inline modules. -/
inductive BodiesAlike : List Node → List Node → Prop
  | nil : BodiesAlike [] []
  | item {n m : Node} {ns ms : List Node} : ItemsAlike n m → BodiesAlike ns ms →
      BodiesAlike (n :: ns) (m :: ms)
  | inlineModule {n m b c : Node} {ns ms : List Node} : n.kind = "mod_item" →
      Revised (some "body") (fun x y => x = b ∧ y = c) n m → n.isPublic = m.isPublic →
      BodiesAlike b.namedChildren c.namedChildren → BodiesAlike ns ms →
      BodiesAlike (n :: ns) (m :: ms)

end Node

/-- Two outlines that differ in items without any contribution at most. -/
inductive Matches : List Entry → List Entry → Prop
  | nil : Matches [] []
  | left {xs ys : List Entry} : Matches xs ys → Matches (.item .nothing :: xs) ys
  | right {xs ys : List Entry} : Matches xs ys → Matches xs (.item .nothing :: ys)
  | item {xs ys : List Entry} (contribution : Contribution) : Matches xs ys →
      Matches (.item contribution :: xs) (.item contribution :: ys)
  | inlineModule {xs ys body other : List Entry} (name : String) : Matches body other →
      Matches xs ys → Matches (.inlineModule name body :: xs) (.inlineModule name other :: ys)
  | fileModule {xs ys : List Entry} (name : String) : Matches xs ys →
      Matches (.fileModule name :: xs) (.fileModule name :: ys)

namespace Matches

theorem refl (body : List Entry) : Matches body body := by
  induction body using Entry.bodyInduction with
  | nil => exact .nil
  | item contribution rest ih => exact .item contribution ih
  | inlineModule name body rest inner ih => exact .inlineModule name inner ih
  | fileModule name rest ih => exact .fileModule name ih

theorem append_same {xs ys : List Entry} (matched : Matches xs ys) (entry : Option Entry) :
    Matches (entry.toList ++ xs) (entry.toList ++ ys) := by
  cases entry with
  | none => exact matched
  | some entry =>
    cases entry with
    | item contribution => exact .item contribution matched
    | inlineModule name body => exact .inlineModule name (refl body) matched
    | fileModule name => exact .fileModule name matched

/-- The entry of an item that adds nothing, if it has one at all. -/
def Silent (entry : Option Entry) : Prop :=
  entry = none ∨ entry = some (.item .nothing)

theorem append_silent {xs ys : List Entry} (matched : Matches xs ys) {entry other : Option Entry}
    (silent : Silent entry) (silent' : Silent other) :
    Matches (entry.toList ++ xs) (other.toList ++ ys) := by
  rcases silent with rfl | rfl
  · rcases silent' with rfl | rfl
    · exact matched
    · exact .right matched
  · rcases silent' with rfl | rfl
    · exact .left matched
    · exact .left (.right matched)

/-- Bodies that match declare and report the same. -/
theorem contributions_eq {xs ys : List Entry} (matched : Matches xs ys) :
    (contributions xs).filterMap (·.value) = (contributions ys).filterMap (·.value) ∧
      (contributions xs).flatMap (·.findings) = (contributions ys).flatMap (·.findings) := by
  induction matched with
  | nil => exact ⟨rfl, rfl⟩
  | left _ ih => exact ih
  | right _ ih => exact ih
  | item contribution _ ih =>
    obtain ⟨values, findings⟩ := ih
    simp only [contributions, List.filterMap_cons, List.flatMap_cons] at values findings ⊢
    rw [values, findings]
    exact ⟨rfl, rfl⟩
  | inlineModule name _ _ _ ih => exact ih
  | fileModule name _ ih => exact ih

/-- Matching outlines have the same record. -/
theorem ofBody_eq {xs ys : List Entry} (matched : Matches xs ys) (file : String)
    (parts : List String) : Module.ofBody file parts xs = Module.ofBody file parts ys := by
  obtain ⟨values, findings⟩ := matched.contributions_eq
  unfold Module.ofBody
  simp only [values, findings]

end Matches

namespace Node

variable {n m : Node} {earlier earlier' : List Node}

/-- Neither an attribute nor a comment. -/
def IsProper (n : Node) : Prop :=
  (n.isAttribute || n.isComment) = false

theorem isProper_of_kind {kind : String} (own : n.kind = kind)
    (proper : kind ∉ ["attribute_item", "inner_attribute_item", "line_comment", "block_comment"]) :
    n.IsProper := by
  simp only [List.mem_cons, List.not_mem_nil, or_false, not_or] at proper
  obtain ⟨outer, inner, line, block⟩ := proper
  subst own
  simp only [IsProper, isAttribute, isComment, beq_eq_false_iff_ne.mpr outer,
    beq_eq_false_iff_ne.mpr inner, beq_eq_false_iff_ne.mpr line, beq_eq_false_iff_ne.mpr block,
    Bool.or_self]

theorem IsHidden.isProper (hidden : n.IsHidden) : n.IsProper := by
  refine isProper_of_kind rfl ?_
  intro member
  refine hidden.kind ?_
  simp only [List.mem_cons] at member ⊢
  tauto

/-- Any proper item parts the attributes before it from what comes after. -/
theorem attachedAttributes_proper (left : n.IsProper) (right : m.IsProper) :
    attachedAttributes (n :: earlier) = attachedAttributes (m :: earlier') := by
  unfold IsProper at left right
  rw [attachedAttributes_cons, attachedAttributes_cons, left, right]
  rfl

theorem ItemsAlike.eq_or_isProper (alike : ItemsAlike n m) : n = m ∨ (n.IsProper ∧ m.IsProper) := by
  have ofKind {kind : String} (own : n.kind = kind) (same : n.kind = m.kind)
      (proper : kind ∉ ["attribute_item", "inner_attribute_item", "line_comment", "block_comment"]) :
      n.IsProper ∧ m.IsProper :=
    ⟨isProper_of_kind own proper, isProper_of_kind (same ▸ own) proper⟩
  cases alike with
  | same => exact Or.inl rfl
  | hidden left right => exact Or.inr ⟨left.isProper, right.isProper⟩
  | function rebodied _ => exact Or.inr (ofKind rebodied.1 rebodied.2.kind_eq (by decide))
  | const kind revised _ => exact Or.inr (ofKind kind revised.kind_eq (by decide))
  | struct kind revised => exact Or.inr (ofKind kind revised.kind_eq (by decide))
  | trait kind revised _ => exact Or.inr (ofKind kind revised.kind_eq (by decide))
  | inherentImpl kind revised => exact Or.inr (ofKind kind revised.kind_eq (by decide))
  | traitImpl kind other _ _ => exact Or.inr (ofKind kind (kind.trans other.symm) (by decide))

theorem ItemsAlike.attachedAttributes_eq (alike : ItemsAlike n m)
    (same : attachedAttributes earlier = attachedAttributes earlier') :
    attachedAttributes (n :: earlier) = attachedAttributes (m :: earlier') := by
  rcases alike.eq_or_isProper with rfl | ⟨left, right⟩
  · rw [attachedAttributes_cons, attachedAttributes_cons, same]
  · exact attachedAttributes_proper left right

theorem IsHidden.silent (hidden : n.IsHidden) (earlier : List Node) :
    Matches.Silent (n.entry? earlier) := by
  obtain ⟨isPrivate, kind⟩ := hidden
  simp only [List.mem_cons, List.not_mem_nil, or_false, not_or] at kind
  rw [entry?_eq]
  split
  · left
    rw [isPrivate]
    rfl
  · right
    simp [Contribution.ofItem, kind, isPrivate]

/-- The contribution of an item that is neither a macro nor a statement nor a block. -/
theorem entry?_declaration {kind : String} (own : n.kind = kind)
    (declared : kind ∈ ["function_item", "const_item", "struct_item", "trait_item"]) :
    n.entry? earlier =
      some (.item (if n.isPublic then Contribution.ofPublicItem n else .nothing)) := by
  simp only [List.mem_cons, List.not_mem_nil, or_false] at declared
  rw [entry?_eq]
  rcases declared with rfl | rfl | rfl | rfl <;> simp [Contribution.ofItem, own]

theorem entry?_impl (own : n.kind = "impl_item") :
    n.entry? earlier = some (.item (n.methodGroup?.map (Option.map .methods))) := by
  rw [entry?_eq]
  simp [Contribution.ofItem, own]

theorem isPublic_eq_of_fieldLists {role : Option String} (revised : Revised role FieldListsAlike n m) :
    n.isPublic = m.isPublic := by
  have marker : n.childOfKind? "visibility_modifier" = m.childOfKind? "visibility_modifier" := by
    rcases revised.childOfKind? "visibility_modifier" with same | ⟨x, y, _, _, kind, alike⟩
    · exact same
    · have list := alike.kind
      rw [kind] at list
      exact absurd list (by decide)
  rw [isPublic, isPublic, marker]

theorem ofItem_eq (same : attachedAttributes earlier = attachedAttributes earlier') (n : Node) :
    Contribution.ofItem earlier n = Contribution.ofItem earlier' n := by
  have exported : isExported earlier = isExported earlier' := by
    rw [isExported, isExported, same]
  unfold Contribution.ofItem
  rw [exported]

/-- Alike items have the same entry, or none of their entries adds anything. -/
theorem ItemsAlike.entries (alike : ItemsAlike n m)
    (same : attachedAttributes earlier = attachedAttributes earlier') :
    n.entry? earlier = m.entry? earlier' ∨
      (Matches.Silent (n.entry? earlier) ∧ Matches.Silent (m.entry? earlier')) := by
  cases alike with
  | same =>
    left
    rw [entry?_eq, entry?_eq, ofItem_eq same]
  | hidden left right => exact Or.inr ⟨left.silent _, right.silent _⟩
  | function rebodied isPublic =>
    obtain ⟨kind, revised⟩ := rebodied
    have other : m.kind = "function_item" := revised.kind_eq ▸ kind
    left
    rw [entry?_declaration kind (by decide), entry?_declaration other (by decide), isPublic]
    simp [Contribution.ofPublicItem, kind, other, revised.signature_eq]
  | const kind revised isPublic =>
    have other : m.kind = "const_item" := revised.kind_eq ▸ kind
    left
    rw [entry?_declaration kind (by decide), entry?_declaration other (by decide), isPublic]
    simp [Contribution.ofPublicItem, kind, other, revised.slot_eq]
  | struct kind revised =>
    have other : m.kind = "struct_item" := revised.kind_eq ▸ kind
    left
    rw [entry?_declaration kind (by decide), entry?_declaration other (by decide),
      isPublic_eq_of_fieldLists revised]
    simp [Contribution.ofPublicItem, kind, other, structRecord_eq revised]
  | trait kind revised isPublic =>
    have other : m.kind = "trait_item" := revised.kind_eq ▸ kind
    left
    rw [entry?_declaration kind (by decide), entry?_declaration other (by decide), isPublic]
    simp [Contribution.ofPublicItem, kind, other, traitRecord_eq revised]
  | inherentImpl kind revised =>
    left
    rw [entry?_impl kind, entry?_impl (revised.kind_eq ▸ kind), methodGroup?_eq revised]
  | traitImpl kind other left right =>
    left
    rw [entry?_impl kind, entry?_impl other, methodGroup?, methodGroup?, if_pos left, if_pos right]

/-- Public modules whose bodies match have matching entries; private ones have none. -/
theorem entry?_inlineModule {b c : Node} (kind : n.kind = "mod_item")
    (revised : Revised (some "body") (fun x y => x = b ∧ y = c) n m) (isPublic : n.isPublic = m.isPublic)
    (inner : Matches b.outline c.outline) {xs ys : List Entry} (matched : Matches xs ys) :
    Matches ((n.entry? earlier).toList ++ xs) ((m.entry? earlier').toList ++ ys) := by
  have other : m.kind = "mod_item" := revised.kind_eq ▸ kind
  rw [entry?_eq, entry?_eq, if_pos (beq_iff_eq.mpr kind), if_pos (beq_iff_eq.mpr other), isPublic,
    revised.nameText_eq (by decide)]
  split
  · rcases revised.childByField? "body" with same | ⟨x, y, left, right, _, _, rfl, rfl⟩
    · rw [same]
      exact matched.append_same _
    · rw [left, right]
      exact .inlineModule _ inner matched
  · exact matched

/-- Bodies that are alike have outlines that match. -/
theorem BodiesAlike.entriesAfter {items others : List Node} (alike : BodiesAlike items others) :
    ∀ earlier earlier', (∀ n ∈ items, n.named = true) → (∀ n ∈ others, n.named = true) →
      attachedAttributes earlier = attachedAttributes earlier' →
      Matches (entriesAfter earlier items) (entriesAfter earlier' others) := by
  induction alike with
  | nil =>
    intro earlier earlier' _ _ _
    rw [Node.entriesAfter, Node.entriesAfter]
    exact .nil
  | @item n m ns ms alike _ ih =>
    intro earlier earlier' left right same
    rw [Node.entriesAfter, Node.entriesAfter, if_pos (left n (List.mem_cons_self ..)),
      if_pos (right m (List.mem_cons_self ..))]
    have rest := ih (n :: earlier) (m :: earlier')
      (fun n member => left n (List.mem_cons_of_mem _ member))
      (fun m member => right m (List.mem_cons_of_mem _ member)) (alike.attachedAttributes_eq same)
    rcases alike.entries same with equal | ⟨silent, silent'⟩
    · rw [equal]
      exact rest.append_same _
    · exact rest.append_silent silent silent'
  | @inlineModule n m b c ns ms kind revised isPublic _ _ inner ih =>
    -- Attributes before a module reach no item behind it, and the bodies start afresh.
    intro earlier earlier' left right _
    rw [Node.entriesAfter, Node.entriesAfter, if_pos (left n (List.mem_cons_self ..)),
      if_pos (right m (List.mem_cons_self ..))]
    have own : n.IsProper := isProper_of_kind kind (by decide)
    have other : m.IsProper := isProper_of_kind (revised.kind_eq ▸ kind) (by decide)
    have rest := ih (n :: earlier) (m :: earlier')
      (fun n member => left n (List.mem_cons_of_mem _ member))
      (fun m member => right m (List.mem_cons_of_mem _ member)) (attachedAttributes_proper own other)
    have named : ∀ body : Node, ∀ n ∈ body.namedChildren, n.named = true :=
      fun body n member => (List.mem_filter.mp member).2
    refine entry?_inlineModule kind revised isPublic ?_ rest
    rw [outline_eq, outline_eq]
    exact inner [] [] (named b) (named c) rfl

/-- Alike bodies have matching outlines. -/
theorem BodiesAlike.outline {body other : Node}
    (alike : BodiesAlike body.namedChildren other.namedChildren) :
    Matches body.outline other.outline := by
  rw [outline_eq, outline_eq]
  exact alike.entriesAfter [] [] (fun n member => (List.mem_filter.mp member).2)
    (fun n member => (List.mem_filter.mp member).2) rfl

end Node

end CrateSurface
