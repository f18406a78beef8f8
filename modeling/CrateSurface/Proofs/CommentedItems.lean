import CrateSurface.Proofs.CommentedTrees
import CrateSurface.Proofs.PrivateContent

namespace CrateSurface

namespace Node.Commented

variable {n m : Node} {a b : Option Node} {β : Type}

/-- A function that comments do not change does not see them in an optional node either. -/
theorem map_eq (rel : Option.Rel Commented a b) {g : Node → β}
    (same : ∀ x y, Commented x y → g x = g y) : a.map g = b.map g := by
  cases rel with
  | none => rfl
  | some pair => rw [Option.map_some, Option.map_some, same _ _ pair]

theorem bind_eq (rel : Option.Rel Commented a b) {g : Node → Option β}
    (same : ∀ x y, Commented x y → g x = g y) : a.bind g = b.bind g := by
  cases rel with
  | none => rfl
  | some pair => exact same _ _ pair

theorem isSome_eq (rel : Option.Rel Commented a b) : a.isSome = b.isSome := by
  cases rel with
  | none => rfl
  | some => rfl

theorem renderOption_eq (rel : Option.Rel Commented a b) : renderOption a = renderOption b := by
  rw [renderOption, renderOption, map_eq rel fun _ _ pair => pair.render_eq]

theorem renderReturn_eq (rel : Option.Rel Commented a b) : renderReturn a = renderReturn b := by
  rw [renderReturn, renderReturn, map_eq rel fun _ _ pair => pair.render_eq]

theorem nameText_eq (commented : Commented n m) : n.nameText = m.nameText := by
  rw [nameText, nameText, map_eq (commented.childByField? "name") fun _ _ pair => pair.textOrEmpty_eq]

section Generics

theorem isLifetimeParam_eq (commented : Commented n m) :
    n.isLifetimeParam = m.isLifetimeParam := by
  have lefts := commented.childByField? "left"
  unfold isLifetimeParam
  rw [commented.kind]
  generalize n.childByField? "left" = left, m.childByField? "left" = other at lefts ⊢
  cases lefts with
  | none => rfl
  | some pair => simp only [pair.kind]

/-- The name of a type parameter stays, but for comments in it. -/
theorem typeParamName? (commented : Commented n m) :
    Option.Rel Commented n.typeParamName? m.typeParamName? := by
  have names := commented.childByField? "name"
  have lefts := commented.childByField? "left"
  have identifiers : Option.Rel Commented
      (n.namedChildren.find? fun child => child.kind == "type_identifier")
      (m.namedChildren.find? fun child => child.kind == "type_identifier") :=
    commented.namedChildren.find? (fun _ fresh => fresh.kind_ne (by decide))
      fun x y pair => by rw [pair.kind]
  unfold Node.typeParamName?
  rw [commented.kind]
  split
  · exact .some commented
  · split
    · generalize n.childByField? "name" = name, m.childByField? "name" = other at names ⊢
      cases names with
      | none => exact identifiers
      | some pair => exact .some pair
    · split
      · exact lefts
      · split
        · generalize n.childByField? "name" = name, m.childByField? "name" = other at names ⊢
          cases names with
          | none => exact .none
          | some pair =>
            simp only [pair.kind]
            split
            · exact pair.childByField? "left"
            · exact .some pair
        · exact .none

theorem genericParam_eq (commented : Commented n m) (owner : Owner) (name : String) :
    GenericParam.ofNode owner name n = GenericParam.ofNode owner name m := by
  have names := commented.typeParamName?
  unfold GenericParam.ofNode
  rw [commented.isLifetimeParam_eq, commented.render_eq, commented.kind]
  generalize n.typeParamName? = found, m.typeParamName? = other at names ⊢
  cases names with
  | none => rfl
  | some pair => simp only [pair.textOrEmpty_eq]

end Generics

end Node.Commented

namespace Node.IsInsertion

variable {c : Node}

/-- A comment is no generic parameter. -/
theorem genericParam (fresh : c.IsInsertion) (owner : Owner) (name : String) :
    GenericParam.ofNode owner name c = .nothing := by
  simp [GenericParam.ofNode, isLifetimeParam, typeParamName?, fresh.kind_ne]

theorem not_isListed (fresh : c.IsInsertion) : Param.isListed c = false := by
  simp [Param.isListed, fresh.comment]

/-- A comment is no member of a trait. -/
theorem traitMember (fresh : c.IsInsertion) : TraitMember.ofNode c = .nothing := by
  simp [TraitMember.ofNode, fresh.comment]

end Node.IsInsertion

namespace Node.Commented

variable {n m : Node}

theorem typeParams_eq (commented : Commented n m) (owner : Owner) (name : String) :
    typeParams owner name n = typeParams owner name m := by
  have lists := commented.childByField? "type_parameters"
  unfold typeParams
  generalize n.childByField? "type_parameters" = list,
    m.childByField? "type_parameters" = other at lists ⊢
  cases lists with
  | none => rfl
  | @some list other pair =>
    have collected {β : Type} {g : GenericParam → Option β} (nothing : g .nothing = none) :
        (list.namedChildren.map (GenericParam.ofNode owner name)).filterMap g =
          (other.namedChildren.map (GenericParam.ofNode owner name)).filterMap g := by
      rw [List.filterMap_map, List.filterMap_map]
      refine pair.namedChildren.filterMap_eq ?_ ?_
      · intro c fresh
        rw [Function.comp_apply, fresh.genericParam, nothing]
      · intro x y param
        rw [Function.comp_apply, Function.comp_apply, param.genericParam_eq]
    simp only [GenericParam.ofList]
    rw [collected rfl, collected rfl]

section Params

/-- The patterns under a wrapper are counted, so that none may be added there. -/
theorem bindingName?_eq (commented : Commented n m) : n.bindingName? = m.bindingName? := by
  refine induct (P := fun n m => n.bindingName? = m.bindingName?) ?_ commented
  intro n m label inserted
  rw [Node.bindingName?_eq, Node.bindingName?_eq, label.kind, textOrEmpty, textOrEmpty, label.text]
  by_cases wrapper : isBindingWrapper m.kind = true
  · rw [if_pos wrapper, if_pos wrapper]
    have closed : n.admitsComments = false := by
      rw [admitsComments, label.kind]
      rcases isBindingWrapper_iff.mp wrapper with kind | kind <;> simp [kind]
    have inner : List.Forall₂ (fun x y => Commented x y ∧ x.bindingName? = y.bindingName?)
        (n.namedChildren.filter fun child => child.kind != "mutable_specifier")
        (m.namedChildren.filter fun child => child.kind != "mutable_specifier") := by
      rw [closed] at inserted
      unfold Node.namedChildren
      refine List.rel_filter ?_ (List.rel_filter ?_ inserted.forall₂)
      · intro x y pair
        dsimp only
        rw [pair.1.kind]
      · intro x y pair
        dsimp only
        rw [pair.1.label.named]
    generalize (n.namedChildren.filter fun child => child.kind != "mutable_specifier") = xs,
      (m.namedChildren.filter fun child => child.kind != "mutable_specifier") = ys at inner ⊢
    cases inner with
    | nil => rfl
    | cons pair rest =>
      cases rest with
      | nil => exact pair.2
      | cons => rfl
  · rw [if_neg wrapper, if_neg wrapper]

theorem receiver_eq (commented : Commented n m) : Receiver.ofNode n = Receiver.ofNode m := by
  rw [Receiver.ofNode, Receiver.ofNode, isSome_eq (commented.childOfKind? "&" (by decide)),
    isSome_eq (commented.childOfKind? "mutable_specifier" (by decide))]

theorem param_eq (commented : Commented n m) : Param.ofNode n = Param.ofNode m := by
  have patterns := commented.childByField? "pattern"
  have isSelf : (n.childByField? "pattern").any (fun p => p.kind == "self") =
      (m.childByField? "pattern").any (fun p => p.kind == "self") := by
    generalize n.childByField? "pattern" = pattern, m.childByField? "pattern" = other at patterns ⊢
    cases patterns with
    | none => rfl
    | some pair => rw [Option.any_some, Option.any_some, pair.kind]
  unfold Param.ofNode Param.ofPattern
  dsimp only
  rw [commented.kind, commented.receiver_eq, commented.render_eq, isSelf,
    bind_eq patterns fun _ _ pair => pair.bindingName?_eq, renderOption_eq patterns,
    renderOption_eq (commented.childByField? "type")]

/-- Neither comments in parameters nor those between them change the list. -/
theorem params_eq (commented : Commented n m) :
    Param.ofList (n.childByField? "parameters") = Param.ofList (m.childByField? "parameters") := by
  have lists := commented.childByField? "parameters"
  generalize n.childByField? "parameters" = list, m.childByField? "parameters" = other at lists ⊢
  cases lists with
  | none => rfl
  | some pair =>
    refine pair.namedChildren.filter_map_eq (fun c fresh => fresh.not_isListed) ?_
    intro x y param
    refine ⟨?_, param.param_eq⟩
    rw [Param.isListed, Param.isListed, isAttribute, isAttribute, param.isComment_eq, param.kind]

theorem signature_eq (commented : Commented n m) : n.signature = m.signature := by
  rw [signature, signature, commented.nameText_eq, commented.typeParams_eq, commented.params_eq,
    renderReturn_eq (commented.childByField? "return_type")]

end Params

section Records

theorem slot_eq (commented : Commented n m) : n.slot = m.slot := by
  rw [slot, slot, commented.nameText_eq, renderOption_eq (commented.childByField? "type")]

theorem publicFields_eq (commented : Commented n m) : n.publicFields = m.publicFields := by
  refine commented.namedChildren.filter_map_eq ?_ ?_
  · intro c fresh
    rw [fresh.kind_ne (by decide), Bool.false_and]
  · intro x y field
    rw [field.kind, field.isPublic_eq]
    exact ⟨rfl, field.slot_eq⟩

theorem structRecord_eq (commented : Commented n m) : n.structRecord = m.structRecord := by
  have bodies := commented.childOfKind? "field_declaration_list" (by decide)
  unfold structRecord
  rw [commented.nameText_eq, commented.typeParams_eq,
    isSome_eq (commented.childOfKind? "ordered_field_declaration_list" (by decide))]
  generalize n.childOfKind? "field_declaration_list" = body,
    m.childOfKind? "field_declaration_list" = other at bodies ⊢
  cases bodies with
  | none => rfl
  | some pair => simp only [pair.publicFields_eq]

/-- A variant has a payload with comments in it or without. -/
theorem hasPayload_eq (commented : Commented n m) : n.hasPayload = m.hasPayload := by
  rw [hasPayload, hasPayload, ← List.isSome_find?, ← List.isSome_find?]
  refine isSome_eq (commented.children.find? ?_ fun x y pair => by rw [pair.kind])
  intro c fresh
  rw [fresh.kind_ne (by decide), fresh.kind_ne (by decide), Bool.false_or]

/-- Comments among the members of a body are inserted between them. -/
theorem members (commented : Commented n m) :
    ∃ admitted, Inserted Commented admitted n.members m.members := by
  have bodies := commented.childByField? "body"
  unfold Node.members
  generalize n.childByField? "body" = body, m.childByField? "body" = other at bodies ⊢
  cases bodies with
  | none => exact ⟨true, .nil true⟩
  | some pair => exact ⟨_, pair.namedChildren⟩

theorem enumRecord_eq (commented : Commented n m) : n.enumRecord = m.enumRecord := by
  obtain ⟨admitted, inserted⟩ := commented.members
  have variants : (n.members.filter fun child => child.kind == "enum_variant").map nameText =
      (m.members.filter fun child => child.kind == "enum_variant").map nameText :=
    inserted.filter_map_eq (fun c fresh => fresh.kind_ne (by decide)) fun x y pair =>
      ⟨by rw [pair.kind], pair.nameText_eq⟩
  have payloads {g : Node → Finding} (same : ∀ x y, Commented x y → g x = g y) :
      ((n.members.filter fun child => child.kind == "enum_variant").filter hasPayload).map g =
        ((m.members.filter fun child => child.kind == "enum_variant").filter hasPayload).map g := by
    rw [List.filter_filter, List.filter_filter]
    refine inserted.filter_map_eq ?_ ?_
    · intro c fresh
      rw [fresh.kind_ne (by decide), Bool.and_false]
    · intro x y pair
      rw [pair.kind, pair.hasPayload_eq]
      exact ⟨rfl, same x y pair⟩
  unfold enumRecord
  rw [commented.nameText_eq, commented.typeParams_eq]
  dsimp only
  rw [variants, payloads fun x y pair => by rw [pair.nameText_eq]]

theorem traitMember_eq (commented : Commented n m) :
    TraitMember.ofNode n = TraitMember.ofNode m := by
  unfold TraitMember.ofNode
  rw [isAttribute, isAttribute, commented.isComment_eq, commented.kind, commented.signature_eq,
    commented.nameText_eq, commented.render_eq]

theorem traitRecord_eq (commented : Commented n m) : n.traitRecord = m.traitRecord := by
  obtain ⟨admitted, inserted⟩ := commented.members
  have some {β : Type} {g : TraitMember → Option β} (nothing : g .nothing = none) :
      (n.members.map TraitMember.ofNode).filterMap g =
        (m.members.map TraitMember.ofNode).filterMap g := by
    rw [List.filterMap_map, List.filterMap_map]
    refine inserted.filterMap_eq ?_ ?_
    · intro c fresh
      rw [Function.comp_apply, fresh.traitMember, nothing]
    · intro x y pair
      rw [Function.comp_apply, Function.comp_apply, pair.traitMember_eq]
  have all {β : Type} {g : TraitMember → List β} (nothing : g .nothing = []) :
      (n.members.map TraitMember.ofNode).flatMap g =
        (m.members.map TraitMember.ofNode).flatMap g := by
    rw [List.flatMap_map, List.flatMap_map]
    refine inserted.flatMap_eq ?_ fun x y pair => by rw [pair.traitMember_eq]
    intro c fresh
    rw [fresh.traitMember, nothing]
  have bounds : renderBounds (n.childByField? "bounds") = renderBounds (m.childByField? "bounds") := by
    have lists := commented.childByField? "bounds"
    generalize n.childByField? "bounds" = list, m.childByField? "bounds" = other at lists ⊢
    cases lists with
    | none => rfl
    | some pair => exact pair.renderBounds_eq
  unfold traitRecord
  rw [commented.nameText_eq, commented.typeParams_eq, bounds]
  dsimp only
  rw [some rfl, some rfl, all rfl, all rfl]

/-- The name that a type is known by does not see comments. -/
theorem nominalName?_eq (commented : Commented n m) : n.nominalName? = m.nominalName? := by
  refine induct (P := fun n m => n.nominalName? = m.nominalName?) ?_ commented
  intro n m label inserted
  have inner (role : String) : (n.childByField? role).bind nominalName? =
      (m.childByField? role).bind nominalName? := by
    have found := inserted.childByField? (fun _ _ pair => pair.1.label.field) role
    generalize n.childByField? role = a, m.childByField? role = b at found ⊢
    cases found with
    | none => rfl
    | some pair => exact pair.2
  rw [Node.nominalName?_eq, Node.nominalName?_eq, label.kind, inner, inner, textOrEmpty, textOrEmpty,
    label.text]

theorem methodGroup?_eq (commented : Commented n m) : n.methodGroup? = m.methodGroup? := by
  obtain ⟨admitted, inserted⟩ := commented.members
  have methods : (n.members.filter fun member =>
        member.kind == "function_item" && member.isPublic).map signature =
      (m.members.filter fun member =>
        member.kind == "function_item" && member.isPublic).map signature := by
    refine inserted.filter_map_eq ?_ ?_
    · intro c fresh
      rw [fresh.kind_ne (by decide), Bool.false_and]
    · intro x y pair
      rw [pair.kind, pair.isPublic_eq]
      exact ⟨rfl, pair.signature_eq⟩
  unfold methodGroup?
  rw [isSome_eq (commented.childByField? "trait"),
    bind_eq (commented.childByField? "type") fun _ _ pair => pair.nominalName?_eq,
    renderOption_eq (commented.childByField? "type"), methods]

end Records

section Macros

/-- An attribute is known by its first child, before which none may be added. -/
theorem attributePath_eq (commented : Commented n m) : n.attributePath = m.attributePath := by
  have attributes : Option.Rel Commented
      (n.namedChildren.find? fun child => child.kind == "attribute")
      (m.namedChildren.find? fun child => child.kind == "attribute") :=
    commented.namedChildren.find? (fun _ fresh => fresh.kind_ne (by decide))
      fun x y pair => by rw [pair.kind]
  unfold attributePath
  cases found : n.namedChildren.find? fun child => child.kind == "attribute" with
  | none =>
    rw [found] at attributes
    generalize (m.namedChildren.find? fun child => child.kind == "attribute") = other at attributes ⊢
    cases attributes
    rfl
  | some inner =>
    rw [found] at attributes
    have kind : inner.kind = "attribute" := by simpa using List.find?_some found
    generalize (m.namedChildren.find? fun child => child.kind == "attribute") = other at attributes ⊢
    cases attributes with
    | @some _ other pair =>
      have closed : inner.admitsComments = false := by
        rw [admitsComments, kind]
        simp
      have children := pair.namedChildren
      rw [closed] at children
      have pairs := children.forall₂
      refine renderOption_eq ?_
      generalize inner.namedChildren = xs, other.namedChildren = ys at pairs ⊢
      cases pairs with
      | nil => exact .none
      | cons pair => exact .some pair

theorem exportedMacro_eq (commented : Commented n m) :
    Contribution.ofExportedMacro n = Contribution.ofExportedMacro m := by
  rw [Contribution.ofExportedMacro, Contribution.ofExportedMacro, commented.kind,
    commented.nameText_eq, commented.render_eq]

theorem publicItem_eq (commented : Commented n m) :
    Contribution.ofPublicItem n = Contribution.ofPublicItem m := by
  rw [Contribution.ofPublicItem, Contribution.ofPublicItem, commented.kind, commented.slot_eq,
    commented.signature_eq, commented.structRecord_eq, commented.enumRecord_eq,
    commented.traitRecord_eq]

/-- An item makes the same contribution if it is exported or not in both trees. -/
theorem ofItem_eq (commented : Commented n m) {earlier earlier' : List Node}
    (exported : isExported earlier = isExported earlier') :
    Contribution.ofItem earlier n = Contribution.ofItem earlier' m := by
  unfold Contribution.ofItem
  rw [exported, commented.kind, commented.methodGroup?_eq, commented.exportedMacro_eq,
    commented.isPublic_eq, commented.publicItem_eq]
  by_cases statement : (m.kind == "expression_statement") = true
  · rw [if_pos statement, if_pos statement]
    have closed : n.admitsComments = false := by
      rw [admitsComments, commented.kind, beq_iff_eq.mp statement]
      simp
    have children := commented.namedChildren
    rw [closed] at children
    have pairs := children.forall₂
    generalize n.namedChildren = xs, m.namedChildren = ys at pairs ⊢
    cases pairs with
    | nil => rfl
    | cons pair rest =>
      cases rest with
      | nil => simp only [pair.kind, pair.exportedMacro_eq]
      | cons => rfl
  · rw [if_neg statement, if_neg statement]

end Macros

end Node.Commented

end CrateSurface
