import CrateSurface.Proofs.Unsupported

namespace CrateSurface

namespace Node

/-- The reading in which every child counts. -/
def everything : Node → Bool :=
  fun _ => true

section Generics

theorem isLifetimeParam_iff {param : Node} : param.isLifetimeParam = true ↔ param.IsLifetime := by
  unfold isLifetimeParam
  constructor
  · intro lifetime
    rcases Bool.or_eq_true_iff.mp lifetime with bare | bounded
    · exact .bare (by simpa using bare)
    · obtain ⟨kind, left⟩ := Bool.and_eq_true_iff.mp bounded
      split at left
      · rename_i found
        exact .bounded (beq_iff_eq.mp kind) found (beq_iff_eq.mp left)
      · cases left
  · rintro (bare | ⟨kind, found, left⟩)
    · rcases bare with kind | kind <;> simp [kind]
    · simp [kind, found, left]

variable {owner : Owner} {name : String} {param : Node} {f : Finding}

theorem finding?_ofNode_iff :
    (GenericParam.ofNode owner name param).finding? = some f ↔ UnsupportedGeneric owner name param f := by
  unfold GenericParam.ofNode
  by_cases lifetime : param.isLifetimeParam = true
  · rw [if_pos lifetime]
    constructor
    · intro found
      cases found
      exact .lifetime (isLifetimeParam_iff.mp lifetime)
    · rintro (_ | kind)
      · rfl
      · simp [isLifetimeParam, kind] at lifetime
  · rw [if_neg lifetime]
    by_cases const : param.kind = "const_parameter"
    · rw [if_pos (beq_iff_eq.mpr const)]
      constructor
      · intro found
        cases found
        exact .const const
      · rintro (known | _)
        · exact absurd (isLifetimeParam_iff.mpr known) lifetime
        · rfl
    · rw [if_neg (by simpa using const)]
      constructor
      · intro found
        split at found
        · split at found <;> cases found
        · cases found
      · rintro (known | kind)
        · exact absurd (isLifetimeParam_iff.mpr known) lifetime
        · exact absurd kind const

/-- The findings about the generics of an item are its lifetime and const parameters. -/
theorem typeParams_enumerates (owner : Owner) (item : Node) :
    Enumerates (typeParams owner item.nameText item).findings (UnsupportedGenerics owner item) := by
  unfold typeParams GenericParam.ofList
  cases found : item.childByField? "type_parameters" with
  | none =>
    refine .nil ?_
    rintro place f ⟨there, _, _⟩
    rw [found] at there
    cases there
  | some list =>
    dsimp only
    rw [List.filterMap_map, List.filterMap_eq_flatMap_toList]
    have each : ∀ param ∈ list.namedChildren,
        Enumerates (GenericParam.ofNode owner item.nameText param).finding?.toList
          fun place f => place = [] ∧ UnsupportedGeneric owner item.nameText param f :=
      fun param _ => .option fun place f => and_congr_right fun _ => finding?_ofNode_iff.symm
    refine (Enumerates.flatMap each).congr fun place f => ?_
    constructor
    · rintro ⟨k, param, rest, there, rfl, rfl, unsupported⟩
      exact .param found there unsupported
    · rintro ⟨there, param, unsupported⟩
      rw [found] at there
      cases there
      exact ⟨_, _, [], param, rfl, rfl, unsupported⟩

end Generics

section Bindings

theorem innerBindings_eq (children : List Node) :
    innerBindings children =
      ((children.filter (·.named)).filter fun child => child.kind != "mutable_specifier").map
        bindingName? := by
  induction children with
  | nil => rfl
  | cons child children ih =>
    rw [innerBindings, List.filter_cons]
    cases child.named with
    | false => simpa using ih
    | true =>
      rw [if_pos rfl, List.filter_cons]
      cases child.kind != "mutable_specifier" with
      | false => simpa using ih
      | true => simpa using ih

/-- A wrapper has the name of what it holds, if that is one child. -/
theorem bindingName?_eq (n : Node) :
    n.bindingName? =
      if isBindingWrapper n.kind then
        match n.namedChildren.filter fun child => child.kind != "mutable_specifier" with
        | [inner] => inner.bindingName?
        | _ => none
      else if n.kind == "identifier" then some n.textOrEmpty
      else none := by
  obtain ⟨kind, text, field, named, error, missing, children⟩ := n
  rw [bindingName?, innerBindings_eq]
  unfold namedChildren textOrEmpty
  dsimp only
  cases (children.filter (·.named)).filter fun child => child.kind != "mutable_specifier" with
  | nil => rfl
  | cons inner rest =>
    cases rest with
    | nil => rfl
    | cons next rest => rfl

theorem isBindingWrapper_iff {kind : String} :
    isBindingWrapper kind = true ↔ kind = "mut_pattern" ∨ kind = "ref_pattern" := by
  simp [isBindingWrapper]

/-- A pattern binds a name if and only if it is a plain binding. -/
theorem bindingName?_isSome_iff (n : Node) :
    n.bindingName?.isSome = true ↔ PlainBinding everything n := by
  constructor
  · intro bound
    induction size : n.size using Nat.strongRecOn generalizing n with
    | ind size ih =>
      subst size
      rw [bindingName?_eq] at bound
      split at bound
      · rename_i wrapper
        split at bound
        · rename_i inner only
          have member : inner ∈ n.namedChildren := by
            have among : inner ∈ n.namedChildren.filter fun child => child.kind != "mutable_specifier" := by
              rw [only]
              exact List.mem_singleton_self inner
            exact (List.mem_filter.mp among).1
          have smaller := size_lt_of_mem_children (mem_children_of_mem_namedChildren member)
          refine .wrapped (isBindingWrapper_iff.mp wrapper) ?_ (ih _ smaller inner bound rfl)
          simpa [everything] using only
        · cases bound
      · split at bound
        · rename_i kind
          exact .identifier (beq_iff_eq.mp kind)
        · cases bound
  · intro plain
    induction plain with
    | identifier kind => simp [bindingName?_eq, isBindingWrapper, kind]
    | @wrapped n inner wrapper only _ ih =>
      have alone : (n.namedChildren.filter fun child => child.kind != "mutable_specifier") = [inner] := by
        simpa [everything] using only
      rw [bindingName?_eq, if_pos (isBindingWrapper_iff.mpr wrapper), alone]
      exact ih

end Bindings

section Params

variable {param : Node} {f : Finding}

/-- A parameter has an issue if and only if its pattern has no name. -/
theorem finding_ofBinding_iff {name : Option String} {type snippet : String} :
    (Param.ofBinding name type snippet).finding = some f ↔
      ¬ name.isSome = true ∧ f = ⟨.parameterPattern, snippet⟩ := by
  cases name with
  | some name => simp [Param.ofBinding]
  | none => simp [Param.ofBinding, eq_comm]

theorem finding_ofPattern_iff (kind : param.kind = "parameter") :
    (Param.ofPattern param).finding = some f ↔ UnsupportedParam everything param f := by
  have only : UnsupportedParam everything param f ↔
      (∀ p, param.childByField? "pattern" = some p → p.kind ≠ "self" ∧ ¬ PlainBinding everything p) ∧
        f = ⟨.parameterPattern, renderOption (param.childByField? "pattern")⟩ := by
    constructor
    · rintro (⟨_, plain⟩ | ⟨other⟩)
      · exact ⟨plain, rfl⟩
      · rw [kind] at other
        exact absurd other (by decide)
    · rintro ⟨plain, rfl⟩
      exact .pattern kind plain
  rw [only]
  unfold Param.ofPattern
  cases found : param.childByField? "pattern" with
  | none => simp [finding_ofBinding_iff]
  | some pattern =>
    by_cases self : pattern.kind = "self"
    · simp [self]
    · simp [self, finding_ofBinding_iff, ← bindingName?_isSome_iff]

theorem finding_ofNode_iff :
    Param.isListed param = true ∧ (Param.ofNode param).finding = some f ↔
      UnsupportedParam everything param f := by
  by_cases parameter : param.kind = "parameter"
  · have listed : Param.isListed param = true := by
      simp [Param.isListed, isAttribute, isComment, parameter]
    rw [and_iff_right listed, ← finding_ofPattern_iff parameter]
    simp [Param.ofNode, parameter]
  · have only : UnsupportedParam everything param f ↔
        param.kind ∉ ["self_parameter", "parameter", "variadic_parameter", "attribute_item",
          "inner_attribute_item", "line_comment", "block_comment"] ∧
        f = ⟨.parameterPattern, param.render⟩ := by
      constructor
      · rintro (⟨kind, _⟩ | other)
        · exact absurd kind parameter
        · exact ⟨other, rfl⟩
      · rintro ⟨other, rfl⟩
        exact .bare other
    rw [only]
    by_cases self : param.kind = "self_parameter"
    · simp [Param.ofNode, self]
    · simp [Param.isListed, Param.ofNode, isAttribute, isComment, finding_ofBinding_iff, self,
        parameter]
      tauto

end Params

section Declarations

/-- The findings about a function are its unsupported generics and parameters. -/
theorem signature_enumerates (n : Node) :
    Enumerates n.signature.findings (UnsupportedInCallable everything n) := by
  have params : Enumerates
      ((Param.ofList (n.childByField? "parameters")).filterMap (·.finding)) fun place f =>
        ∃ list k param, n.childByField? "parameters" = some list ∧
          list.namedChildren[k]? = some param ∧ place = [k] ∧ UnsupportedParam everything param f := by
    unfold Param.ofList
    cases found : n.childByField? "parameters" with
    | none =>
      refine .nil ?_
      rintro place f ⟨list, k, param, there, _⟩
      cases there
    | some list =>
      dsimp only
      rw [List.filterMap_map, List.filterMap_eq_flatMap_toList]
      have each : ∀ param ∈ list.namedChildren, Enumerates (Param.ofNode param).finding.toList
          fun place f => place = [] ∧ (Param.ofNode param).finding = some f :=
        fun param _ => .option fun place f => Iff.rfl
      refine (Enumerates.flatMapFilter each).congr fun place f => ?_
      constructor
      · rintro ⟨k, param, rest, there, rfl, listed, rfl, found⟩
        exact ⟨list, k, param, rfl, there, rfl, finding_ofNode_iff.mp ⟨listed, found⟩⟩
      · rintro ⟨other, k, param, same, there, rfl, unsupported⟩
        cases same
        obtain ⟨listed, found⟩ := finding_ofNode_iff.mpr unsupported
        exact ⟨k, param, [], there, rfl, listed, rfl, found⟩
  refine ((typeParams_enumerates .function n).append params).congr fun place f => ?_
  constructor
  · rintro (⟨rest, rfl, generic⟩ | ⟨rest, rfl, list, k, param, found, there, rfl, unsupported⟩)
    · exact .generic generic
    · exact .param found there unsupported
  · rintro (generic | ⟨found, there, unsupported⟩)
    · exact Or.inl ⟨_, rfl, generic⟩
    · exact Or.inr ⟨_, rfl, _, _, _, found, there, rfl, unsupported⟩

theorem structRecord_enumerates (n : Node) :
    Enumerates n.structRecord.findings (UnsupportedInStruct n) := by
  have generics := typeParams_enumerates .struct n
  have tuples : Enumerates
      (if (n.childOfKind? "field_declaration_list").isNone &&
          (n.childOfKind? "ordered_field_declaration_list").isSome
        then [⟨.tupleStruct, n.nameText⟩] else []) fun place f =>
      n.childOfKind? "field_declaration_list" = none ∧
        (n.childOfKind? "ordered_field_declaration_list").isSome = true ∧
        place = [] ∧ f = ⟨.tupleStruct, n.nameText⟩ := by
    split
    · rename_i tuple
      obtain ⟨named, ordered⟩ := Bool.and_eq_true_iff.mp tuple
      exact .single fun place f => by simp [Option.isNone_iff_eq_none.mp named, ordered]
    · rename_i other
      refine .nil ?_
      rintro place f ⟨named, ordered, _⟩
      exact other (by simp [named, ordered])
  have listed : n.structRecord.findings =
      (typeParams .struct n.nameText n).findings ++
        (if (n.childOfKind? "field_declaration_list").isNone &&
            (n.childOfKind? "ordered_field_declaration_list").isSome
          then [⟨.tupleStruct, n.nameText⟩] else []) := by
    unfold structRecord
    cases n.childOfKind? "field_declaration_list" with
    | none => rfl
    | some body => simp
  rw [listed]
  refine (generics.append tuples).congr fun place f => ?_
  constructor
  · rintro (⟨rest, rfl, generic⟩ | ⟨rest, rfl, named, ordered, rfl, rfl⟩)
    · exact .generic generic
    · exact .tuple named ordered
  · rintro (generic | ⟨named, ordered⟩)
    · exact Or.inl ⟨_, rfl, generic⟩
    · exact Or.inr ⟨[], rfl, named, ordered, rfl, rfl⟩

theorem hasPayload_iff {variant : Node} : hasPayload variant = true ↔ ∃ child ∈ variant.children,
    child.kind = "field_declaration_list" ∨ child.kind = "ordered_field_declaration_list" := by
  simp [hasPayload]

/-- The issues of an enum are those of its type parameters and of its payloads. -/
theorem enumRecord_enumerates (n : Node) :
    Enumerates n.enumRecord.findings (UnsupportedInEnum n) := by
  have each : ∀ variant ∈ n.members,
      Enumerates [⟨.variantPayload, variant.nameText⟩] fun place f =>
        place = [] ∧ f = ⟨.variantPayload, variant.nameText⟩ :=
    fun variant _ => .single fun place f => Iff.rfl
  have listed : n.enumRecord.findings = (typeParams .enum n.nameText n).findings ++
      (n.members.filter fun variant => hasPayload variant && variant.kind == "enum_variant").flatMap
        fun variant => [⟨.variantPayload, variant.nameText⟩] := by
    simp only [enumRecord, List.filter_filter, List.map_eq_flatMap]
  rw [listed]
  refine ((typeParams_enumerates .enum n).append (.flatMapFilter each)).congr fun place f => ?_
  constructor
  · rintro (⟨rest, rfl, generic⟩ | ⟨_, rfl, k, variant, _, there, rfl, shown, rfl, rfl⟩)
    · exact .generic generic
    · obtain ⟨payload, kind⟩ := Bool.and_eq_true_iff.mp shown
      obtain ⟨child, member, list⟩ := hasPayload_iff.mp payload
      exact .payload there (beq_iff_eq.mp kind) member list
  · rintro (generic | ⟨there, kind, member, list⟩)
    · exact Or.inl ⟨_, rfl, generic⟩
    · have payload := hasPayload_iff.mpr ⟨_, member, list⟩
      exact Or.inr ⟨_, rfl, _, _, [], there, rfl, by simp [payload, kind], rfl, rfl⟩

/-- What a member of a trait has of unsupported: it is a method that has, or it is no member that a
document can hold. -/
def UnsupportedMember (member : Node) (place : Place) (f : Finding) : Prop :=
  ((member.kind = "function_item" ∨ member.kind = "function_signature_item") ∧
    UnsupportedInCallable everything member place f) ∨
  (member.kind ∉ ["function_item", "function_signature_item", "associated_type", "empty_statement",
      "attribute_item", "inner_attribute_item", "line_comment", "block_comment"] ∧
    place = [] ∧ f = ⟨.traitMember, member.render⟩)

/-- The issues of a member are those of its signature, or its own. -/
theorem traitMember_enumerates (member : Node) :
    Enumerates (TraitMember.ofNode member).findings (UnsupportedMember member) := by
  by_cases method : member.kind = "function_item" ∨ member.kind = "function_signature_item"
  · have listed : (TraitMember.ofNode member).findings = member.signature.findings := by
      rcases method with kind | kind <;>
        simp [TraitMember.ofNode, TraitMember.findings, isAttribute, isComment, kind]
    rw [listed]
    refine (signature_enumerates member).congr fun place f => ?_
    constructor
    · exact fun unsupported => Or.inl ⟨method, unsupported⟩
    · rintro (⟨_, unsupported⟩ | ⟨other, _⟩)
      · exact unsupported
      · rcases method with kind | kind <;> simp [kind] at other
  · by_cases silent : member.kind ∈ ["associated_type", "empty_statement", "attribute_item",
        "inner_attribute_item", "line_comment", "block_comment"]
    · have listed : (TraitMember.ofNode member).findings = [] := by
        simp only [List.mem_cons, List.not_mem_nil, or_false] at silent
        rcases silent with kind | kind | kind | kind | kind | kind <;>
          simp [TraitMember.ofNode, TraitMember.findings, isAttribute, isComment, kind]
      rw [listed]
      refine .nil ?_
      rintro place f (⟨kind, _⟩ | ⟨other, _⟩)
      · exact method kind
      · simp only [List.mem_cons] at silent other
        tauto
    · have listed : (TraitMember.ofNode member).findings = [⟨.traitMember, member.render⟩] := by
        simp only [List.mem_cons, List.not_mem_nil, or_false, not_or] at silent method
        simp [TraitMember.ofNode, TraitMember.findings, isAttribute, isComment, silent, method]
      rw [listed]
      refine .single fun place f => ?_
      constructor
      · rintro (⟨kind, _⟩ | ⟨_, alone⟩)
        · exact absurd kind method
        · exact alone
      · intro alone
        refine Or.inr ⟨?_, alone⟩
        simp only [List.mem_cons] at silent ⊢
        tauto

theorem traitRecord_enumerates (n : Node) :
    Enumerates n.traitRecord.findings (UnsupportedInTrait everything n) := by
  have members : Enumerates ((n.members.map TraitMember.ofNode).flatMap (·.findings)) fun place f =>
      ∃ (k : Nat) (member : Node) (rest : Place), n.members[k]? = some member ∧ place = k :: rest ∧
        UnsupportedMember member rest f := by
    rw [List.flatMap_map]
    exact .flatMap fun member _ => traitMember_enumerates member
  refine ((typeParams_enumerates .trait n).append members).congr fun place f => ?_
  constructor
  · rintro (⟨rest, rfl, generic⟩ | ⟨_, rfl, k, member, rest, there, rfl, method | ⟨other, rfl, rfl⟩⟩)
    · exact .generic generic
    · exact .method there method.1 method.2
    · exact .member there other
  · rintro (generic | ⟨there, kind, unsupported⟩ | ⟨there, other⟩)
    · exact Or.inl ⟨_, rfl, generic⟩
    · exact Or.inr ⟨_, rfl, _, _, _, there, rfl, Or.inl ⟨kind, unsupported⟩⟩
    · exact Or.inr ⟨_, rfl, _, _, _, there, rfl, Or.inr ⟨other, rfl, rfl⟩⟩

end Declarations

section Blocks

theorem nominalByField?_eq (role : String) (children : List Node) :
    nominalByField? role children =
      (children.find? fun child => child.field == some role).bind nominalName? := by
  induction children with
  | nil => rfl
  | cons child children ih =>
    rw [nominalByField?, List.find?_cons]
    cases child.field == some role with
    | true => rfl
    | false => simpa using ih

/-- A type is known by its last name, without its arguments. -/
theorem nominalName?_eq (n : Node) :
    n.nominalName? =
      if n.kind == "generic_type" then (n.childByField? "type").bind nominalName?
      else if n.kind == "scoped_type_identifier" then (n.childByField? "name").bind nominalName?
      else if n.kind == "type_identifier" || n.kind == "primitive_type" then
        if n.textOrEmpty == "" then none else some n.textOrEmpty
      else none := by
  obtain ⟨kind, text, field, named, error, missing, children⟩ := n
  simp only [nominalName?, nominalByField?_eq, childByField?, textOrEmpty]
  rfl

/-- A type has a nominal name if and only if it names a type. -/
theorem nominalName?_isSome_iff (n : Node) : n.nominalName?.isSome = true ↔ NamesType n := by
  constructor
  · intro named
    -- The name of a type is that of one of its fields, so the induction is on the size of the tree.
    induction size : n.size using Nat.strongRecOn generalizing n with
    | ind size ih =>
      subst size
      have inside : ∀ role, ((n.childByField? role).bind nominalName?).isSome = true →
          ∃ inner, n.childByField? role = some inner ∧ NamesType inner := by
        intro role found
        cases there : n.childByField? role with
        | none =>
          rw [there] at found
          cases found
        | some inner =>
          rw [there] at found
          have smaller := size_lt_of_mem_children (mem_children_of_childByField? there)
          exact ⟨inner, rfl, ih _ smaller inner found rfl⟩
      rw [nominalName?_eq] at named
      split at named
      · rename_i kind
        obtain ⟨inner, there, type⟩ := inside "type" named
        exact .generic (beq_iff_eq.mp kind) there type
      · split at named
        · rename_i kind
          obtain ⟨inner, there, type⟩ := inside "name" named
          exact .path (beq_iff_eq.mp kind) there type
        · split at named
          · rename_i kind
            split at named
            · cases named
            · rename_i text
              exact .name (by simpa using kind) (by simpa using text)
          · cases named
  · intro type
    induction type with
    | name kind text =>
      rw [nominalName?_eq]
      rcases kind with kind | kind <;> simp [kind, text]
    | generic kind there _ ih =>
      rw [nominalName?_eq, kind, there]
      exact ih
    | path kind there _ ih =>
      rw [nominalName?_eq, kind, there]
      exact ih

/-- The findings about an inherent block. -/
theorem methodGroup?_enumerates {n : Node} (inherent : n.childByField? "trait" = none) :
    Enumerates n.methodGroup?.findings (UnsupportedInImpl everything n) := by
  have own : (n.childByField? "trait").isSome = false := by rw [inherent]; rfl
  cases target : (n.childByField? "type").bind nominalName? with
  | none =>
    have listed : n.methodGroup?.findings =
        [⟨.implTarget, renderOption (n.childByField? "type")⟩] := by
      simp [methodGroup?, own, target]
    have nameless : ∀ type, n.childByField? "type" = some type → ¬ NamesType type := by
      intro type there named
      rw [there, Option.bind_some] at target
      have named := (nominalName?_isSome_iff type).mpr named
      rw [target] at named
      cases named
    rw [listed]
    refine .single fun place f => ?_
    constructor
    · rintro (_ | ⟨there, named, _⟩)
      · exact ⟨rfl, rfl⟩
      · exact absurd named (nameless _ there)
    · rintro ⟨rfl, rfl⟩
      exact .target nameless
  | some name =>
    obtain ⟨type, there, named⟩ := Option.bind_eq_some_iff.mp target
    have names : NamesType type := (nominalName?_isSome_iff type).mp (by rw [named]; rfl)
    have listed : n.methodGroup?.findings =
        (n.members.filter fun member => member.kind == "function_item" && member.isPublic).flatMap
          fun member => member.signature.findings := by
      unfold methodGroup?
      rw [if_neg (by simp [own]), target]
      simp only [Noted.sequence, Noted.map, List.flatMap_map]
      split <;> rfl
    rw [listed]
    have each : ∀ member ∈ n.members, Enumerates member.signature.findings
        (UnsupportedInCallable everything member) := fun member _ => signature_enumerates member
    refine (Enumerates.flatMapFilter each).congr fun place f => ?_
    constructor
    · rintro ⟨k, member, rest, found, rfl, shown, unsupported⟩
      obtain ⟨kind, isPublic⟩ := Bool.and_eq_true_iff.mp shown
      exact .method there names found (beq_iff_eq.mp kind) isPublic unsupported
    · rintro (nameless | ⟨_, _, found, kind, isPublic, unsupported⟩)
      · exact absurd names (nameless type there)
      · exact ⟨_, _, _, found, rfl, by simp [kind, isPublic], unsupported⟩

end Blocks

section Items

theorem isExported_iff (earlier : List Node) : isExported earlier = true ↔ MacroExport earlier := by
  induction earlier with
  | nil =>
    constructor
    · intro exported
      cases exported
    · intro marked
      cases marked
  | cons n earlier ih =>
    have marked : MacroExport (n :: earlier) ↔
        (n.kind = "attribute_item" ∧ n.attributePath = "macro_export") ∨
          ((n.isAttribute = true ∨ n.isComment = true) ∧ MacroExport earlier) := by
      constructor
      · rintro (⟨kind, path⟩ | ⟨skipped, rest⟩)
        · exact Or.inl ⟨kind, path⟩
        · exact Or.inr ⟨skipped, rest⟩
      · rintro (⟨kind, path⟩ | ⟨skipped, rest⟩)
        · exact .here kind path
        · exact .behind skipped rest
    rw [marked, ← ih, isExported, attachedAttributes_cons]
    by_cases outer : n.kind = "attribute_item"
    · simp [isAttribute, outer, isExported]
    · by_cases skipped : n.isAttribute = true ∨ n.isComment = true
      · simp [skipped, outer, isExported]
      · simp [skipped, outer]

variable {earlier : List Node} {n : Node}

/-- The findings that an item brings into the record of its module. -/
def itemFindings (earlier : List Node) (n : Node) : List Finding :=
  if n.kind == "mod_item" then [] else (Contribution.ofItem earlier n).findings

/-- An exported macro has an issue unless it is a definition with a name. -/
theorem exportedMacro_enumerates (exported : MacroExport earlier)
    (kind : n.kind = "macro_definition" ∨ n.kind = "macro_invocation") :
    Enumerates (Contribution.ofExportedMacro n).findings (Unsupported everything earlier n) := by
  unfold Contribution.ofExportedMacro
  rcases kind with kind | kind
  · by_cases nameless : n.nameText = ""
    · simp only [kind, nameless, if_true, beq_self_eq_true]
      refine .single fun place f => ?_
      simp [unsupported_iff, namelessMacro_iff, kind, nameless, exported]
    · simp only [kind, if_true, beq_self_eq_true, beq_iff_eq, nameless, if_false]
      refine .nil fun place f => ?_
      simp [unsupported_iff, namelessMacro_iff, kind, nameless]
  · simp [kind]
    refine .single fun place f => ?_
    simp [unsupported_iff, namelessMacro_iff, kind, exported]

theorem filter_everything (items : List Node) : items.filter everything = items :=
  List.filter_eq_self.mpr fun _ _ => rfl

theorem statement_enumerates (kind : n.kind = "expression_statement") :
    Enumerates (itemFindings earlier n) (Unsupported everything earlier n) := by
  by_cases call : ∃ inner, n.namedChildren = [inner] ∧ inner.kind = "macro_invocation" ∧
      MacroExport earlier
  · obtain ⟨inner, only, invoked, exported⟩ := call
    have listed : itemFindings earlier n = [⟨.namelessMacro, inner.render⟩] := by
      simp [itemFindings, Contribution.ofItem, Contribution.ofExportedMacro, kind, only, invoked,
        (isExported_iff earlier).mpr exported]
    rw [listed]
    refine .single fun place f => ?_
    simp [unsupported_iff, namelessMacro_iff, filter_everything, kind, only, invoked, exported]
  · have listed : itemFindings earlier n = [] := by
      simp only [itemFindings, Contribution.ofItem, kind]
      split
      · rfl
      · simp only [beq_self_eq_true, if_true]
        split
        · rename_i inner only
          split
          · rename_i shown
            obtain ⟨invoked, exported⟩ := Bool.and_eq_true_iff.mp shown
            exact absurd ⟨inner, only, beq_iff_eq.mp invoked, (isExported_iff earlier).mp exported⟩ call
          · rfl
        · rfl
    rw [listed]
    refine .nil fun place f unsupported => ?_
    simp [unsupported_iff, namelessMacro_iff, filter_everything, kind] at unsupported
    obtain ⟨exported, inner, ⟨only, invoked⟩, _⟩ := unsupported
    exact call ⟨inner, only, invoked, exported⟩

/-- An implementation of no trait has the issues of what it holds, any other has none. -/
theorem impl_enumerates (kind : n.kind = "impl_item") :
    Enumerates (itemFindings earlier n) (Unsupported everything earlier n) := by
  have listed : itemFindings earlier n = n.methodGroup?.findings := by
    simp [itemFindings, Contribution.ofItem, kind, Noted.map]
  rw [listed]
  cases owned : n.childByField? "trait" with
  | none =>
    refine (methodGroup?_enumerates owned).congr fun place f => ?_
    simp [unsupported_iff, namelessMacro_iff, kind, owned]
  | some trait =>
    have silent : n.methodGroup?.findings = [] := by simp [methodGroup?, owned]
    rw [silent]
    refine .nil fun place f unsupported => ?_
    simp [unsupported_iff, namelessMacro_iff, kind, owned] at unsupported

theorem macro_enumerates (kind : n.kind = "macro_definition" ∨ n.kind = "macro_invocation") :
    Enumerates (itemFindings earlier n) (Unsupported everything earlier n) := by
  by_cases exported : isExported earlier = true
  · have listed : itemFindings earlier n = (Contribution.ofExportedMacro n).findings := by
      rcases kind with kind | kind <;> simp [itemFindings, Contribution.ofItem, kind, exported]
    rw [listed]
    exact exportedMacro_enumerates ((isExported_iff earlier).mp exported) kind
  · have listed : itemFindings earlier n = [] := by
      rcases kind with kind | kind <;>
        simp [itemFindings, Contribution.ofItem, Contribution.nothing, kind, exported]
    rw [listed]
    rw [isExported_iff] at exported
    refine .nil fun place f unsupported => ?_
    rcases kind with kind | kind <;>
      simp [unsupported_iff, kind, exported] at unsupported

theorem declaration_enumerates (shown : n.isPublic = true)
    (other : n.kind ∉ ["expression_statement", "impl_item", "macro_definition", "macro_invocation"]) :
    Enumerates (itemFindings earlier n) (Unsupported everything earlier n) := by
  simp only [List.mem_cons, List.not_mem_nil, or_false, not_or] at other
  by_cases function : n.kind = "function_item"
  · have listed : itemFindings earlier n = n.signature.findings := by
      simp [itemFindings, Contribution.ofItem, Contribution.ofPublicItem, Noted.map, shown, function]
    rw [listed]
    refine (signature_enumerates n).congr fun place f => ?_
    simp [unsupported_iff, namelessMacro_iff, shown, function]
  by_cases struct : n.kind = "struct_item"
  · have listed : itemFindings earlier n = n.structRecord.findings := by
      simp [itemFindings, Contribution.ofItem, Contribution.ofPublicItem, Noted.map, shown, struct]
    rw [listed]
    refine (structRecord_enumerates n).congr fun place f => ?_
    simp [unsupported_iff, namelessMacro_iff, shown, struct]
  by_cases enum : n.kind = "enum_item"
  · have listed : itemFindings earlier n = n.enumRecord.findings := by
      simp [itemFindings, Contribution.ofItem, Contribution.ofPublicItem, Noted.map, shown, enum]
    rw [listed]
    refine (enumRecord_enumerates n).congr fun place f => ?_
    simp [unsupported_iff, namelessMacro_iff, shown, enum]
  by_cases trait : n.kind = "trait_item"
  · have listed : itemFindings earlier n = n.traitRecord.findings := by
      simp [itemFindings, Contribution.ofItem, Contribution.ofPublicItem, Noted.map, shown, trait]
    rw [listed]
    refine (traitRecord_enumerates n).congr fun place f => ?_
    simp [unsupported_iff, namelessMacro_iff, shown, trait]
  have listed : itemFindings earlier n = [] := by
    unfold itemFindings
    split
    · rfl
    · by_cases const : n.kind = "const_item"
      · simp [Contribution.ofItem, Contribution.ofPublicItem, shown, const]
      · simp [Contribution.ofItem, Contribution.ofPublicItem, shown, other, const, function, struct,
          enum, trait]
  rw [listed]
  refine .nil fun place f unsupported => ?_
  simp [unsupported_iff, namelessMacro_iff, other, function, struct, enum, trait] at unsupported

/-- The findings that an item brings are its unsupported constructs. -/
theorem itemFindings_enumerates (earlier : List Node) (n : Node) :
    Enumerates (itemFindings earlier n) (Unsupported everything earlier n) := by
  by_cases statement : n.kind = "expression_statement"
  · exact statement_enumerates statement
  by_cases impl : n.kind = "impl_item"
  · exact impl_enumerates impl
  by_cases called : n.kind = "macro_definition" ∨ n.kind = "macro_invocation"
  · exact macro_enumerates called
  obtain ⟨definition, call⟩ := not_or.mp called
  by_cases shown : n.isPublic = true
  · exact declaration_enumerates shown (by simp [statement, impl, definition, call])
  · have listed : itemFindings earlier n = [] := by
      simp [itemFindings, Contribution.ofItem, Contribution.nothing, statement, impl, definition, call,
        shown]
    rw [listed]
    refine .nil fun place f unsupported => ?_
    simp [unsupported_iff, namelessMacro_iff, statement, impl, definition, call, shown] at unsupported

/-- The findings of items that follow others, item by item. -/
def findingsAfter (earlier : List Node) : List Node → List (List Finding)
  | [] => []
  | n :: rest => itemFindings earlier n :: findingsAfter (n :: earlier) rest

/-- The findings are listed item by item, each under the items before it. -/
theorem getElem?_findingsAfter (items : List Node) : ∀ (earlier : List Node) (i : Nat),
    (findingsAfter earlier items)[i]? =
      items[i]?.map (itemFindings ((items.take i).reverse ++ earlier)) := by
  induction items with
  | nil => intro earlier i; rfl
  | cons n items ih =>
    intro earlier i
    cases i with
    | zero => rfl
    | succ i =>
      rw [findingsAfter, List.getElem?_cons_succ, ih]
      simp

theorem contributions_entry (earlier : List Node) (n : Node) (rest : List Entry) :
    (contributions ((n.entry? earlier).toList ++ rest)).flatMap (·.findings) =
      itemFindings earlier n ++ (contributions rest).flatMap (·.findings) := by
  unfold itemFindings
  rw [entry?_eq]
  split
  · split
    · split <;> rfl
    · rfl
  · rfl

/-- The findings of a body are those of its items, in their order. -/
theorem contributions_entriesAfter (items : List Node) : ∀ earlier, (∀ n ∈ items, n.named = true) →
    (contributions (entriesAfter earlier items)).flatMap (·.findings) =
      (findingsAfter earlier items).flatten := by
  induction items with
  | nil => intro earlier _; rfl
  | cons n items ih =>
    intro earlier named
    rw [entriesAfter, if_pos (named n (List.mem_cons_self ..)), contributions_entry,
      ih (n :: earlier) fun m member => named m (List.mem_cons_of_mem n member)]
    rfl

/-- The findings of a module body are its unsupported constructs. -/
theorem outline_enumerates (body : Node) :
    Enumerates ((contributions body.outline).flatMap (·.findings))
      (UnsupportedIn everything body.namedChildren) := by
  have named : ∀ n ∈ body.namedChildren, n.named = true := fun n member => (List.mem_filter.mp member).2
  rw [outline_eq, contributions_entriesAfter _ _ named]
  have parts : ∀ (i : Nat) part, (findingsAfter [] body.namedChildren)[i]? = some part →
      Enumerates part fun rest f => ∃ item, body.namedChildren[i]? = some item ∧
        Unsupported everything (body.namedChildren.take i).reverse item rest f := by
    intro i part found
    rw [getElem?_findingsAfter, List.append_nil] at found
    obtain ⟨item, there, rfl⟩ := Option.map_eq_some_iff.mp found
    refine (itemFindings_enumerates _ item).congr fun rest f => ?_
    rw [there]
    simp
  refine (Enumerates.flattenFrom 0 parts).congr fun place f => ?_
  constructor
  · rintro ⟨i, rest, _, rfl, item, there, unsupported⟩
    exact ⟨i, item, rest, there, by rw [Nat.zero_add], unsupported⟩
  · rintro ⟨i, item, rest, there, rfl, unsupported⟩
    have found := getElem?_findingsAfter body.namedChildren [] i
    rw [there] at found
    exact ⟨i, rest, (List.getElem?_eq_some_iff.mp found).1, by rw [Nat.zero_add], item, there,
      unsupported⟩

end Items

end Node

end CrateSurface
