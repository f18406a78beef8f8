import CrateSurface.Proofs.FirstOccurrences
import CrateSurface.Proofs.ParameterLists
import CrateSurface.Proofs.RecordFilling

namespace CrateSurface

/-- The kinds of members of a trait body that are methods. -/
def methodKinds : List String :=
  ["function_item", "function_signature_item"]

/-- The kinds of nodes in a trait body that are no members of the trait. -/
def silentKinds : List String :=
  ["attribute_item", "inner_attribute_item", "line_comment", "block_comment", "empty_statement"]

/-- What a member of a trait body has to stand for. -/
inductive MemberRole (member : Node) : TraitMember → Prop
  | method : member.kind ∈ methodKinds → MemberRole member (.method member.signature)
  | associatedType : member.kind = "associated_type" →
      MemberRole member (.associatedType member.nameText)
  | unsupported : member.kind ∉ methodKinds → member.kind ≠ "associated_type" →
      member.kind ∉ silentKinds → MemberRole member (.unsupported ⟨.traitMember, member.render⟩)
  | nothing : member.kind ∈ silentKinds → MemberRole member .nothing

section Members

variable {member : Node} {names : List String}

theorem isSilent_iff :
    (member.isAttribute || member.isComment || member.kind == "empty_statement") = true ↔
      member.kind ∈ silentKinds := by
  simp [Node.isAttribute, Node.isComment, silentKinds]
  tauto

theorem isMethod_iff :
    (member.kind == "function_signature_item" || member.kind == "function_item") = true ↔
      member.kind ∈ methodKinds := by
  simp [methodKinds, or_comm]

/-- What the code makes of a member is the role of its node. -/
theorem MemberRole.ofNode (member : Node) : MemberRole member (TraitMember.ofNode member) := by
  unfold TraitMember.ofNode
  split
  · rename_i silent
    exact .nothing (isSilent_iff.mp silent)
  rename_i heard
  split
  · rename_i method
    exact .method (isMethod_iff.mp method)
  rename_i other
  split
  · rename_i kind
    exact .associatedType (beq_iff_eq.mp kind)
  · rename_i kind
    rw [isSilent_iff] at heard
    rw [isMethod_iff] at other
    exact .unsupported other (by simpa using kind) heard

/-- A member has one role in its trait. -/
theorem MemberRole.eq_ofNode {role : TraitMember} (stands : MemberRole member role) :
    role = TraitMember.ofNode member := by
  unfold TraitMember.ofNode
  cases stands with
  | method kind =>
    have heard : member.kind ∉ silentKinds := by
      rcases List.mem_pair.mp kind with kind | kind <;> simp [kind, silentKinds]
    rw [if_neg (by rwa [isSilent_iff]), if_pos (isMethod_iff.mpr kind)]
  | associatedType kind =>
    have heard : member.kind ∉ silentKinds := by simp [kind, silentKinds]
    have other : member.kind ∉ methodKinds := by simp [kind, methodKinds]
    rw [if_neg (by rwa [isSilent_iff]), if_neg (by rwa [isMethod_iff]), if_pos (beq_iff_eq.mpr kind)]
  | unsupported other named heard =>
    rw [if_neg (by rwa [isSilent_iff]), if_neg (by rwa [isMethod_iff]), if_neg (by simpa using named)]
  | nothing kind => rw [if_pos (isSilent_iff.mpr kind)]

end Members

section Names

/-- Names that are added to others one by one: those of the empty name or of one that is there
already are left out. -/
theorem foldl_addName (names others : List String) :
    others.foldl addName names =
      names ++ (others.filter fun name => name ≠ "" ∧ name ∉ names).eraseDups := by
  have adds : ∀ (done : List String) (name : String), addName done name =
      if (name != "") && !done.contains name then done ++ [name] else done := by
    intro done name
    by_cases empty : name = ""
    · simp [addName, empty]
    · by_cases known : name ∈ done <;> simp [addName, empty, known]
  rw [foldl_addNew adds]
  refine congrArg (fun kept : List String => names ++ kept.eraseDups) ?_
  refine List.filter_congr fun name _ => ?_
  rw [Bool.eq_iff_iff]
  simp

/-- A name that is added is there in the end. -/
theorem mem_foldl_addName {names others : List String} {name : String} (member : name ∈ others)
    (filled : name ≠ "") : name ∈ others.foldl addName names := by
  rw [foldl_addName, List.mem_append, List.mem_eraseDups, List.mem_filter, decide_eq_true_iff]
  by_cases known : name ∈ names
  · exact Or.inl known
  · exact Or.inr ⟨member, filled, known⟩

/-- Adding names does not repeat any. -/
theorem nodup_foldl_addName {names : List String} (distinct : names.Nodup) (others : List String) :
    (others.foldl addName names).Nodup := by
  rw [foldl_addName]
  refine List.nodup_append.mpr ⟨distinct, nodup_eraseDups _, ?_⟩
  rintro name known other new rfl
  rw [List.mem_eraseDups, List.mem_filter, decide_eq_true_iff] at new
  exact new.2.2 known

end Names

section Issues

variable {item param : Node} {owner : Owner} {ownerName : String}

theorem GenericRole.not_traitMember {entry : GenericParam} {finding : Finding}
    (role : GenericRole owner ownerName param entry) (found : entry.finding? = some finding) :
    finding.cause ≠ .traitMember := by
  cases role <;> cases found <;> simp

theorem ParamRole.not_traitMember {entry : Param} {finding : Finding} (role : ParamRole param entry)
    (found : entry.finding = some finding) : finding.cause ≠ .traitMember := by
  cases role <;> cases found <;> simp

theorem typeParams_not_traitMember {finding : Finding}
    (found : finding ∈ (typeParams owner ownerName item).findings) :
    finding.cause ≠ .traitMember := by
  rw [typeParams, ofList_generics] at found
  obtain ⟨entry, member, found⟩ := List.mem_filterMap.mp found
  obtain ⟨param, _, rfl⟩ := List.mem_map.mp member
  exact (GenericRole.ofNode owner ownerName param).not_traitMember found

theorem signature_not_traitMember {finding : Finding} (found : finding ∈ item.signature.findings) :
    finding.cause ≠ .traitMember := by
  rw [Node.signature, ofList_params] at found
  rcases List.mem_append.mp found with generic | listed
  · exact typeParams_not_traitMember generic
  · obtain ⟨entry, member, found⟩ := List.mem_filterMap.mp listed
    obtain ⟨param, _, rfl⟩ := List.mem_map.mp member
    exact (ParamRole.ofNode param).not_traitMember found

/-- A node in a trait body that has no place in the record. -/
def isMisplaced (member : Node) : Bool :=
  member.kind ∉ methodKinds ∧ member.kind ≠ "associated_type" ∧ member.kind ∉ silentKinds

/-- A member has one issue if it is misplaced in a trait, and none else. -/
theorem MemberRole.traitIssues {member : Node} {role : TraitMember} (stands : MemberRole member role) :
    role.findings.filter (fun f => f.cause = .traitMember) =
      if isMisplaced member then [⟨.traitMember, member.render⟩] else [] := by
  cases stands with
  | method kind =>
    rw [if_neg (by simp [isMisplaced, kind]), List.filter_eq_nil_iff]
    intro finding found
    simpa using signature_not_traitMember found
  | associatedType kind => simp [TraitMember.findings, isMisplaced, kind]
  | unsupported other named heard => simp [TraitMember.findings, isMisplaced, other, named, heard]
  | nothing kind => simp [TraitMember.findings, isMisplaced, kind]

end Issues

/-- A public trait contributes its record. -/
theorem ofItem_trait {earlier : List Node} {item : Node} (kind : item.kind = "trait_item")
    (shown : item.isPublic = true) :
    Contribution.ofItem earlier item = item.traitRecord.map (some ∘ .trait) := by
  simp [Contribution.ofItem, Contribution.ofPublicItem, kind, shown]

/-- Every member of a public trait goes to one place, which its kind determines: it is a method, an
associated type, an unsupported member with one issue of its own, or nothing. The methods keep their
order. The type parameters are the generic ones and then the names of the associated types that are
not empty and not among them, each where it occurs first; none is lost, and none is doubled unless a
generic parameter is. -/
theorem trait_members_placed {earlier : List Node} {item : Node} (kind : item.kind = "trait_item")
    (shown : item.isPublic = true) :
    (∀ member, ∃! role, MemberRole member role) ∧
    ∃ record entries roles,
      (Contribution.ofItem earlier item).value = some (.trait record) ∧
      List.Forall₂ (GenericRole .trait item.nameText) (item.listed "type_parameters") entries ∧
      List.Forall₂ MemberRole item.members roles ∧
      record.methods = roles.filterMap (·.method?) ∧
      (Contribution.ofItem earlier item).findings =
        entries.filterMap (·.finding?) ++ roles.flatMap (·.findings) ∧
      ((Contribution.ofItem earlier item).findings.filter fun f => f.cause = .traitMember) =
        (item.members.filter isMisplaced).map (fun member => ⟨.traitMember, member.render⟩) ∧
      record.typeParams = entries.filterMap (·.name?) ++
        ((roles.filterMap (·.associatedType?)).filter fun name =>
          name ≠ "" ∧ name ∉ entries.filterMap (·.name?)).eraseDups ∧
      (∀ name ∈ roles.filterMap (·.associatedType?), name ≠ "" → name ∈ record.typeParams) ∧
      ((entries.filterMap (·.name?)).Nodup → record.typeParams.Nodup) := by
  refine ⟨fun member => ⟨_, .ofNode member, fun role stands => stands.eq_ofNode⟩, ?_⟩
  have placed : ((item.members.map TraitMember.ofNode).flatMap (·.findings)).filter
        (fun f => f.cause = .traitMember) =
      (item.members.filter isMisplaced).map (fun member => ⟨.traitMember, member.render⟩) := by
    rw [List.flatMap_map, List.filter_flatMap, List.map_eq_flatMap, ← flatMap_if]
    exact congrArg (item.members.flatMap ·) (funext fun member => (MemberRole.ofNode member).traitIssues)
  -- The other issues of a trait are about its generic parameters and inside its methods.
  have generic : ((typeParams .trait item.nameText item).findings.filter
      fun f => f.cause = .traitMember) = [] := by
    rw [List.filter_eq_nil_iff]
    intro finding found
    simpa using typeParams_not_traitMember found
  rw [ofItem_trait kind shown]
  refine ⟨item.traitRecord.value,
    (item.listed "type_parameters").map (GenericParam.ofNode .trait item.nameText),
    item.members.map TraitMember.ofNode, rfl, ?_, ?_, rfl, ?_, ?_, ?_, ?_, ?_⟩
  · rw [List.forall₂_map_right_iff, List.forall₂_same]
    exact fun param _ => .ofNode .trait item.nameText param
  · rw [List.forall₂_map_right_iff, List.forall₂_same]
    exact fun member _ => .ofNode member
  · rw [← ofList_generics]
    rfl
  · rw [← placed, ← List.nil_append (List.filter _ (List.flatMap _ _)), ← generic, ← List.filter_append]
    rfl
  · rw [← ofList_generics]
    exact foldl_addName _ _
  · intro name member filled
    exact mem_foldl_addName member filled
  · intro distinct
    rw [← ofList_generics] at distinct
    exact nodup_foldl_addName distinct _

/-- A public trait with the generic parameter `A`. Its members are the associated types `B`, `A` and
again `B`, a method, a constant and the empty statement that follows a macro call. -/
def shadowingTrait : Node :=
  .branch "trait_item" none [.leaf "visibility_modifier" "pub", .nameLeaf "Shadowing",
    .branch "type_parameters" (some "type_parameters") [.branch "type_parameter" none [.nameLeaf "A"]],
    .branch "declaration_list" (some "body")
      [.branch "associated_type" none [.nameLeaf "B"], .branch "associated_type" none [.nameLeaf "A"],
        .branch "function_signature_item" none [.nameLeaf "f"],
        .leaf "const_item" "const N: u8;", .branch "associated_type" none [.nameLeaf "B"],
        .leaf "empty_statement" ";"]]

/-- The associated type that shadows a parameter and the repeated one are listed once. -/
theorem shadowing_trait_members :
    ∃ record, (Contribution.ofItem [] shadowingTrait).value = some (.trait record) ∧
      record.typeParams = ["A", "B"] ∧ record.methods.map (·.name) = ["f"] ∧
      ((Contribution.ofItem [] shadowingTrait).findings.filter fun f => f.cause = .traitMember) =
        [⟨.traitMember, "const N: u8;"⟩] := by
  obtain ⟨_, record, _, _, made, _, _, _, _, issues, _⟩ :=
    @trait_members_placed [] shadowingTrait rfl rfl
  refine ⟨record, made, ?_⟩
  have own : record = shadowingTrait.traitRecord.value := by
    rw [ofItem_trait rfl rfl] at made
    cases made
    rfl
  rw [issues, own]
  decide +kernel

end CrateSurface
