import CrateSurface.Proofs.IssueCensus
import Mathlib.Data.List.Forall2

namespace CrateSurface

namespace Node

/-- The named children of the list that plays a role in an item, if it has one. -/
def listed (item : Node) (role : String) : List Node :=
  ((item.childByField? role).map namedChildren).getD []

/-- A generic parameter declares a type under the name that a node holds. The grammar has several
shapes for one, and a bound or a default may stand around the name. -/
inductive DeclaresType (param : Node) : Node → Prop
  | bare : param.kind = "type_identifier" → DeclaresType param param
  | named {name : Node} : param.kind = "type_parameter" → param.childByField? "name" = some name →
      DeclaresType param name
  | unlabelled {name : Node} : param.kind = "type_parameter" → param.childByField? "name" = none →
      (param.namedChildren.find? fun child => child.kind == "type_identifier") = some name →
      DeclaresType param name
  | constrained {name : Node} : param.kind = "constrained_type_parameter" →
      param.childByField? "left" = some name → DeclaresType param name
  | optional {name : Node} : param.kind = "optional_type_parameter" →
      param.childByField? "name" = some name → name.kind ≠ "constrained_type_parameter" →
      DeclaresType param name
  | optionalConstrained {inner name : Node} : param.kind = "optional_type_parameter" →
      param.childByField? "name" = some inner → inner.kind = "constrained_type_parameter" →
      inner.childByField? "left" = some name → DeclaresType param name

/-- A pattern binds a plain name: it is the name, possibly under `mut` and `ref` wrappers that hold,
besides mutability markers, one pattern each. -/
inductive Binds : Node → String → Prop
  | identifier {n : Node} : n.kind = "identifier" → Binds n n.textOrEmpty
  | wrapped {n inner : Node} {name : String} : n.kind = "mut_pattern" ∨ n.kind = "ref_pattern" →
      (n.namedChildren.filter fun child => child.kind != "mutable_specifier") = [inner] →
      Binds inner name → Binds n name

/-- The way a `self` parameter takes its receiver, by its `&` and `mut` tokens. -/
inductive Receives (param : Node) : Receiver → Prop
  | byValue : (∀ child ∈ param.children, child.kind ≠ "&") → Receives param .byValue
  | byRef : (∃ child ∈ param.children, child.kind = "&") →
      (∀ child ∈ param.children, child.kind ≠ "mutable_specifier") → Receives param .byRef
  | byMutRef : (∃ child ∈ param.children, child.kind = "&") →
      (∃ child ∈ param.children, child.kind = "mutable_specifier") → Receives param .byMutRef

end Node

/-- What an entry of a generic parameter list has to stand for. -/
inductive GenericRole (owner : Owner) (ownerName : String) (param : Node) : GenericParam → Prop
  | lifetime : param.IsLifetime →
      GenericRole owner ownerName param
        (.dropped ⟨.lifetimeParameter owner ownerName, param.render⟩)
  | const : param.kind = "const_parameter" →
      GenericRole owner ownerName param (.dropped ⟨.constParameter owner ownerName, param.render⟩)
  | type {name : Node} : ¬ param.IsLifetime → param.DeclaresType name → name.textOrEmpty ≠ "" →
      GenericRole owner ownerName param (.kept name.textOrEmpty)
  | other : ¬ param.IsLifetime → param.kind ≠ "const_parameter" →
      (∀ name, param.DeclaresType name → name.textOrEmpty = "") →
      GenericRole owner ownerName param .nothing

/-- What an entry of a parameter list has to stand for. -/
inductive ParamRole (param : Node) : Param → Prop
  | receiver {receiver : Receiver} : param.kind = "self_parameter" → param.Receives receiver →
      ParamRole param ⟨⟨receiver.text, "self"⟩, none⟩
  | typedReceiver {pattern : Node} : param.kind = "parameter" →
      param.childByField? "pattern" = some pattern → pattern.kind = "self" →
      ParamRole param ⟨⟨"self", "self"⟩, none⟩
  | bound {pattern : Node} {name : String} : param.kind = "parameter" →
      param.childByField? "pattern" = some pattern → pattern.Binds name →
      ParamRole param ⟨⟨name, Node.renderOption (param.childByField? "type")⟩, none⟩
  | unbound : param.kind = "parameter" →
      (∀ pattern, param.childByField? "pattern" = some pattern →
        pattern.kind ≠ "self" ∧ ∀ name, ¬ pattern.Binds name) →
      ParamRole param ⟨⟨"unsupported", Node.renderOption (param.childByField? "type")⟩,
        some ⟨.parameterPattern, Node.renderOption (param.childByField? "pattern")⟩⟩
  | bareType : param.kind ≠ "self_parameter" → param.kind ≠ "parameter" →
      ParamRole param ⟨⟨"unsupported", param.render⟩, some ⟨.parameterPattern, param.render⟩⟩

section Generics

variable {param : Node} {owner : Owner} {ownerName : String}

theorem declaresType_of_typeParamName? {name : Node} (found : param.typeParamName? = some name) :
    param.DeclaresType name := by
  unfold Node.typeParamName? at found
  split at found
  · rename_i bare
    cases found
    exact .bare (beq_iff_eq.mp bare)
  split at found
  · rename_i kind
    cases labelled : param.childByField? "name" with
    | some label =>
      rw [labelled] at found
      cases found
      exact .named (beq_iff_eq.mp kind) labelled
    | none =>
      rw [labelled] at found
      exact .unlabelled (beq_iff_eq.mp kind) labelled found
  split at found
  · rename_i kind
    exact .constrained (beq_iff_eq.mp kind) found
  split at found
  · rename_i kind
    split at found
    · rename_i label labelled
      split at found
      · rename_i constrained
        exact .optionalConstrained (beq_iff_eq.mp kind) labelled (beq_iff_eq.mp constrained) found
      · rename_i plain
        cases found
        exact .optional (beq_iff_eq.mp kind) labelled (by simpa using plain)
    · cases found
  · cases found

theorem typeParamName?_eq_some_iff {name : Node} :
    param.typeParamName? = some name ↔ param.DeclaresType name := by
  refine ⟨declaresType_of_typeParamName?, ?_⟩
  intro declares
  unfold Node.typeParamName?
  cases declares with
  | bare kind => simp [kind]
  | named kind labelled => simp [kind, labelled]
  | unlabelled kind missing first => simp [kind, missing, first]
  | constrained kind left => simp [kind, left]
  | optional kind labelled plain => simp [kind, labelled, plain]
  | optionalConstrained kind labelled constrained left =>
    simp [kind, labelled, constrained, left]

/-- What the code makes of a generic parameter is the role of its node. -/
theorem GenericRole.ofNode (owner : Owner) (ownerName : String) (param : Node) :
    GenericRole owner ownerName param (GenericParam.ofNode owner ownerName param) := by
  unfold GenericParam.ofNode
  split
  · rename_i lifetime
    exact .lifetime (Node.isLifetimeParam_iff.mp lifetime)
  rename_i bounded
  rw [Node.isLifetimeParam_iff] at bounded
  split
  · rename_i const
    exact .const (beq_iff_eq.mp const)
  rename_i const
  cases found : param.typeParamName? with
  | none =>
    refine .other bounded (by simpa using const) ?_
    intro name declares
    rw [typeParamName?_eq_some_iff.mpr declares] at found
    cases found
  | some name =>
    dsimp only
    split
    · rename_i empty
      refine .other bounded (by simpa using const) ?_
      intro other declares
      rw [typeParamName?_eq_some_iff.mpr declares] at found
      cases found
      exact beq_iff_eq.mp empty
    · rename_i filled
      exact .type bounded (typeParamName?_eq_some_iff.mp found) (by simpa using filled)

/-- A constant parameter declares no type. -/
theorem Node.DeclaresType.kind_ne_const {name : Node} (declares : param.DeclaresType name) :
    param.kind ≠ "const_parameter" := by
  intro const
  cases declares <;> simp_all

/-- A node has one generic role, so the relation says what the code makes of it. -/
theorem GenericRole.eq_ofNode {entry : GenericParam} (role : GenericRole owner ownerName param entry) :
    entry = GenericParam.ofNode owner ownerName param := by
  unfold GenericParam.ofNode
  cases role with
  | lifetime lifetime => rw [if_pos (Node.isLifetimeParam_iff.mpr lifetime)]
  | const kind => simp [Node.isLifetimeParam, kind]
  | type bounded declares filled =>
    rw [← Node.isLifetimeParam_iff] at bounded
    have const := declares.kind_ne_const
    rw [if_neg bounded, if_neg (by simpa using const), typeParamName?_eq_some_iff.mpr declares]
    simp [filled]
  | other bounded const unnamed =>
    rw [← Node.isLifetimeParam_iff] at bounded
    rw [if_neg bounded, if_neg (by simpa using const)]
    cases found : param.typeParamName? with
    | none => rfl
    | some name => simp [unnamed name (typeParamName?_eq_some_iff.mp found)]

end Generics

section Params

variable {param : Node}

/-- A pattern has a name if and only if it is that of a single binding. -/
theorem bindingName?_eq_some_iff {pattern : Node} {name : String} :
    pattern.bindingName? = some name ↔ pattern.Binds name := by
  constructor
  · intro bound
    induction size : pattern.size using Nat.strongRecOn generalizing pattern with
    | ind size ih =>
      subst size
      rw [Node.bindingName?_eq] at bound
      split at bound
      · rename_i wrapper
        split at bound
        · rename_i inner only
          have among : inner ∈ pattern.namedChildren.filter fun child =>
              child.kind != "mutable_specifier" := by
            rw [only]
            exact List.mem_singleton_self inner
          have smaller := Node.size_lt_of_mem_children
            (Node.mem_children_of_mem_namedChildren (List.mem_filter.mp among).1)
          exact .wrapped (Node.isBindingWrapper_iff.mp wrapper) only (ih _ smaller bound rfl)
        · cases bound
      · split at bound
        · rename_i kind
          cases bound
          exact .identifier (beq_iff_eq.mp kind)
        · cases bound
  · intro binds
    induction binds with
    | identifier kind => simp [Node.bindingName?_eq, Node.isBindingWrapper, kind]
    | wrapped wrapper only _ ih =>
      rw [Node.bindingName?_eq, if_pos (Node.isBindingWrapper_iff.mpr wrapper), only]
      exact ih

theorem childOfKind?_isSome_iff {kind : String} :
    (param.childOfKind? kind).isSome = true ↔ ∃ child ∈ param.children, child.kind = kind := by
  simp [Node.childOfKind?, List.find?_isSome]

theorem Node.Receives.ofNode (param : Node) : param.Receives (Receiver.ofNode param) := by
  unfold Receiver.ofNode
  split
  · rename_i borrowed
    rw [childOfKind?_isSome_iff] at borrowed
    split
    · rename_i mutable
      exact .byMutRef borrowed (childOfKind?_isSome_iff.mp mutable)
    · rename_i shared
      rw [childOfKind?_isSome_iff] at shared
      exact .byRef borrowed fun child member kind => shared ⟨child, member, kind⟩
  · rename_i owned
    rw [childOfKind?_isSome_iff] at owned
    exact .byValue fun child member kind => owned ⟨child, member, kind⟩

theorem Node.Receives.eq_ofNode {receiver : Receiver} (receives : param.Receives receiver) :
    receiver = Receiver.ofNode param := by
  unfold Receiver.ofNode
  cases receives with
  | byValue owned =>
    have absent : ¬ (param.childOfKind? "&").isSome = true := by
      rw [childOfKind?_isSome_iff]
      rintro ⟨child, member, kind⟩
      exact owned child member kind
    rw [if_neg absent]
  | byRef borrowed shared =>
    have absent : ¬ (param.childOfKind? "mutable_specifier").isSome = true := by
      rw [childOfKind?_isSome_iff]
      rintro ⟨child, member, kind⟩
      exact shared child member kind
    rw [if_pos (childOfKind?_isSome_iff.mpr borrowed), if_neg absent]
  | byMutRef borrowed mutable =>
    rw [if_pos (childOfKind?_isSome_iff.mpr borrowed), if_pos (childOfKind?_isSome_iff.mpr mutable)]

theorem ParamRole.ofPattern (kind : param.kind = "parameter") :
    ParamRole param (Param.ofPattern param) := by
  unfold Param.ofPattern
  dsimp only
  split
  · rename_i self
    obtain ⟨pattern, found, self⟩ := (Option.any_eq_true _ _).mp self
    exact .typedReceiver kind found (beq_iff_eq.mp self)
  · rename_i other
    cases bound : (param.childByField? "pattern").bind (·.bindingName?) with
    | some name =>
      obtain ⟨pattern, found, named⟩ := Option.bind_eq_some_iff.mp bound
      exact .bound kind found (bindingName?_eq_some_iff.mp named)
    | none =>
      refine .unbound kind ?_
      intro pattern found
      rw [found] at other bound
      refine ⟨by simpa using other, ?_⟩
      intro name binds
      rw [Option.bind_some, bindingName?_eq_some_iff.mpr binds] at bound
      cases bound

/-- What the code makes of a parameter is the role of its node. -/
theorem ParamRole.ofNode (param : Node) : ParamRole param (Param.ofNode param) := by
  unfold Param.ofNode
  split
  · rename_i kind
    exact .receiver (beq_iff_eq.mp kind) (.ofNode param)
  rename_i method
  split
  · rename_i kind
    exact .ofPattern (beq_iff_eq.mp kind)
  · rename_i typed
    exact .bareType (by simpa using method) (by simpa using typed)

theorem Node.Binds.kind_ne_self {pattern : Node} {name : String} (binds : pattern.Binds name) :
    pattern.kind ≠ "self" := by
  intro self
  cases binds <;> simp_all

/-- A node has one role among the parameters. -/
theorem ParamRole.eq_ofNode {entry : Param} (role : ParamRole param entry) :
    entry = Param.ofNode param := by
  unfold Param.ofNode
  cases role with
  | receiver kind receives =>
    rw [receives.eq_ofNode]
    simp [kind, Receiver.field]
  | typedReceiver kind found self =>
    simp [Param.ofPattern, kind, found, self, Receiver.field, Receiver.text]
  | @bound pattern name kind found binds =>
    have named := bindingName?_eq_some_iff.mpr binds
    simp [Param.ofPattern, Param.ofBinding, kind, found, named, binds.kind_ne_self]
  | unbound kind free =>
    unfold Param.ofPattern
    cases found : param.childByField? "pattern" with
    | none => simp [kind, Param.ofBinding]
    | some pattern =>
      obtain ⟨other, unnamed⟩ := free pattern found
      have nameless : pattern.bindingName? = none := by
        refine Option.eq_none_iff_forall_ne_some.mpr ?_
        intro name named
        exact unnamed name (bindingName?_eq_some_iff.mp named)
      simp [kind, other, nameless, Param.ofBinding]
  | bareType method typed => simp [method, typed, Param.ofBinding]

end Params

/-- The kinds of children of a parameter list that are no parameters. -/
def unlistedKinds : List String :=
  ["attribute_item", "inner_attribute_item", "line_comment", "block_comment", "variadic_parameter"]

theorem isListed_eq (child : Node) : Param.isListed child = decide (child.kind ∉ unlistedKinds) := by
  rw [Bool.eq_iff_iff, decide_eq_true_iff]
  simp [Param.isListed, Node.isAttribute, Node.isComment, unlistedKinds]
  tauto

/-- The generic parameters of an item are made from its listed children, in their order. -/
theorem ofList_generics (owner : Owner) (ownerName : String) (item : Node) :
    GenericParam.ofList owner ownerName (item.childByField? "type_parameters") =
      (item.listed "type_parameters").map (GenericParam.ofNode owner ownerName) := by
  unfold Node.listed
  cases item.childByField? "type_parameters" <;> rfl

/-- The parameters of a function are made from its listed children, without marks and comments. -/
theorem ofList_params (item : Node) :
    Param.ofList (item.childByField? "parameters") =
      ((item.listed "parameters").filter fun child => child.kind ∉ unlistedKinds).map Param.ofNode := by
  unfold Node.listed
  cases item.childByField? "parameters" with
  | none => rfl
  | some list =>
    refine congrArg (List.map Param.ofNode) ?_
    exact List.filter_congr fun child _ => isListed_eq child

/-- The entries of a signature are those of its lists, one for each child in the order of the children:
none is lost, doubled or moved. A child of the generic parameter list gives a name or a finding or
neither, a child of the parameter list that is a parameter gives a field, with a finding if and only if
it has no plain name. Which of these it gives is determined by the child. -/
theorem signature_aligned (item : Node) :
    (∀ owner ownerName, ∃ entries,
      List.Forall₂ (GenericRole owner ownerName) (item.listed "type_parameters") entries ∧
      (typeParams owner ownerName item).value = entries.filterMap (·.name?) ∧
      (typeParams owner ownerName item).findings = entries.filterMap (·.finding?)) ∧
    (∃ entries,
      List.Forall₂ ParamRole
        ((item.listed "parameters").filter fun child => child.kind ∉ unlistedKinds) entries ∧
      item.signature.value =
        ⟨item.nameText, (typeParams .function item.nameText item).value, entries.map (·.field),
          Node.renderReturn (item.childByField? "return_type")⟩ ∧
      item.signature.findings =
        (typeParams .function item.nameText item).findings ++ entries.filterMap (·.finding)) ∧
    (∀ owner ownerName param, ∃! entry, GenericRole owner ownerName param entry) ∧
    ∀ param, ∃! entry, ParamRole param entry := by
  refine ⟨?_, ?_, ?_, ?_⟩
  · intro owner ownerName
    refine ⟨(item.listed "type_parameters").map (GenericParam.ofNode owner ownerName), ?_, ?_⟩
    · rw [List.forall₂_map_right_iff, List.forall₂_same]
      exact fun param _ => .ofNode owner ownerName param
    · rw [typeParams, ofList_generics]
      exact ⟨rfl, rfl⟩
  · refine ⟨((item.listed "parameters").filter fun child => child.kind ∉ unlistedKinds).map
      Param.ofNode, ?_, ?_⟩
    · rw [List.forall₂_map_right_iff, List.forall₂_same]
      exact fun param _ => .ofNode param
    · rw [Node.signature, ofList_params]
      exact ⟨rfl, rfl⟩
  · intro owner ownerName param
    exact ⟨_, .ofNode owner ownerName param, fun entry role => role.eq_ofNode⟩
  · intro param
    exact ⟨_, .ofNode param, fun entry role => role.eq_ofNode⟩

/-- A method with the parameters `&self`, a comment, `mut n: u8`, a pattern `_` and `...`. -/
def mixedMethod : Node :=
  .branch "function_item" none [.nameLeaf "f",
    .branch "parameters" (some "parameters")
      [.branch "self_parameter" none [.token "&", .leaf "self" "self"],
        .leaf "block_comment" "/* size */",
        .branch "parameter" none
          [.branch "mut_pattern" (some "pattern")
              [.leaf "mutable_specifier" "mut", .leaf "identifier" "n"],
            { Node.leaf "primitive_type" "u8" with field := some "type" }],
        .branch "parameter" none
          [{ Node.leaf "_" "_" with field := some "pattern" },
            { Node.leaf "primitive_type" "u8" with field := some "type" }],
        .leaf "variadic_parameter" "..."]]

example : mixedMethod.signature.value.params = [⟨"&self", "self"⟩, ⟨"n", "u8"⟩, ⟨"unsupported", "u8"⟩] ∧
    mixedMethod.signature.findings = [⟨.parameterPattern, "_"⟩] := by
  decide +kernel

end CrateSurface
