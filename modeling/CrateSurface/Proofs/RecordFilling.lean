import CrateSurface.Surface.Outline
import Mathlib.Data.List.Basic

namespace CrateSurface

namespace Module

/-- The record of a module in which nothing was found yet. -/
def blank (file : String) (parts : List String) : Module String :=
  ⟨file, parts, [], [], [], [], [], [], []⟩

/-- A record with the entries of another one after its own, list by list. -/
def append (m other : Module String) : Module String where
  file := m.file
  parts := m.parts
  consts := m.consts ++ other.consts
  enums := m.enums ++ other.enums
  structs := m.structs ++ other.structs
  traits := m.traits ++ other.traits
  functions := m.functions ++ other.functions
  pendingMethods := m.pendingMethods ++ other.pendingMethods
  issues := m.issues ++ other.issues

/-- A record with more findings, made in its own file. -/
def reporting (m : Module String) (findings : List Finding) : Module String :=
  { m with issues := m.issues ++ findings.map (Finding.issue m.file) }

/-- A record with one more declaration in its list. -/
def declaring (m : Module String) : Declaration → Module String
  | .const x => { m with consts := m.consts ++ [x] }
  | .enum x => { m with enums := m.enums ++ [x] }
  | .struct x => { m with structs := m.structs ++ [x] }
  | .trait x => { m with traits := m.traits ++ [x] }
  | .function x => { m with functions := m.functions ++ [x] }
  | .methods x => { m with pendingMethods := m.pendingMethods ++ [x] }

variable (m : Module String) (findings others : List Finding)

theorem reporting_nil : m.reporting [] = m := by
  simp [reporting]

/-- Findings that are reported twice in a row are reported together. -/
theorem reporting_reporting :
    (m.reporting findings).reporting others = m.reporting (findings ++ others) := by
  simp [reporting]

/-- A declaration and a report do not disturb each other. -/
theorem declaring_reporting (d : Declaration) :
    (m.reporting findings).declaring d = (m.declaring d).reporting findings := by
  cases d <;> rfl

end Module

/-- A step of the extraction that works on the record of a module in place: it gives a value and
leaves the record changed. -/
abbrev Filling := StateM (Module String)

namespace Filling

/-- Adds an issue. -/
def report (cause : Cause) (snippet : String) : Filling Unit :=
  modify fun m => { m with issues := m.issues ++ [Finding.issue m.file ⟨cause, snippet⟩] }

/-- Goes through nodes in order and keeps the values that are there. -/
def gather {α : Type} (step : Node → Filling (Option α)) : List Node → Filling (List α)
  | [] => pure []
  | n :: rest => do
    let value ← step n
    let values ← gather step rest
    return value.toList ++ values

/-- The name of a type parameter; any other but a lifetime is an issue. -/
def typeParam (owner : Owner) (ownerName : String) (param : Node) : Filling (Option String) :=
  if param.isLifetimeParam then do
    report (.lifetimeParameter owner ownerName) param.render
    return none
  else if param.kind == "const_parameter" then do
    report (.constParameter owner ownerName) param.render
    return none
  else
    match param.typeParamName? with
    | some name => return if name.textOrEmpty == "" then none else some name.textOrEmpty
    | none => return none

/-- The names of the type parameters of an item. -/
def typeParams (owner : Owner) (ownerName : String) (item : Node) : Filling (List String) :=
  match item.childByField? "type_parameters" with
  | none => return []
  | some list => gather (typeParam owner ownerName) list.namedChildren

/-- The slot of a parameter. One without a plain name is reported with the given text. -/
def slot (name : Option String) (type snippet : String) : Filling (Field String) :=
  match name with
  | some name => return ⟨name, type⟩
  | none => do
    report .parameterPattern snippet
    return ⟨"unsupported", type⟩

/-- One child of a list of parameters, if it is listed. -/
def param (child : Node) : Filling (Option (Field String)) :=
  if child.isAttribute || child.isComment || child.kind == "variadic_parameter" then return none
  else if child.kind == "self_parameter" then return some (Receiver.ofNode child).field
  else if child.kind == "parameter" then
    let pattern := child.childByField? "pattern"
    if pattern.any fun p => p.kind == "self" then return some Receiver.byValue.field
    else
      some <$> slot (pattern.bind (·.bindingName?)) (Node.renderOption (child.childByField? "type"))
        (Node.renderOption pattern)
  else some <$> slot none child.render child.render

/-- All parameters of a list, which may be missing. -/
def params (list : Option Node) : Filling (List (Field String)) :=
  match list with
  | none => return []
  | some list => gather param list.namedChildren

/-- A function without its body. -/
def signature (item : Node) : Filling (Function String) := do
  let generics ← typeParams .function item.nameText item
  let fields ← params (item.childByField? "parameters")
  return ⟨item.nameText, generics, fields, Node.renderReturn (item.childByField? "return_type")⟩

/-- A struct with its public fields. -/
def structRecord (item : Node) : Filling (Struct String) := do
  let generics ← typeParams .struct item.nameText item
  match item.childOfKind? "field_declaration_list" with
  | some body => return ⟨item.nameText, generics, body.publicFields⟩
  | none =>
    if (item.childOfKind? "ordered_field_declaration_list").isSome then
      report .tupleStruct item.nameText
    return ⟨item.nameText, generics, []⟩

/-- The name of a variant; its payload is an issue. -/
def variant (child : Node) : Filling (Option String) :=
  if child.kind == "enum_variant" then do
    if child.hasPayload then report .variantPayload child.nameText
    return some child.nameText
  else return none

/-- An enum with the names of its variants. -/
def enumRecord (item : Node) : Filling (Enum String) := do
  let generics ← typeParams .enum item.nameText item
  let variants ← gather variant item.members
  return ⟨item.nameText, generics, variants⟩

/-- What a trait has so far: its type parameters, with the associated types, and its methods. -/
abbrev TraitSoFar := List String × List (Function String)

/-- One member of a trait, behind those before it. -/
def traitMember (soFar : TraitSoFar) (member : Node) : Filling TraitSoFar :=
  if member.isAttribute || member.isComment || member.kind == "empty_statement" then return soFar
  else if member.kind == "function_signature_item" || member.kind == "function_item" then do
    let method ← signature member
    return (soFar.1, soFar.2 ++ [method])
  else if member.kind == "associated_type" then return (addName soFar.1 member.nameText, soFar.2)
  else do
    report .traitMember member.render
    return soFar

/-- A trait with its associated types and its methods. -/
def traitRecord (item : Node) : Filling (Trait String) := do
  let generics ← typeParams .trait item.nameText item
  let (names, methods) ← item.members.foldlM traitMember (generics, [])
  return ⟨item.nameText, names, Node.renderBounds (item.childByField? "bounds"), methods⟩

/-- One member of an implementation, if it is a public method. -/
def publicMethod (member : Node) : Filling (Option (Function String)) :=
  if member.kind == "function_item" && member.isPublic then some <$> signature member
  else return none

/-- The public methods of an implementation, if the type has a name. -/
def methodGroup? (item : Node) : Filling (Option (MethodGroup String)) :=
  if (item.childByField? "trait").isSome then return none
  else
    match (item.childByField? "type").bind (·.nominalName?) with
    | none => do
      report .implTarget (Node.renderOption (item.childByField? "type"))
      return none
    | some target => do
      let methods ← gather publicMethod item.members
      return if methods.isEmpty then none else some ⟨target, methods⟩

/-- Adds a declaration. -/
def declare (d : Declaration) : Filling Unit :=
  modify fun m => m.declaring d

/-- A macro under an export mark. -/
def exportedMacro (node : Node) : Filling Unit :=
  let name := if node.kind == "macro_definition" then node.nameText else ""
  if name == "" then report .namelessMacro node.render
  else declare (.function (macroStub name))

/-- A public item, by its kind. -/
def publicItem (item : Node) : Filling Unit :=
  if item.kind == "const_item" then declare (.const item.slot)
  else if item.kind == "function_item" then do declare (.function (← signature item))
  else if item.kind == "struct_item" then do declare (.struct (← structRecord item))
  else if item.kind == "enum_item" then do declare (.enum (← enumRecord item))
  else if item.kind == "trait_item" then do declare (.trait (← traitRecord item))
  else return ()

/-- Adds an item to the record of its module, given its earlier siblings, nearest first. -/
def classify (earlier : List Node) (item : Node) : Filling Unit :=
  if item.kind == "expression_statement" then
    match item.namedChildren with
    | [inner] =>
      if inner.kind == "macro_invocation" && Node.isExported earlier then exportedMacro inner
      else return ()
    | _ => return ()
  else if item.kind == "impl_item" then do
    match ← methodGroup? item with
    | some group => declare (.methods group)
    | none => return ()
  else if item.kind == "macro_definition" || item.kind == "macro_invocation" then
    if Node.isExported earlier then exportedMacro item else return ()
  else if item.isPublic then publicItem item
  else return ()

/-- Adds the items of a body one after the other. Modules have records of their own. -/
def classifyAll (earlier : List Node) : List Node → Filling Unit
  | [] => return ()
  | item :: rest => do
    unless item.kind == "mod_item" do classify earlier item
    classifyAll (item :: earlier) rest

end Filling

theorem flatMap_if {α β : Type} (listed : α → Bool) (f : α → List β) (xs : List α) :
    (xs.flatMap fun x => if listed x then f x else []) = (xs.filter listed).flatMap f := by
  induction xs with
  | nil => rfl
  | cons x rest ih => cases shown : listed x <;> simp [List.flatMap_cons, shown, ih]

/-- A step gives a value and, whatever record it works on, only adds findings to it. -/
structure Fills {α : Type} (step : Filling α) (value : α) (findings : List Finding) : Prop where
  run : ∀ m, step.run m = (value, m.reporting findings)

namespace Fills

variable {α β : Type} {step : Filling α} {value : α} {findings : List Finding}

theorem pure (value : α) : Fills (Pure.pure value) value [] where
  run m := by
    rw [m.reporting_nil]
    rfl

theorem report (cause : Cause) (snippet : String) :
    Fills (Filling.report cause snippet) () [⟨cause, snippet⟩] where
  run _ := rfl

theorem congr {other : α} {others : List Finding} (fills : Fills step value findings)
    (same : value = other) (listed : findings = others) : Fills step other others :=
  same ▸ listed ▸ fills

/-- Findings of steps that follow one another are put together in the order of the steps. -/
theorem bind {next : α → Filling β} {result : β} {later : List Finding}
    (first : Fills step value findings) (second : Fills (next value) result later) :
    Fills (step >>= next) result (findings ++ later) where
  run m := by
    rw [StateT.run_bind, first.run m]
    exact (second.run (m.reporting findings)).trans (by rw [m.reporting_reporting])

/-- What is made of the value of a step changes no findings. -/
theorem bindPure (f : α → β) (fills : Fills step value findings) :
    Fills (do return f (← step)) (f value) findings :=
  (fills.bind (pure (f value))).congr rfl (List.append_nil findings)

theorem map (f : α → β) (fills : Fills step value findings) :
    Fills (f <$> step) (f value) findings where
  run m := by
    rw [StateT.run_map, fills.run m]
    rfl

/-- A report that is made under a condition, before a value. -/
theorem reportIf (condition : Bool) (cause : Cause) (snippet : String) (value : α) :
    Fills (do
      if condition then Filling.report cause snippet
      return value) value (if condition then [⟨cause, snippet⟩] else []) := by
  cases condition with
  | true => exact (report cause snippet).bind (pure value)
  | false => exact pure value

/-- Steps over nodes, one after the other, find what each of them finds. -/
theorem gather {step : Node → Filling (Option β)} {found : Node → Option β}
    {noticed : Node → List Finding} (each : ∀ n, Fills (step n) (found n) (noticed n))
    (nodes : List Node) :
    Fills (Filling.gather step nodes) (nodes.filterMap found) (nodes.flatMap noticed) := by
  induction nodes with
  | nil => exact pure []
  | cons n rest ih =>
    refine congr (bind (each n) (bindPure ((found n).toList ++ ·) ih)) ?_ rfl
    cases here : found n <;> simp [here]

/-- A loop that passes over some of the nodes. -/
theorem gatherListed {step : Node → Filling (Option β)} {listed : Node → Bool} {found : Node → β}
    {noticed : Node → List Finding}
    (each : ∀ n, Fills (step n) (if listed n then some (found n) else none)
      (if listed n then noticed n else [])) (nodes : List Node) :
    Fills (Filling.gather step nodes) ((nodes.filter listed).map found)
      ((nodes.filter listed).flatMap noticed) := by
  refine (gather each nodes).congr ?_ ?_
  · rw [← List.filterMap_eq_map, List.filterMap_filter]
    rfl
  · exact flatMap_if listed noticed nodes

/-- A loop that carries a value from round to round. -/
theorem foldlM {step : α → Node → Filling α} {after : α → Node → α}
    {noticed : Node → List Finding}
    (each : ∀ value n, Fills (step value n) (after value n) (noticed n)) (nodes : List Node) :
    ∀ value, Fills (nodes.foldlM step value) (nodes.foldl after value) (nodes.flatMap noticed) := by
  induction nodes with
  | nil => exact pure
  | cons n rest ih =>
    intro value
    rw [List.foldlM_cons]
    exact bind (each value n) (ih (after value n))

end Fills

section Handlers

variable (item : Node)

theorem typeParam_fills (owner : Owner) (ownerName : String) (param : Node) :
    Fills (Filling.typeParam owner ownerName param) (GenericParam.ofNode owner ownerName param).name?
      (GenericParam.ofNode owner ownerName param).finding?.toList := by
  unfold Filling.typeParam GenericParam.ofNode
  split
  · exact (Fills.report ..).bindPure _
  · split
    · exact (Fills.report ..).bindPure _
    · cases param.typeParamName? with
      | none => exact .pure none
      | some name =>
        dsimp only
        split <;> exact .pure _

theorem typeParams_fills (owner : Owner) (ownerName : String) :
    Fills (Filling.typeParams owner ownerName item) (typeParams owner ownerName item).value
      (typeParams owner ownerName item).findings := by
  unfold Filling.typeParams typeParams GenericParam.ofList
  cases item.childByField? "type_parameters" with
  | none => exact .pure []
  | some list =>
    refine (Fills.gather (typeParam_fills owner ownerName) list.namedChildren).congr ?_ ?_
    · simp only [List.filterMap_map]
      rfl
    · simp only [List.filterMap_eq_flatMap_toList, List.flatMap_map]

theorem slot_fills (name : Option String) (type snippet : String) :
    Fills (Filling.slot name type snippet) (Param.ofBinding name type snippet).field
      (Param.ofBinding name type snippet).finding.toList := by
  cases name with
  | none => exact (Fills.report ..).bindPure _
  | some name => exact .pure _

/-- The step for a parameter comes to its slot, and to its issue if it has one. -/
theorem param_fills (child : Node) :
    Fills (Filling.param child)
      (if Param.isListed child then some (Param.ofNode child).field else none)
      (if Param.isListed child then (Param.ofNode child).finding.toList else []) := by
  unfold Filling.param
  split
  · rename_i skipped
    simp only [Param.isListed, skipped, Bool.not_true, Bool.false_eq_true, if_false]
    exact .pure none
  · rename_i listed
    have shown : Param.isListed child = true := by simpa [Param.isListed] using listed
    rw [if_pos shown, if_pos shown, Param.ofNode]
    split
    · exact .pure _
    · split
      · unfold Param.ofPattern
        dsimp only
        split
        · exact .pure _
        · exact (slot_fills ..).map some
      · exact (slot_fills ..).map some

/-- The steps for parameters come to all slots and all issues, in their order. -/
theorem params_fills (list : Option Node) :
    Fills (Filling.params list) ((Param.ofList list).map (·.field))
      ((Param.ofList list).filterMap (·.finding)) := by
  cases list with
  | none => exact .pure []
  | some list =>
    refine (Fills.gatherListed param_fills list.namedChildren).congr ?_ ?_
    · exact (List.map_map ..).symm
    · rw [← List.filterMap_eq_flatMap_toList]
      exact (List.filterMap_map ..).symm

theorem signature_fills :
    Fills (Filling.signature item) item.signature.value item.signature.findings :=
  (typeParams_fills item .function item.nameText).bind
    ((params_fills (item.childByField? "parameters")).bindPure _)

theorem structRecord_fills :
    Fills (Filling.structRecord item) item.structRecord.value item.structRecord.findings := by
  have generics := typeParams_fills item .struct item.nameText
  unfold Filling.structRecord Node.structRecord
  cases item.childOfKind? "field_declaration_list" with
  | some body => exact generics.bindPure _
  | none => exact generics.bind (.reportIf ..)

theorem variant_fills (child : Node) :
    Fills (Filling.variant child)
      (if child.kind == "enum_variant" then some child.nameText else none)
      (if child.kind == "enum_variant" then
        if child.hasPayload then [⟨.variantPayload, child.nameText⟩] else []
      else []) := by
  unfold Filling.variant
  split
  · exact .reportIf ..
  · exact .pure none

theorem enumRecord_fills :
    Fills (Filling.enumRecord item) item.enumRecord.value item.enumRecord.findings := by
  have generics := typeParams_fills item .enum item.nameText
  refine (generics.bind ((Fills.gatherListed variant_fills item.members).bindPure _)).congr rfl ?_
  rw [flatMap_if, ← List.map_eq_flatMap]
  rfl

/-- What a trait has after one more member. -/
def TraitMember.extend (soFar : Filling.TraitSoFar) (member : TraitMember) : Filling.TraitSoFar :=
  (member.associatedType?.elim soFar.1 (addName soFar.1), soFar.2 ++ member.method?.toList)

/-- The step for a member extends the trait by it. -/
theorem traitMember_fills (soFar : Filling.TraitSoFar) (member : Node) :
    Fills (Filling.traitMember soFar member) ((TraitMember.ofNode member).extend soFar)
      (TraitMember.ofNode member).findings := by
  unfold Filling.traitMember TraitMember.ofNode
  split
  · exact (Fills.pure soFar).congr
      (by simp [TraitMember.extend, TraitMember.associatedType?, TraitMember.method?]) rfl
  · split
    · exact (signature_fills member).bindPure _
    · split
      · refine (Fills.pure _).congr ?_ rfl
        simp [TraitMember.extend, TraitMember.associatedType?, TraitMember.method?]
      · refine ((Fills.report ..).bindPure _).congr ?_ rfl
        simp [TraitMember.extend, TraitMember.associatedType?, TraitMember.method?]

theorem foldl_extend (members : List TraitMember) : ∀ soFar : Filling.TraitSoFar,
    members.foldl TraitMember.extend soFar =
      ((members.filterMap (·.associatedType?)).foldl addName soFar.1,
        soFar.2 ++ members.filterMap (·.method?)) := by
  induction members with
  | nil => simp
  | cons member members ih =>
    intro soFar
    rw [List.foldl_cons, ih, TraitMember.extend]
    cases member <;> simp [TraitMember.associatedType?, TraitMember.method?]

/-- The steps for the members of a trait come to its record and their issues. -/
theorem traitRecord_fills :
    Fills (Filling.traitRecord item) item.traitRecord.value item.traitRecord.findings := by
  have generics := typeParams_fills item .trait item.nameText
  have members := Fills.foldlM traitMember_fills item.members
  refine (generics.bind ((members _).bindPure _)).congr ?_ ?_
  · rw [← List.foldl_map, foldl_extend]
    rfl
  · rw [Node.traitRecord, List.flatMap_map]

theorem publicMethod_fills (member : Node) :
    Fills (Filling.publicMethod member)
      (if member.kind == "function_item" && member.isPublic then some member.signature.value
        else none)
      (if member.kind == "function_item" && member.isPublic then member.signature.findings
        else []) := by
  unfold Filling.publicMethod
  split
  · exact (signature_fills member).map some
  · exact .pure none

/-- The steps for the members of an implementation come to its methods and their issues. -/
theorem methodGroup?_fills :
    Fills (Filling.methodGroup? item) item.methodGroup?.value item.methodGroup?.findings := by
  unfold Filling.methodGroup? Node.methodGroup?
  split
  · exact .pure none
  · cases (item.childByField? "type").bind (·.nominalName?) with
    | none => exact (Fills.report ..).bindPure _
    | some target =>
      let methods := Noted.sequence <| (item.members.filter fun member =>
        member.kind == "function_item" && member.isPublic).map Node.signature
      have gathered : Fills (Filling.gather Filling.publicMethod item.members) methods.value
          methods.findings :=
        (Fills.gatherListed publicMethod_fills item.members).congr (List.map_map ..).symm
          (List.flatMap_map ..).symm
      refine (gathered.bindPure _).congr ?_ ?_
      · dsimp only
        split <;> rfl
      · dsimp only
        split <;> rfl

end Handlers

/-- The record of an item that stands alone. -/
def Contribution.record (file : String) (c : Contribution) : Module String :=
  Module.ofBody file [] [.item c]

/-- To append the record of a contribution is to declare its value and to report its findings. -/
theorem Module.append_record (m : Module String) (c : Contribution) :
    m.append (c.record m.file) = (c.value.elim m m.declaring).reporting c.findings := by
  obtain ⟨value, findings, remarks⟩ := c
  rcases value with _ | d
  · simp [append, reporting, Contribution.record, ofBody, contributions]
  · cases d <;>
      simp [append, reporting, declaring, Contribution.record, ofBody, contributions,
        Declaration.const?, Declaration.enum?, Declaration.struct?, Declaration.trait?,
        Declaration.function?, Declaration.methods?]

/-- A step that, whatever record it works on, only puts the record of a contribution behind it. -/
structure Adds (step : Filling Unit) (c : Contribution) : Prop where
  run : ∀ m, step.run m = ((), m.append (c.record m.file))

namespace Adds

variable {value : Option Declaration} {findings : List Finding} {remarks : List Remark}

theorem nothing (remarks : List Remark) : Adds (return ()) ⟨none, [], remarks⟩ where
  run m := by
    rw [m.append_record, Module.reporting_nil]
    rfl

theorem report (cause : Cause) (snippet : String) :
    Adds (Filling.report cause snippet) ⟨none, [⟨cause, snippet⟩], []⟩ where
  run m := by
    rw [m.append_record]
    rfl

theorem declare (d : Declaration) (remarks : List Remark) :
    Adds (Filling.declare d) ⟨some d, [], remarks⟩ where
  run m := by
    rw [m.append_record, Module.reporting_nil]
    rfl

/-- Findings on the way to a declaration stand in the record before it does. -/
theorem after {α : Type} {step : Filling α} {result : α} {next : α → Filling Unit}
    (first : Fills step result findings) (second : Adds (next result) ⟨value, [], remarks⟩) :
    Adds (step >>= next) ⟨value, findings, remarks⟩ where
  run m := by
    have reported := second.run (m.reporting findings)
    rw [Module.append_record, Module.reporting_nil] at reported
    rw [StateT.run_bind, first.run m, m.append_record]
    refine reported.trans ?_
    cases value with
    | none => rfl
    | some d => exact congrArg (Prod.mk ()) (m.declaring_reporting findings d)

end Adds

/-- A macro is declared and reported as its contribution says. -/
theorem exportedMacro_adds (node : Node) :
    Adds (Filling.exportedMacro node) (Contribution.ofExportedMacro node) := by
  unfold Filling.exportedMacro Contribution.ofExportedMacro
  generalize (if node.kind == "macro_definition" then node.nameText else "") = name
  dsimp only
  split
  · exact .report ..
  · exact .declare ..

theorem publicItem_adds (item : Node) :
    Adds (Filling.publicItem item) (Contribution.ofPublicItem item) := by
  unfold Filling.publicItem Contribution.ofPublicItem
  split
  · exact .declare ..
  split
  · exact .after (signature_fills item) (.declare ..)
  split
  · exact .after (structRecord_fills item) (.declare ..)
  split
  · exact .after (enumRecord_fills item) (.declare ..)
  split
  · exact .after (traitRecord_fills item) (.declare ..)
  · exact .nothing _

/-- An implementation is declared and reported as its contribution says. -/
theorem impl_adds (item : Node) :
    Adds (do
      match ← Filling.methodGroup? item with
      | some group => Filling.declare (.methods group)
      | none => return ()) (item.methodGroup?.map (Option.map .methods)) := by
  refine .after (methodGroup?_fills item) ?_
  cases item.methodGroup?.value with
  | none => exact .nothing _
  | some group => exact .declare _ _

/-- Every item, after whatever siblings, adds its contribution and nothing else. -/
theorem classify_adds (earlier : List Node) (item : Node) :
    Adds (Filling.classify earlier item) (Contribution.ofItem earlier item) := by
  unfold Filling.classify Contribution.ofItem
  split
  · rcases item.namedChildren with _ | ⟨inner, _ | ⟨second, rest⟩⟩
    · exact .nothing []
    · dsimp only
      split
      · exact exportedMacro_adds inner
      · exact .nothing []
    · exact .nothing []
  split
  · exact impl_adds item
  split
  · split
    · exact exportedMacro_adds item
    · exact .nothing []
  split
  · exact publicItem_adds item
  · exact .nothing []

end CrateSurface
