import CrateSurface.Document.Loading
import CrateSurface.Document.Order
import CrateSurface.Proofs.JsonLayouts
import CrateSurface.Proofs.JsonLegible
import CrateSurface.Proofs.SortingPermutes

namespace CrateSurface

namespace Json

section Decoding

variable {value : Json} {key : String}

theorem elementsAt_of_member {items : List Json} (found : value.member key = .ok (.arr items)) :
    value.elementsAt key = .ok items := by
  rw [elementsAt, found]
  rfl

/-- Records are read back from a member, if each of them is. -/
theorem recordsAt_of_member {α : Type} {encode : α → Json} {decode : Json → Except Misfit α}
    (undoes : ∀ x, decode (encode x) = .ok x) {xs : List α}
    (found : value.member key = .ok (.arr (xs.map encode))) :
    value.recordsAt key decode = .ok xs := by
  rw [recordsAt, elementsAt_of_member found]
  exact mapM_map_of_undoes undoes xs

theorem toField_toJson (x : Field Json) : x.toJson.toField = .ok x := rfl

theorem toFunction_toJson (x : Function Json) : x.toJson.toFunction = .ok x := by
  have params : x.toJson.recordsAt "params" toField = .ok x.params :=
    recordsAt_of_member toField_toJson rfl
  rw [toFunction, params]
  rfl

theorem toEnum_toJson (x : Enum Json) : x.toJson.toEnum = .ok x := rfl

theorem toStruct_toJson (x : Struct Json) : x.toJson.toStruct = .ok x := by
  have fields : x.toJson.recordsAt "fields" toField = .ok x.fields :=
    recordsAt_of_member toField_toJson rfl
  rw [toStruct, fields]
  rfl

theorem toTrait_toJson (x : Trait Json) : x.toJson.toTrait = .ok x := by
  have methods : x.toJson.recordsAt "methods" toFunction = .ok x.methods :=
    recordsAt_of_member toFunction_toJson rfl
  rw [toTrait, methods]
  rfl

theorem toMethodGroup_toJson (x : MethodGroup Json) : x.toJson.toMethodGroup = .ok x := by
  have methods : x.toJson.recordsAt "methods" toFunction = .ok x.methods :=
    recordsAt_of_member toFunction_toJson rfl
  rw [toMethodGroup, methods]
  rfl

theorem toIssue_toJson (x : Issue Json) : x.toJson.toIssue = .ok x := rfl

/-- A module is read back from the object that it is written as. -/
theorem toModule_toJson (x : Module Json) : x.toJson.toModule = .ok x := by
  have consts : x.toJson.recordsAt "consts" toField = .ok x.consts :=
    recordsAt_of_member toField_toJson rfl
  have enums : x.toJson.recordsAt "enums" toEnum = .ok x.enums :=
    recordsAt_of_member toEnum_toJson rfl
  have structs : x.toJson.recordsAt "structs" toStruct = .ok x.structs :=
    recordsAt_of_member toStruct_toJson rfl
  have traits : x.toJson.recordsAt "traits" toTrait = .ok x.traits :=
    recordsAt_of_member toTrait_toJson rfl
  have functions : x.toJson.recordsAt "functions" toFunction = .ok x.functions :=
    recordsAt_of_member toFunction_toJson rfl
  have groups : x.toJson.recordsAt "pendingMethods" toMethodGroup = .ok x.pendingMethods :=
    recordsAt_of_member toMethodGroup_toJson rfl
  have issues : x.toJson.recordsAt "issues" toIssue = .ok x.issues :=
    recordsAt_of_member toIssue_toJson rfl
  rw [toModule, consts, enums, structs, traits, functions, groups, issues]
  rfl

/-- A document with the current version is read back from its members. -/
theorem toDocument_toJson {d : Document} (tagged : d.schema.same (.int schemaVersion) = true) :
    d.toJson.toDocument = .ok d := by
  have tag : d.toJson.schemaTag = d.schema := rfl
  have modules : d.toJson.recordsAt "modules" toModule = .ok d.modules :=
    recordsAt_of_member toModule_toJson rfl
  rw [toDocument, tag, if_pos tagged, modules]
  rfl

end Decoding

/-- A property that a value shares with its parts: texts and the schema tag have it, and arrays and
objects of distinct keys have it where all that they hold does. -/
structure Hereditary (P : Json → Prop) : Prop where
  str : ∀ s, P (.str s)
  version : P (.int schemaVersion)
  arr : ∀ {items}, P (.arr items) ↔ ∀ item ∈ items, P item
  obj : ∀ {members : List (String × Json)}, (members.map Prod.fst).Nodup →
    (∀ m ∈ members, P m.2) → P (.obj members)
  of_obj : ∀ {members}, P (.obj members) → ∀ m ∈ members, P m.2

/-- That integers are short and keys distinct is passed on to the parts of a value. -/
theorem hereditary_legible : Hereditary Legible where
  str := .str
  version := .int (by decide)
  arr := ⟨fun legible => by cases legible with | arr all => exact all, .arr⟩
  obj := .obj
  of_obj legible := by cases legible with | obj _ all => exact all

/-- That there are no floats is passed on to the parts of a value. -/
theorem hereditary_floatFree : Hereditary FloatFree where
  str := .str
  version := .int _
  arr := ⟨fun plain => by cases plain with | arr all => exact all, .arr⟩
  obj _ := .obj
  of_obj plain := by cases plain with | obj all => exact all

namespace Hereditary

variable {P : Json → Prop} {value : Json} {key : String}

/-- What is hereditary holds of encoded records if and only if it does of each. -/
theorem arrMap (hereditary : Hereditary P) {α : Type} {encode : α → Json} {xs : List α} :
    P (.arr (xs.map encode)) ↔ ∀ x ∈ xs, P (encode x) := by
  rw [hereditary.arr]
  exact List.forall_mem_map

theorem texts (hereditary : Hereditary P) (xs : List String) : P (.arr (xs.map .str)) :=
  hereditary.arrMap.mpr fun x _ => hereditary.str x

section Loading

theorem lookup (hereditary : Hereditary P) {members : List (String × Json)}
    (own : P (.obj members)) {part : Json} (found : members.lookup key = some part) : P part := by
  obtain ⟨before, after, rfl, _⟩ := List.lookup_eq_some_iff.mp found
  exact hereditary.of_obj own (key, part) (by simp)

theorem member (hereditary : Hereditary P) (own : P value) {part : Json}
    (found : value.member key = .ok part) : P part := by
  unfold Json.member at found
  split at found
  · split at found
    · rename_i there
      cases found
      exact hereditary.lookup own there
    · cases found
  · cases found
  · cases found
  · cases found

theorem elements (hereditary : Hereditary P) (own : P value) {items : List Json}
    (found : value.elements = .ok items) : P (.arr items) := by
  unfold Json.elements at found
  split at found
  · cases found
    exact own
  · cases found
    exact hereditary.arrMap.mpr fun _ _ => hereditary.str _
  · cases found
    exact hereditary.arrMap.mpr fun _ _ => hereditary.str _
  · cases found

theorem elementsAt (hereditary : Hereditary P) (own : P value) {items : List Json}
    (found : value.elementsAt key = .ok items) : P (.arr items) := by
  obtain ⟨part, there, found⟩ := bind_eq_ok.mp found
  exact hereditary.elements (hereditary.member own there) found

/-- Records that are read from a good value are encoded to a good one. -/
theorem recordsAt (hereditary : Hereditary P) {α : Type} {encode : α → Json}
    {decode : Json → Except Misfit α} (kept : ∀ {v x}, P v → decode v = .ok x → P (encode x))
    (own : P value) {xs : List α} (found : value.recordsAt key decode = .ok xs) :
    P (.arr (xs.map encode)) := by
  obtain ⟨items, there, found⟩ := bind_eq_ok.mp found
  have all := hereditary.arr.mp (hereditary.elementsAt own there)
  refine hereditary.arrMap.mpr ?_
  intro x member
  obtain ⟨item, among, read⟩ := exists_of_mem_mapM found x member
  exact kept (all item among) read

theorem toField (hereditary : Hereditary P) {x : Field Json} (own : P value)
    (read : value.toField = .ok x) : P x.toJson := by
  obtain ⟨name, named, read⟩ := bind_eq_ok.mp read
  obtain ⟨type, typed, read⟩ := bind_eq_ok.mp read
  cases read
  refine hereditary.obj (by simp) ?_
  simp only [List.forall_mem_cons]
  exact ⟨hereditary.member own named, hereditary.member own typed, by simp⟩

theorem toFunction (hereditary : Hereditary P) {x : Function Json} (own : P value)
    (read : value.toFunction = .ok x) : P x.toJson := by
  obtain ⟨name, named, read⟩ := bind_eq_ok.mp read
  obtain ⟨typeParams, generic, read⟩ := bind_eq_ok.mp read
  obtain ⟨params, taken, read⟩ := bind_eq_ok.mp read
  obtain ⟨returnType, returned, read⟩ := bind_eq_ok.mp read
  cases read
  refine hereditary.obj (by simp) ?_
  simp only [List.forall_mem_cons]
  exact ⟨hereditary.member own named, hereditary.elementsAt own generic,
    hereditary.recordsAt hereditary.toField own taken, hereditary.member own returned, by simp⟩

theorem toEnum (hereditary : Hereditary P) {x : Enum Json} (own : P value)
    (read : value.toEnum = .ok x) : P x.toJson := by
  obtain ⟨name, named, read⟩ := bind_eq_ok.mp read
  obtain ⟨typeParams, generic, read⟩ := bind_eq_ok.mp read
  obtain ⟨variants, listed, read⟩ := bind_eq_ok.mp read
  cases read
  refine hereditary.obj (by simp) ?_
  simp only [List.forall_mem_cons]
  exact ⟨hereditary.member own named, hereditary.elementsAt own generic,
    hereditary.elementsAt own listed, by simp⟩

theorem toStruct (hereditary : Hereditary P) {x : Struct Json} (own : P value)
    (read : value.toStruct = .ok x) : P x.toJson := by
  obtain ⟨name, named, read⟩ := bind_eq_ok.mp read
  obtain ⟨typeParams, generic, read⟩ := bind_eq_ok.mp read
  obtain ⟨fields, listed, read⟩ := bind_eq_ok.mp read
  cases read
  refine hereditary.obj (by simp) ?_
  simp only [List.forall_mem_cons]
  exact ⟨hereditary.member own named, hereditary.elementsAt own generic,
    hereditary.recordsAt hereditary.toField own listed, by simp⟩

theorem toTrait (hereditary : Hereditary P) {x : Trait Json} (own : P value)
    (read : value.toTrait = .ok x) : P x.toJson := by
  obtain ⟨name, named, read⟩ := bind_eq_ok.mp read
  obtain ⟨typeParams, generic, read⟩ := bind_eq_ok.mp read
  obtain ⟨superTraits, above, read⟩ := bind_eq_ok.mp read
  obtain ⟨methods, listed, read⟩ := bind_eq_ok.mp read
  cases read
  refine hereditary.obj (by simp) ?_
  simp only [List.forall_mem_cons]
  exact ⟨hereditary.member own named, hereditary.elementsAt own generic,
    hereditary.elementsAt own above, hereditary.recordsAt hereditary.toFunction own listed, by simp⟩

theorem toMethodGroup (hereditary : Hereditary P) {x : MethodGroup Json} (own : P value)
    (read : value.toMethodGroup = .ok x) : P x.toJson := by
  obtain ⟨target, named, read⟩ := bind_eq_ok.mp read
  obtain ⟨methods, listed, read⟩ := bind_eq_ok.mp read
  cases read
  refine hereditary.obj (by simp) ?_
  simp only [List.forall_mem_cons]
  exact ⟨hereditary.member own named, hereditary.recordsAt hereditary.toFunction own listed, by simp⟩

theorem toIssue (hereditary : Hereditary P) {x : Issue Json} (own : P value)
    (read : value.toIssue = .ok x) : P x.toJson := by
  obtain ⟨file, there, read⟩ := bind_eq_ok.mp read
  obtain ⟨kind, sorted, read⟩ := bind_eq_ok.mp read
  obtain ⟨snippet, cut, read⟩ := bind_eq_ok.mp read
  obtain ⟨reason, given, read⟩ := bind_eq_ok.mp read
  cases read
  refine hereditary.obj (by simp) ?_
  simp only [List.forall_mem_cons]
  exact ⟨hereditary.member own there, hereditary.member own sorted, hereditary.member own cut,
    hereditary.member own given, by simp⟩

theorem toModule (hereditary : Hereditary P) {x : Module Json} (own : P value)
    (read : value.toModule = .ok x) : P x.toJson := by
  obtain ⟨file, there, read⟩ := bind_eq_ok.mp read
  obtain ⟨parts, path, read⟩ := bind_eq_ok.mp read
  obtain ⟨consts, fixed, read⟩ := bind_eq_ok.mp read
  obtain ⟨enums, sums, read⟩ := bind_eq_ok.mp read
  obtain ⟨structs, products, read⟩ := bind_eq_ok.mp read
  obtain ⟨traits, promised, read⟩ := bind_eq_ok.mp read
  obtain ⟨functions, free, read⟩ := bind_eq_ok.mp read
  obtain ⟨groups, bound, read⟩ := bind_eq_ok.mp read
  obtain ⟨issues, reported, read⟩ := bind_eq_ok.mp read
  cases read
  refine hereditary.obj (by simp) ?_
  simp only [List.forall_mem_cons]
  exact ⟨hereditary.member own there, hereditary.elementsAt own path,
    hereditary.recordsAt hereditary.toField own fixed, hereditary.recordsAt hereditary.toEnum own sums,
    hereditary.recordsAt hereditary.toStruct own products,
    hereditary.recordsAt hereditary.toTrait own promised,
    hereditary.recordsAt hereditary.toFunction own free,
    hereditary.recordsAt hereditary.toMethodGroup own bound,
    hereditary.recordsAt hereditary.toIssue own reported, by simp⟩

/-- What is read as a document has the property as a whole. -/
theorem toDocument (hereditary : Hereditary P) {d : Document} (own : P value)
    (read : value.toDocument = .ok d) : P d.toJson ∧ d.schema.same (.int schemaVersion) = true := by
  unfold Json.toDocument at read
  split at read
  · rename_i tagged
    obtain ⟨modules, found, read⟩ := bind_eq_ok.mp read
    cases read
    refine ⟨hereditary.obj (by simp) ?_, tagged⟩
    have tag : P value.schemaTag := by
      unfold schemaTag at tagged ⊢
      split at tagged
      · rename_i members
        cases there : members.lookup "schema" with
        | none =>
          -- A missing tag counts as null, which is no version.
          rw [there] at tagged
          cases tagged
        | some part => exact hereditary.lookup own there
      · cases tagged
    simp only [List.forall_mem_cons]
    exact ⟨tag, hereditary.recordsAt hereditary.toModule own (mapError_eq_ok.mp found), by simp⟩
  · cases read

end Loading

section Records

/-- What a walk finds is texts only, which any hereditary property allows. -/
theorem ofField (hereditary : Hereditary P) (x : Field String) : P (x.map .str).toJson := by
  refine hereditary.obj (by simp) ?_
  simp only [List.forall_mem_cons]
  exact ⟨hereditary.str _, hereditary.str _, by simp⟩

/-- The records of a list that was mapped have the property where each has it. -/
theorem ofList (hereditary : Hereditary P) {α β : Type} {f : α → β} {encode : β → Json}
    (all : ∀ x, P (encode (f x))) (xs : List α) : P (.arr ((xs.map f).map encode)) := by
  rw [List.map_map]
  exact hereditary.arrMap.mpr fun x _ => all x

theorem ofFunction (hereditary : Hereditary P) (x : Function String) : P (x.map .str).toJson := by
  refine hereditary.obj (by simp) ?_
  simp only [List.forall_mem_cons]
  exact ⟨hereditary.str _, hereditary.texts _, hereditary.ofList hereditary.ofField _,
    hereditary.str _, by simp⟩

theorem ofEnum (hereditary : Hereditary P) (x : Enum String) : P (x.map .str).toJson := by
  refine hereditary.obj (by simp) ?_
  simp only [List.forall_mem_cons]
  exact ⟨hereditary.str _, hereditary.texts _, hereditary.texts _, by simp⟩

theorem ofStruct (hereditary : Hereditary P) (x : Struct String) : P (x.map .str).toJson := by
  refine hereditary.obj (by simp) ?_
  simp only [List.forall_mem_cons]
  exact ⟨hereditary.str _, hereditary.texts _, hereditary.ofList hereditary.ofField _, by simp⟩

theorem ofTrait (hereditary : Hereditary P) (x : Trait String) : P (x.map .str).toJson := by
  refine hereditary.obj (by simp) ?_
  simp only [List.forall_mem_cons]
  exact ⟨hereditary.str _, hereditary.texts _, hereditary.texts _,
    hereditary.ofList hereditary.ofFunction _, by simp⟩

theorem ofMethodGroup (hereditary : Hereditary P) (x : MethodGroup String) :
    P (x.map .str).toJson := by
  refine hereditary.obj (by simp) ?_
  simp only [List.forall_mem_cons]
  exact ⟨hereditary.str _, hereditary.ofList hereditary.ofFunction _, by simp⟩

theorem ofIssue (hereditary : Hereditary P) (x : Issue String) : P (x.map .str).toJson := by
  refine hereditary.obj (by simp) ?_
  simp only [List.forall_mem_cons]
  exact ⟨hereditary.str _, hereditary.str _, hereditary.str _, hereditary.str _, by simp⟩

theorem ofRecord (hereditary : Hereditary P) (x : Module String) : P (Module.ofRecord x).toJson := by
  refine hereditary.obj (by simp) ?_
  simp only [List.forall_mem_cons]
  exact ⟨hereditary.str _, hereditary.texts _, hereditary.ofList hereditary.ofField _,
    hereditary.ofList hereditary.ofEnum _, hereditary.ofList hereditary.ofStruct _,
    hereditary.ofList hereditary.ofTrait _, hereditary.ofList hereditary.ofFunction _,
    hereditary.ofList hereditary.ofMethodGroup _, hereditary.ofList hereditary.ofIssue _, by simp⟩

theorem ofModules (hereditary : Hereditary P) {modules : List (Module Json)}
    (all : ∀ m ∈ modules, P m.toJson) : P (Document.toJson ⟨.int schemaVersion, modules⟩) := by
  refine hereditary.obj (by simp) ?_
  simp only [List.forall_mem_cons]
  exact ⟨hereditary.version, hereditary.arrMap.mpr all, by simp⟩

/-- The document of a crate is encoded to a good value. -/
theorem ofRecords (hereditary : Hereditary P) (records : List (Module String)) :
    P (Document.ofRecords records).toJson := by
  refine hereditary.ofModules ?_
  intro m member
  obtain ⟨record, _, rfl⟩ := List.mem_map.mp member
  exact hereditary.ofRecord record

end Records

section Assembling

/-- A module keeps the property with fewer or other places of its method groups. -/
theorem withGroups (hereditary : Hereditary P) {m : Module Json} (own : P m.toJson)
    {groups : List (MethodGroup Json)} (among : ∀ g ∈ groups, g ∈ m.pendingMethods) :
    P ({ m with pendingMethods := groups } : Module Json).toJson := by
  have parts := hereditary.of_obj own
  simp only [List.forall_mem_cons] at parts
  obtain ⟨file, path, consts, enums, structs, traits, functions, bound, issues, _⟩ := parts
  refine hereditary.obj (by simp) ?_
  simp only [List.forall_mem_cons]
  have kept : P (.arr (groups.map MethodGroup.toJson)) :=
    hereditary.arrMap.mpr fun g member => hereditary.arrMap.mp bound g (among g member)
  exact ⟨file, path, consts, enums, structs, traits, functions, kept, issues, by simp⟩

/-- Sorting the groups of modules keeps them good, also where it breaks off. -/
theorem sortGroups (hereditary : Hereditary P) {modules : List (Module Json)} :
    (∀ m ∈ modules, P m.toJson) → ∀ m ∈ (Document.sortGroups modules).1, P m.toJson := by
  induction modules with
  | nil =>
    intro _ m member
    cases member
  | cons first rest ih =>
    intro all m member
    have others := fun m later => all m (List.mem_cons_of_mem first later)
    have sorted : P ({ first with
        pendingMethods := (Sorting.sort (fun a b : MethodGroup Json => a.target.less b.target)
          first.pendingMethods).items } : Module Json).toJson :=
      hereditary.withGroups (all first (List.mem_cons_self ..)) fun g => (Sorting.sort_perm _ _).mem_iff.mp
    unfold Document.sortGroups at member
    dsimp only at member
    split at member
    · rcases List.mem_cons.mp member with rfl | later
      · exact sorted
      · exact others m later
    · rcases List.mem_cons.mp member with rfl | later
      · exact sorted
      · exact ih others m later

end Assembling

end Hereditary

end Json

namespace Document

/-- The keyed modules are the modules, in their order. -/
theorem keyedFrom_modules {modules : List (Module Json)} : ∀ {place : Nat} {keyed : List Keyed},
    keyedFrom place modules = .ok keyed → keyed.map (·.module) = modules := by
  induction modules with
  | nil =>
    intro place keyed found
    cases found
    rfl
  | cons m rest ih =>
    intro place keyed found
    obtain ⟨path, _, found⟩ := bind_eq_ok.mp found
    obtain ⟨others, later, found⟩ := bind_eq_ok.mp found
    cases found
    rw [List.map_cons, ih later]

/-- Modules that could be put in order are, with their groups in order, those that were given. -/
theorem arrange_eq {modules : List (Module Json)} (whole : (arrange modules).failure = none) :
    ∃ ordered : List (Module Json), ordered.Perm modules ∧
      (arrange modules).items = (sortGroups ordered).1 := by
  unfold arrange at whole ⊢
  cases found : keyedFrom 0 modules with
  | error error =>
    rw [found] at whole
    cases whole
  | ok keyed =>
    rw [found] at whole
    dsimp only at whole ⊢
    have moved := (Sorting.sort_perm Keyed.less keyed).map (·.module)
    rw [keyedFrom_modules found] at moved
    refine ⟨_, moved, ?_⟩
    split at whole
    · cases whole
    · split at whole
      · rename_i same
        rw [same]
      · cases whole

/-- A document that was assembled whole has its modules arranged under the current version. -/
theorem assemble_eq {before after : Document} (whole : before.assemble = (after, none)) :
    after = ⟨.int schemaVersion, (arrange before.modules).items⟩ ∧
      (arrange before.modules).failure = none := by
  unfold assemble sort at whole
  dsimp only at whole
  cases failed : (arrange before.modules).failure with
  | none =>
    rw [failed] at whole
    cases whole
    exact ⟨rfl, rfl⟩
  | some failure =>
    rw [failed] at whole
    cases whole

/-- The documents that the program makes: of the records of a walk, of any modules whose values
can be read, or from a text. -/
inductive Produced : Document → Prop
  | walked (records : List (Module String)) : Produced (ofRecords records)
  | assembled {before after : Document} : (∀ m ∈ before.modules, m.toJson.Legible) →
      before.assemble = (after, none) → Produced after
  | loaded {text : String} {d : Document} : load text = .ok d → Produced d

/-- A text that loads is a value that makes the document. -/
theorem load_eq_ok {text : String} {d : Document} (loaded : load text = .ok d) :
    ∃ value, Json.read text = .ok value ∧ value.toDocument = .ok d := by
  obtain ⟨value, read, made⟩ := bind_eq_ok.mp loaded
  exact ⟨value, mapError_eq_ok.mp read, made⟩

/-- Documents that the program makes have the current schema and can be read. -/
theorem Produced.legible {d : Document} (produced : d.Produced) :
    d.toJson.Legible ∧ d.schema.same (.int schemaVersion) = true := by
  have hereditary := Json.hereditary_legible
  have current : (Json.int schemaVersion).same (.int schemaVersion) = true := by decide
  cases produced with
  | walked records => exact ⟨hereditary.ofRecords records, current⟩
  | assembled all whole =>
    obtain ⟨rfl, complete⟩ := assemble_eq whole
    obtain ⟨ordered, moved, items⟩ := arrange_eq complete
    refine ⟨hereditary.ofModules ?_, current⟩
    rw [items]
    exact hereditary.sortGroups fun m member => all m (moved.mem_iff.mp member)
  | loaded loaded =>
    obtain ⟨value, read, made⟩ := load_eq_ok loaded
    exact hereditary.toDocument (Json.read_legible read) made

/-- A legible document of the current schema without floats has a text, from which it loads. -/
theorem load_of_legible {d : Document} (legible : d.toJson.Legible)
    (tagged : d.schema.same (.int schemaVersion) = true) (plain : d.toJson.FloatFree) :
    ∃ text, d.serialize? = some text ∧ load text = .ok d := by
  refine ⟨String.ofList d.toJson.writeCompact, ?_, ?_⟩
  · rw [serialize?, Json.compact?, if_pos plain.allFinite]
  · rw [load, legible.read_writeCompact plain]
    exact Json.toDocument_toJson tagged

/-- Every document that the program makes has a text unless it holds a float, and the text loads as
that document; the text of a document that was loaded loads as the first text did. The documents of
walks hold no floats. -/
theorem load_serialize :
    (∀ d : Document, d.Produced → d.toJson.FloatFree →
      ∃ text, d.serialize? = some text ∧ load text = .ok d) ∧
    (∀ records : List (Module String), (ofRecords records).toJson.FloatFree) ∧
    ∀ (text : String) (value : Json) (d : Document), Json.read text = .ok value → value.FloatFree →
      load text = .ok d → ∃ again, d.serialize? = some again ∧ load again = load text := by
  refine ⟨?_, Json.hereditary_floatFree.ofRecords, ?_⟩
  · intro d produced plain
    obtain ⟨legible, tagged⟩ := produced.legible
    exact load_of_legible legible tagged plain
  · intro text value d read plain loaded
    obtain ⟨legible, tagged⟩ := (Produced.loaded loaded).legible
    obtain ⟨same, read', made⟩ := load_eq_ok loaded
    obtain rfl : value = same := Except.ok.inj (read.symm.trans read')
    have kept := (Json.hereditary_floatFree.toDocument plain made).1
    rw [loaded]
    exact load_of_legible legible tagged kept

section Loose

/-- A document in a loose form: lists stand as texts and objects, the schema tag is a truth value,
the order of the keys is another, and one key means nothing. -/
def looseValue : Json :=
  .obj [("modules", .arr [.obj [("issues", .obj []), ("file", .str "\"😀\\\x07"), ("parts", .str "ab"),
    ("consts", .arr []), ("enums", .str ""), ("structs", .arr []), ("traits", .arr []),
    ("functions", .arr []), ("pendingMethods", .arr [])]]),
    ("x", .arr [.int (-7), .null]), ("schema", .bool true)]

/-- A document whose leaves are of other types than those of a crate. -/
def looseDocument : Document :=
  ⟨.bool true, [⟨.str "\"😀\\\x07", [.str "a", .str "b"], [], [], [], [], [], [], []⟩]⟩

/-- Any hereditary property of its leaves holds of the value. -/
theorem looseValue_of_hereditary {P : Json → Prop} (hereditary : Json.Hereditary P)
    (number : P (.int (-7))) (nothing : P .null) (tag : P (.bool true)) : P looseValue := by
  have empty : P (.arr []) := hereditary.arr.mpr (by simp)
  have issues : P (.obj []) := hereditary.obj (by simp) (by simp)
  refine hereditary.obj (by simp) ?_
  simp only [List.forall_mem_cons]
  refine ⟨hereditary.arr.mpr ?_, hereditary.arr.mpr ?_, tag, by simp⟩
  · rw [List.forall_mem_singleton]
    refine hereditary.obj (by simp) ?_
    simp only [List.forall_mem_cons]
    exact ⟨issues, hereditary.str _, hereditary.str _, empty, hereditary.str _, empty, empty, empty,
      empty, by simp⟩
  · simp only [List.forall_mem_cons]
    exact ⟨number, nothing, by simp⟩

/-- A document with loose leaves is written and read back as it is. -/
theorem loose_document_reloads :
    let text := String.ofList looseValue.writeCompact
    (Json.read text = .ok looseValue ∧ looseValue.FloatFree ∧ load text = .ok looseDocument) ∧
    (∃ again, looseDocument.serialize? = some again ∧ load again = load text) ∧
    ∃ again, looseDocument.serialize? = some again ∧ load again = .ok looseDocument := by
  have legible : looseValue.Legible :=
    looseValue_of_hereditary Json.hereditary_legible (.int (by decide)) .null (.bool true)
  have plain : looseValue.FloatFree :=
    looseValue_of_hereditary Json.hereditary_floatFree (.int _) .null (.bool true)
  have read := legible.read_writeCompact plain
  have made : looseValue.toDocument = .ok looseDocument := by rfl
  have loads : load (String.ofList looseValue.writeCompact) = .ok looseDocument := by
    rw [load, read]
    exact made
  exact ⟨⟨read, plain, loads⟩, load_serialize.2.2 _ looseValue _ read plain loads,
    load_serialize.1 _ (.loaded loads) (Json.hereditary_floatFree.toDocument plain made).1⟩

end Loose

end Document

end CrateSurface
