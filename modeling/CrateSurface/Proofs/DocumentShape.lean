import CrateSurface.Document.Loading
import CrateSurface.Proofs.Attempt
import CrateSurface.Proofs.JsonRests
import CrateSurface.Proofs.JsonLayouts

namespace CrateSurface

/-- What stands under a key of a record: any value, a list of names, or a list of records that have
keys of their own. -/
inductive Shape where
  | leaf
  | names
  | records (keys : List (String × Shape))

namespace Shape

/-- The keys of a field or of a parameter. -/
def fieldKeys : List (String × Shape) :=
  [("name", .leaf), ("type", .leaf)]

/-- The keys of a function. -/
def functionKeys : List (String × Shape) :=
  [("name", .leaf), ("typeParams", .names), ("params", .records fieldKeys), ("returnType", .leaf)]

/-- The keys of an enum. -/
def enumKeys : List (String × Shape) :=
  [("name", .leaf), ("typeParams", .names), ("variants", .names)]

/-- The keys of a struct. -/
def structKeys : List (String × Shape) :=
  [("name", .leaf), ("typeParams", .names), ("fields", .records fieldKeys)]

/-- The keys of a trait. -/
def traitKeys : List (String × Shape) :=
  [("name", .leaf), ("typeParams", .names), ("superTraits", .names),
    ("methods", .records functionKeys)]

/-- The keys of a group of methods. -/
def groupKeys : List (String × Shape) :=
  [("target", .leaf), ("methods", .records functionKeys)]

/-- The keys of an issue. -/
def issueKeys : List (String × Shape) :=
  [("file", .leaf), ("kind", .leaf), ("snippet", .leaf), ("reason", .leaf)]

/-- The keys of a module. -/
def moduleKeys : List (String × Shape) :=
  [("file", .leaf), ("parts", .names), ("consts", .records fieldKeys), ("enums", .records enumKeys),
    ("structs", .records structKeys), ("traits", .records traitKeys),
    ("functions", .records functionKeys), ("pendingMethods", .records groupKeys),
    ("issues", .records issueKeys)]

/-- The keys that a document needs besides its schema tag. -/
def documentKeys : List (String × Shape) :=
  [("modules", .records moduleKeys)]

mutual

/-- Values of a shape. Names may stand in an array, in a text or in an object; records only in an
array, but an empty text or object counts as an empty array. -/
inductive Fits : Shape → Json → Prop
  | leaf (value : Json) : Fits .leaf value
  | nameArray (items : List Json) : Fits .names (.arr items)
  | nameText (s : String) : Fits .names (.str s)
  | nameObject (members : List (String × Json)) : Fits .names (.obj members)
  | recordArray {keys : List (String × Shape)} {items : List Json} :
      (∀ item ∈ items, HasKeys keys item) → Fits (.records keys) (.arr items)
  | noText {keys : List (String × Shape)} : Fits (.records keys) (.str "")
  | noMembers {keys : List (String × Shape)} : Fits (.records keys) (.obj [])

/-- Objects that have all keys of a list, with values of their shapes. Other keys are free. -/
inductive HasKeys : List (String × Shape) → Json → Prop
  | nil {members : List (String × Json)} : HasKeys [] (.obj members)
  | cons {key : String} {shape : Shape} {keys : List (String × Shape)}
      {members : List (String × Json)} {part : Json} : members.lookup key = some part →
      Fits shape part → HasKeys keys (.obj members) → HasKeys ((key, shape) :: keys) (.obj members)

end

/-- A value has a member of a shape. -/
def At (shape : Shape) (key : String) (value : Json) : Prop :=
  ∃ part, value.member key = .ok part ∧ shape.Fits part

end Shape

/-- A member is found in objects with its key only. -/
theorem Json.member_eq_ok {value part : Json} {key : String} : value.member key = .ok part ↔
    ∃ members, value = .obj members ∧ members.lookup key = some part := by
  cases value with
  | obj members =>
    unfold member
    cases found : members.lookup key with
    | none => simp [found]
    | some other => simp [found]
  | null | bool | int | float | str | arr => simp [member]

namespace Shape

variable {value : Json} {key : String} {shape : Shape} {keys : List (String × Shape)}

theorem HasKeys.isObject (has : HasKeys keys value) : ∃ members, value = .obj members := by
  cases has with
  | nil => exact ⟨_, rfl⟩
  | cons => exact ⟨_, rfl⟩

theorem hasKeys_cons : HasKeys ((key, shape) :: keys) value ↔ shape.At key value ∧ HasKeys keys value := by
  constructor
  · intro has
    cases has with
    | cons found fits rest => exact ⟨⟨_, Json.member_eq_ok.mpr ⟨_, rfl, found⟩, fits⟩, rest⟩
  · rintro ⟨⟨part, there, fits⟩, rest⟩
    obtain ⟨members, rfl, found⟩ := Json.member_eq_ok.mp there
    exact .cons found fits rest

theorem hasKeys_singleton : HasKeys [(key, shape)] value ↔ shape.At key value := by
  rw [hasKeys_cons]
  refine and_iff_left_of_imp ?_
  rintro ⟨part, there, _⟩
  obtain ⟨members, rfl, _⟩ := Json.member_eq_ok.mp there
  exact .nil

/-- A reader of records accepts exactly the objects with the given keys. -/
def Reads {α : Type} (read : Json → Except Misfit α) (keys : List (String × Shape)) : Prop :=
  ∀ value, Succeeds (read value) ↔ HasKeys keys value

/-- A member can be read if and only if its key is there. -/
theorem succeeds_member : Succeeds (value.member key) ↔ leaf.At key value :=
  ⟨fun ⟨part, there⟩ => ⟨part, there, .leaf part⟩, fun ⟨part, there, _⟩ => ⟨part, there⟩⟩

/-- A value has elements if and only if it can be gone through: an array, a text or an object. -/
theorem succeeds_elements : Succeeds value.elements ↔ names.Fits value := by
  constructor
  · rintro ⟨items, found⟩
    cases value with
    | arr items => exact .nameArray items
    | str s => exact .nameText s
    | obj members => exact .nameObject members
    | null | bool | int | float => cases found
  · intro fits
    cases fits <;> exact ⟨_, rfl⟩

theorem succeeds_elementsAt : Succeeds (value.elementsAt key) ↔ names.At key value := by
  constructor
  · rintro ⟨items, found⟩
    obtain ⟨part, there, listed⟩ := bind_eq_ok.mp found
    exact ⟨part, there, succeeds_elements.mp ⟨items, listed⟩⟩
  · rintro ⟨part, there, fits⟩
    obtain ⟨items, listed⟩ := succeeds_elements.mpr fits
    exact ⟨items, bind_eq_ok.mpr ⟨part, there, listed⟩⟩

/-- The characters of a text and the keys of an object are texts, which are no records. -/
theorem fits_records : (records keys).Fits value ↔
    ∃ items, value.elements = .ok items ∧ ∀ item ∈ items, HasKeys keys item := by
  have noRecord : ∀ {s : String}, ¬ HasKeys keys (.str s) := by
    intro s has
    obtain ⟨members, same⟩ := has.isObject
    cases same
  constructor
  · intro fits
    cases fits with
    | recordArray all => exact ⟨_, rfl, all⟩
    | noText => exact ⟨[], rfl, by simp⟩
    | noMembers => exact ⟨[], rfl, by simp⟩
  · rintro ⟨items, found, all⟩
    cases value with
    | arr items =>
      cases found
      exact .recordArray all
    | str s =>
      cases found
      cases chars : s.toList with
      | nil =>
        obtain rfl : s = "" := String.toList_eq_nil_iff.mp chars
        exact .noText
      | cons c rest =>
        rw [chars] at all
        exact absurd (all _ (List.mem_cons_self ..)) noRecord
    | obj members =>
      cases found
      cases members with
      | nil => exact .noMembers
      | cons m rest => exact absurd (all _ (List.mem_cons_self ..)) noRecord
    | null | bool | int | float => cases found

/-- Records can be read at a key if and only if what is there has elements, each with the keys of a
record. -/
theorem succeeds_recordsAt {α : Type} {read : Json → Except Misfit α} (reads : Reads read keys) :
    Succeeds (value.recordsAt key read) ↔ (records keys).At key value := by
  constructor
  · rintro ⟨xs, found⟩
    obtain ⟨items, listed, run⟩ := bind_eq_ok.mp found
    obtain ⟨part, there, elements⟩ := bind_eq_ok.mp listed
    refine ⟨part, there, fits_records.mpr ⟨items, elements, ?_⟩⟩
    exact fun item member => (reads item).mp (succeeds_mapM.mp ⟨xs, run⟩ item member)
  · rintro ⟨part, there, fits⟩
    obtain ⟨items, elements, all⟩ := fits_records.mp fits
    obtain ⟨xs, run⟩ := succeeds_mapM.mpr fun item member => (reads item).mpr (all item member)
    exact ⟨xs, bind_eq_ok.mpr ⟨items, bind_eq_ok.mpr ⟨part, there, elements⟩, run⟩⟩

section Readers

theorem toField_reads : Reads Json.toField fieldKeys := by
  intro value
  rw [fieldKeys, hasKeys_cons, hasKeys_singleton, ← succeeds_member, ← succeeds_member]
  exact succeeds_bind fun name => succeeds_map

theorem toFunction_reads : Reads Json.toFunction functionKeys := by
  intro value
  rw [functionKeys, hasKeys_cons, hasKeys_cons, hasKeys_cons, hasKeys_singleton, ← succeeds_member,
    ← succeeds_member, ← succeeds_elementsAt, ← succeeds_recordsAt toField_reads]
  exact succeeds_bind fun name => succeeds_bind fun typeParams => succeeds_bind fun params =>
    succeeds_map

theorem toEnum_reads : Reads Json.toEnum enumKeys := by
  intro value
  rw [enumKeys, hasKeys_cons, hasKeys_cons, hasKeys_singleton, ← succeeds_member,
    ← succeeds_elementsAt, ← succeeds_elementsAt]
  exact succeeds_bind fun name => succeeds_bind fun typeParams => succeeds_map

theorem toStruct_reads : Reads Json.toStruct structKeys := by
  intro value
  rw [structKeys, hasKeys_cons, hasKeys_cons, hasKeys_singleton, ← succeeds_member,
    ← succeeds_elementsAt, ← succeeds_recordsAt toField_reads]
  exact succeeds_bind fun name => succeeds_bind fun typeParams => succeeds_map

theorem toTrait_reads : Reads Json.toTrait traitKeys := by
  intro value
  rw [traitKeys, hasKeys_cons, hasKeys_cons, hasKeys_cons, hasKeys_singleton, ← succeeds_member,
    ← succeeds_elementsAt, ← succeeds_elementsAt, ← succeeds_recordsAt toFunction_reads]
  exact succeeds_bind fun name => succeeds_bind fun typeParams => succeeds_bind fun superTraits =>
    succeeds_map

theorem toMethodGroup_reads : Reads Json.toMethodGroup groupKeys := by
  intro value
  rw [groupKeys, hasKeys_cons, hasKeys_singleton, ← succeeds_member,
    ← succeeds_recordsAt toFunction_reads]
  exact succeeds_bind fun target => succeeds_map

theorem toIssue_reads : Reads Json.toIssue issueKeys := by
  intro value
  rw [issueKeys, hasKeys_cons, hasKeys_cons, hasKeys_cons, hasKeys_singleton, ← succeeds_member,
    ← succeeds_member, ← succeeds_member, ← succeeds_member]
  exact succeeds_bind fun file => succeeds_bind fun kind => succeeds_bind fun snippet => succeeds_map

/-- A module can be read if and only if all its keys are there, down to those of its records. -/
theorem toModule_reads : Reads Json.toModule moduleKeys := by
  intro value
  rw [moduleKeys, hasKeys_cons, hasKeys_cons, hasKeys_cons, hasKeys_cons, hasKeys_cons, hasKeys_cons,
    hasKeys_cons, hasKeys_cons, hasKeys_singleton, ← succeeds_member, ← succeeds_elementsAt,
    ← succeeds_recordsAt toField_reads, ← succeeds_recordsAt toEnum_reads,
    ← succeeds_recordsAt toStruct_reads, ← succeeds_recordsAt toTrait_reads,
    ← succeeds_recordsAt toFunction_reads, ← succeeds_recordsAt toMethodGroup_reads,
    ← succeeds_recordsAt toIssue_reads]
  exact succeeds_bind fun file => succeeds_bind fun parts => succeeds_bind fun consts =>
    succeeds_bind fun enums => succeeds_bind fun structs => succeeds_bind fun traits =>
    succeeds_bind fun functions => succeeds_bind fun groups => succeeds_map

end Readers

end Shape

namespace Json

/-- The values that count as the number one. A float has the value one if it is a power of two times
the same power of one half. -/
inductive IsOne : Json → Prop
  | int : IsOne (.int 1)
  | bool : IsOne (.bool true)
  | float (k : Nat) : IsOne (.float (.finite false (2 ^ k) (-k)))

/-- A binary fraction is one if and only if its significand is the power of two that its exponent
takes away. -/
theorem quotient_eq_one {significand : Nat} {exponent : Int} :
    (Binary64.quotient significand exponent).1 = (Binary64.quotient significand exponent).2 ↔
      ∃ k : Nat, significand = 2 ^ k ∧ exponent = -k := by
  unfold Binary64.quotient
  by_cases small : exponent < 0
  · rw [if_pos small]
    constructor
    · intro same
      exact ⟨exponent.natAbs, same, by omega⟩
    · rintro ⟨k, rfl, rfl⟩
      simp
  · rw [if_neg small]
    constructor
    · intro same
      have one : significand = 1 := Nat.eq_one_of_mul_eq_one_right same
      have power : Nat.pow 2 exponent.natAbs = 1 := Nat.eq_one_of_mul_eq_one_left same
      have zero : exponent.natAbs = 0 := by simpa using power
      exact ⟨0, by rw [one, Nat.pow_zero], by omega⟩
    · rintro ⟨k, rfl, rfl⟩
      obtain rfl : k = 0 := by omega
      rfl

theorem quotient_pos (significand : Nat) (exponent : Int) :
    0 < (Binary64.quotient significand exponent).2 := by
  unfold Binary64.quotient
  split
  · exact Nat.two_pow_pos _
  · exact Nat.one_pos

/-- A float is equal to one in just the spellings `2 ^ k * 2 ^ -k`. -/
theorem compareInt?_one {x : Binary64} :
    x.compareInt? 1 = some .eq ↔ ∃ k : Nat, x = .finite false (2 ^ k) (-k) := by
  cases x with
  | nan => simp [Binary64.compareInt?]
  | infinite negative => cases negative <;> simp [Binary64.compareInt?]
  | finite negative significand exponent =>
    have positive := quotient_pos significand exponent
    rw [Binary64.compareInt?, Option.some.injEq, Std.LawfulEqCmp.compare_eq_iff_eq, Binary64.fraction]
    cases negative with
    | true =>
      simp only [if_true, Binary64.finite.injEq, Bool.true_eq_false, false_and, exists_false, iff_false]
      omega
    | false =>
      simp only [Bool.false_eq_true, if_false, Binary64.finite.injEq, true_and]
      rw [← quotient_eq_one]
      omega

/-- A tag is the current version if and only if it is equal to one: as an integer, a float or a
truth value. -/
theorem same_version_iff (tag : Json) : tag.same (.int schemaVersion) = true ↔ tag.IsOne := by
  constructor
  · intro same
    cases tag with
    | null | str | arr | obj => cases same
    | bool b =>
      cases b with
      | false => cases same
      | true => exact .bool
    | int n =>
      have one : n = 1 := by
        simpa [Json.same, sameScalar, number?, sameNumber, compareNumbers?, schemaVersion] using same
      subst one
      exact .int
    | float x =>
      have one : x.compareInt? 1 = some .eq := by
        cases x with
        | nan => cases same
        | infinite | finite =>
          simpa [Json.same, sameScalar, number?, sameNumber, compareNumbers?, schemaVersion] using same
      obtain ⟨k, rfl⟩ := compareInt?_one.mp one
      exact .float k
  · intro one
    cases one with
    | int => decide
    | bool => decide
    | float k =>
      have one := compareInt?_one.mpr ⟨k, rfl⟩
      simpa [Json.same, sameScalar, number?, sameNumber, compareNumbers?, schemaVersion] using one

/-- A value is an object whose schema tag is the current one. -/
def HasCurrentSchema (value : Json) : Prop :=
  ∃ members tag, value = .obj members ∧ members.lookup "schema" = some tag ∧ tag.IsOne

theorem hasCurrentSchema_iff {value : Json} :
    value.schemaTag.same (.int schemaVersion) = true ↔ value.HasCurrentSchema := by
  rw [same_version_iff]
  constructor
  · intro one
    cases value with
    | obj members =>
      cases found : members.lookup "schema" with
      | none =>
        rw [schemaTag, found] at one
        cases one
      | some tag =>
        rw [schemaTag, found] at one
        exact ⟨members, tag, rfl, found, one⟩
    | null | bool | int | float | str | arr => cases one
  · rintro ⟨members, tag, rfl, found, one⟩
    rw [schemaTag, found]
    exact one

end Json

namespace Document

/-- The three ways in which a value is taken for a document or refused. -/
inductive Judged (value : Json) : Except LoadError Document → Prop
  | schema : ¬ value.HasCurrentSchema → Judged value (.error (.schema value.schemaTag))
  | loaded {d : Document} : value.HasCurrentSchema → Shape.HasKeys Shape.documentKeys value →
      Judged value (.ok d)
  | malformed {misfit : Misfit} : value.HasCurrentSchema → ¬ Shape.HasKeys Shape.documentKeys value →
      Judged value (.error (.malformed misfit))

/-- A value is judged by its tag first, and by its keys after that. -/
theorem toDocument_judged (value : Json) : Judged value value.toDocument := by
  have modules : Succeeds (value.recordsAt "modules" Json.toModule) ↔
      Shape.HasKeys Shape.documentKeys value :=
    (Shape.succeeds_recordsAt Shape.toModule_reads).trans Shape.hasKeys_singleton.symm
  unfold Json.toDocument
  by_cases tagged : value.schemaTag.same (.int schemaVersion) = true
  · have current := Json.hasCurrentSchema_iff.mp tagged
    rw [if_pos tagged]
    cases found : value.recordsAt "modules" Json.toModule with
    | ok records => exact .loaded current (modules.mp ⟨records, found⟩)
    | error misfit =>
      refine .malformed current fun has => ?_
      obtain ⟨records, listed⟩ := modules.mpr has
      rw [found] at listed
      cases listed
  · rw [if_neg tagged]
    exact .schema fun current => tagged (Json.hasCurrentSchema_iff.mpr current)

theorem load_of_read {text : String} {value : Json} (read : Json.read text = .ok value) :
    load text = value.toDocument := by
  rw [load, read]
  rfl

/-- A text that cannot be read is a fault of JSON, whatever else is wrong with it. -/
theorem load_of_fault {text : String} {fault : Json.Fault} (read : Json.read text = .error fault) :
    load text = .error (.json fault) := by
  rw [load, read]
  rfl

/-- How the loading of a text ends, for every text. It is refused by the reader of values, and then
with the reader's own fault, which is about the size of an integer only if the text has too many
digits in a row; or else for its schema tag; or else it has a document, where all lists and keys are
as they should be; or else it is malformed, and the message says so. -/
theorem load_outcomes (text : String) :
    ((∃ fault, load text = .error (.json fault)) ↔ ∀ value, Json.read text ≠ .ok value) ∧
    (∀ fault, load text = .error (.json fault) → Json.read text = .error fault ∧
      ∀ digits, fault.complaint = .integerSize digits → Json.HasLongInteger digits text.toList) ∧
    ((∃ tag, load text = .error (.schema tag)) ↔
      ∃ value, Json.read text = .ok value ∧ ¬ value.HasCurrentSchema) ∧
    ((∃ d, load text = .ok d) ↔
      ∃ value, Json.read text = .ok value ∧ value.HasCurrentSchema ∧
        Shape.HasKeys Shape.documentKeys value) ∧
    ((∃ misfit, load text = .error (.malformed misfit) ∧
        (LoadError.malformed misfit).message text = "Malformed extractor output: " ++ misfit.message) ↔
      ∃ value, Json.read text = .ok value ∧ value.HasCurrentSchema ∧
        ¬ Shape.HasKeys Shape.documentKeys value) := by
  have message : ∀ misfit, (LoadError.malformed misfit).message text =
      "Malformed extractor output: " ++ misfit.message := fun _ => rfl
  simp only [message, and_true]
  cases read : Json.read text with
  | error fault =>
    rw [load_of_fault read]
    refine ⟨by simp, ?_, by simp, by simp, by simp⟩
    intro other same
    cases same
    exact ⟨rfl, fun digits size => Json.hasLongInteger_of_read read size⟩
  | ok value =>
    rw [load_of_read read]
    have judged := toDocument_judged value
    generalize value.toDocument = result at judged
    cases judged with
    | schema other => simp [other]
    | loaded current has => simp [current, has]
    | malformed current lacks => simp [current, lacks]

section Endings

/-- A document without modules, which stand as an empty text, and with a truth value as its tag. -/
def blankDocument : Json :=
  .obj [("modules", .str ""), ("schema", .bool true)]

/-- A value of the current schema whose modules stand as an object with a key. -/
def keyedDocument : Json :=
  .obj [("schema", .int 1), ("modules", .obj [("a", .null)])]

theorem blankDocument_hasKeys : Shape.HasKeys Shape.documentKeys blankDocument :=
  .cons rfl .noText .nil

theorem keyedDocument_lacksKeys : ¬ Shape.HasKeys Shape.documentKeys keyedDocument := by
  intro has
  cases has with
  | cons found fits rest =>
    cases found
    cases fits

/-- Each of the four outcomes has a text that ends in it. -/
theorem four_texts_end_apart :
    (∃ fault, load (String.ofList ['\x7b']) = .error (.json fault)) ∧
    (∃ tag, load (String.ofList (Json.arr []).writeCompact) = .error (.schema tag)) ∧
    (∃ d, load (String.ofList blankDocument.writeCompact) = .ok d) ∧
    ∃ misfit, load (String.ofList keyedDocument.writeCompact) = .error (.malformed misfit) ∧
      (LoadError.malformed misfit).message (String.ofList keyedDocument.writeCompact) =
        "Malformed extractor output: " ++ misfit.message := by
  have list : Json.read (String.ofList (Json.arr []).writeCompact) = .ok (.arr []) :=
    (Json.Legible.arr (by simp)).read_writeCompact (.arr (by simp))
  have blank : Json.read (String.ofList blankDocument.writeCompact) = .ok blankDocument := by
    refine Json.Legible.read_writeCompact (.obj (by simp) ?_) (.obj ?_)
    · simp [Json.Legible.str, Json.Legible.bool]
    · simp [Json.FloatFree.str, Json.FloatFree.bool]
  have keyed : Json.read (String.ofList keyedDocument.writeCompact) = .ok keyedDocument := by
    have tag : (Json.int 1).Legible := .int (by decide)
    have modules : (Json.obj [("a", .null)]).Legible := .obj (by simp) (by simp [Json.Legible.null])
    have plain : (Json.obj [("a", .null)]).FloatFree := .obj (by simp [Json.FloatFree.null])
    refine Json.Legible.read_writeCompact (.obj (by simp) ?_) (.obj ?_)
    · simp [tag, modules]
    · simp [Json.FloatFree.int, plain]
  refine ⟨(load_outcomes _).1.mpr ?_, (load_outcomes _).2.2.1.mpr ⟨_, list, ?_⟩,
    (load_outcomes _).2.2.2.1.mpr ⟨_, blank, ?_, blankDocument_hasKeys⟩,
    (load_outcomes _).2.2.2.2.mpr ⟨_, keyed, ?_, keyedDocument_lacksKeys⟩⟩
  · intro value read
    rw [Json.read, String.toList_ofList] at read
    cases read
  · rintro ⟨members, tag, same, _⟩
    cases same
  · exact ⟨_, _, rfl, rfl, .bool⟩
  · exact ⟨_, _, rfl, rfl, .int⟩

end Endings

end Document

end CrateSurface
