import CrateSurface.Proofs.DocumentText
import CrateSurface.Proofs.ModuleOrder
import CrateSurface.Proofs.SortingTies

namespace CrateSurface

open Sorting

/-- The text that a value is; other values count as the empty one. -/
def Json.textOrEmpty : Json → String
  | .str s => s
  | _ => ""

theorem Json.textOrEmpty_texts (names : List String) :
    (names.map Json.str).map Json.textOrEmpty = names := by
  rw [List.map_map]
  exact List.map_id names

namespace Module

/-- What modules are put in order by: the path, and then the file. -/
def orderKey (m : Module Json) : Lex (String × String) :=
  toLex (pathKey (m.parts.map Json.textOrEmpty), m.file.textOrEmpty)

/-- All that a module and its method groups are put in order by are texts. -/
structure HasTextKeys (m : Module Json) : Prop where
  file : ∃ s, m.file = .str s
  parts : ∃ names : List String, m.parts = names.map .str
  targets : ∀ group ∈ m.pendingMethods, ∃ s, group.target = .str s

/-- The module `after` is `before` with its method groups stably sorted by target. -/
structure GroupsArranged (before after : Module Json) : Prop where
  groups : IsStableSort (fun group : MethodGroup Json => group.target.textOrEmpty)
    before.pendingMethods after.pendingMethods
  others : { after with pendingMethods := before.pendingMethods } = before

/-- The order of modules, by their paths and then by their files. -/
def comesBefore (a b : Module Json) : Bool :=
  a.orderKey < b.orderKey

/-- The module with its method groups in the order of their targets. -/
def groupsSorted (m : Module Json) : Module Json :=
  { m with pendingMethods :=
      sortWith (fun a b => a.target.textOrEmpty < b.target.textOrEmpty) m.pendingMethods }

theorem comesBefore_iff (a b : Module Json) :
    a.comesBefore b = true ↔ a.orderKey < b.orderKey := by
  simp [comesBefore]

theorem comesBefore_ranks : Ranks comesBefore :=
  .ofKey _ comesBefore_iff

theorem targets_ranks : Ranks fun a b : MethodGroup Json =>
    decide (a.target.textOrEmpty < b.target.textOrEmpty) :=
  .ofKey (fun group : MethodGroup Json => group.target.textOrEmpty) (by simp)

theorem groupsArranged_groupsSorted (m : Module Json) : m.GroupsArranged m.groupsSorted :=
  ⟨sortWith_isStableSort (by simp) m.pendingMethods, rfl⟩

theorem groupsSorted_groupsSorted (m : Module Json) : m.groupsSorted.groupsSorted = m.groupsSorted := by
  have again := sortWith_of_inOrder targets_ranks (sortWith_inOrder targets_ranks m.pendingMethods)
  simp only [groupsSorted, again]

theorem HasTextKeys.groupsSorted {m : Module Json} (texts : m.HasTextKeys) :
    m.groupsSorted.HasTextKeys where
  file := texts.file
  parts := texts.parts
  targets group member := texts.targets group ((sortWith_perm _ _).mem_iff.mp member)

end Module

namespace Document

section Comparisons

theorem lessPair_texts (p q f g : String) :
    Json.lessPair (.str p, .str f) (.str q, .str g) = .ok (decide (toLex (p, f) < toLex (q, g))) := by
  have same : ∀ a b : String, (Json.str a).same (.str b) = (a == b) := fun a b => by simp [Json.same]
  have less : ∀ a b : String, (Json.str a).less (.str b) = .ok (decide (a < b)) := fun a b => by
    simp [Json.less]
  simp only [Json.lessPair, same, less, Prod.Lex.toLex_lt_toLex]
  by_cases paths : p = q
  · by_cases files : f = g
    · simp [paths, files]
    · simp [paths, files]
  · simp [paths]

theorem pathTexts_texts (names : List String) : ∀ index, pathTexts index (names.map .str) = .ok names := by
  induction names with
  | nil => exact fun _ => rfl
  | cons name names ih =>
    intro index
    rw [List.map_cons, pathTexts, ih]
    rfl

theorem pathKey?_of_textKeys {m : Module Json} (texts : m.HasTextKeys) :
    m.pathKey? = .ok (pathKey (m.parts.map Json.textOrEmpty)) := by
  obtain ⟨names, same⟩ := texts.parts
  rw [Module.pathKey?, same, pathTexts_texts, Json.textOrEmpty_texts]
  rfl

end Comparisons

/-- Modules with texts for keys all get their paths. -/
theorem keyedFrom_of_textKeys {modules : List (Module Json)} : ∀ place,
    (∀ m ∈ modules, m.HasTextKeys) → ∃ keyed, keyedFrom place modules = .ok keyed ∧
      ∀ k ∈ keyed, k.module ∈ modules ∧ k.path = pathKey (k.module.parts.map Json.textOrEmpty) := by
  induction modules with
  | nil => exact fun _ _ => ⟨[], rfl, by simp⟩
  | cons m rest ih =>
    intro place texts
    obtain ⟨own, others⟩ := List.forall_mem_cons.mp texts
    obtain ⟨keyed, found, named⟩ := ih (place + 1) others
    refine ⟨⟨pathKey (m.parts.map Json.textOrEmpty), place, m⟩ :: keyed, ?_,
      List.forall_mem_cons.mpr ⟨⟨List.mem_cons_self .., rfl⟩, ?_⟩⟩
    · rw [keyedFrom, pathKey?_of_textKeys own, found]
      rfl
    · exact fun k member => ⟨List.mem_cons_of_mem _ (named k member).1, (named k member).2⟩

/-- The groups of modules with texts in their paths can all be sorted. -/
theorem sortGroups_of_textKeys {modules : List (Module Json)} :
    (∀ m ∈ modules, m.HasTextKeys) → sortGroups modules = (modules.map Module.groupsSorted, none) := by
  induction modules with
  | nil => exact fun _ => rfl
  | cons m rest ih =>
    intro texts
    obtain ⟨own, others⟩ := List.forall_mem_cons.mp texts
    have decides : DecidesAmong (fun a b : MethodGroup Json => a.target.less b.target)
        (fun a b => decide (a.target.textOrEmpty < b.target.textOrEmpty)) m.pendingMethods := by
      intro a member b memberToo
      obtain ⟨s, left⟩ := own.targets a member
      obtain ⟨t, right⟩ := own.targets b memberToo
      simp [left, right, Json.less, Json.textOrEmpty]
    rw [sortGroups, decides.sort, ih others]
    rfl

/-- Modules with texts for keys are sorted by path and file, each with its groups sorted. -/
theorem arrange_of_textKeys {modules : List (Module Json)} (texts : ∀ m ∈ modules, m.HasTextKeys) :
    arrange modules = ⟨(sortWith Module.comesBefore modules).map Module.groupsSorted, none⟩ := by
  obtain ⟨keyed, found, named⟩ := keyedFrom_of_textKeys 0 texts
  have decides : DecidesAmong Keyed.less (fun a b => a.module.comesBefore b.module) keyed := by
    intro a member b memberToo
    obtain ⟨among, path⟩ := named a member
    obtain ⟨amongToo, pathToo⟩ := named b memberToo
    obtain ⟨s, file⟩ := (texts _ among).file
    obtain ⟨t, fileToo⟩ := (texts _ amongToo).file
    rw [Keyed.less, path, pathToo, file, fileToo, lessPair_texts]
    simp [Module.comesBefore, Module.orderKey, file, fileToo, Json.textOrEmpty]
  have ordered : (sortWith (fun a b : Keyed => a.module.comesBefore b.module) keyed).map (·.module) =
      sortWith Module.comesBefore modules := by
    rw [← sortWith_map Module.comesBefore_ranks (fun _ _ => rfl), keyedFrom_modules found]
  have sorted : sortGroups (sortWith Module.comesBefore modules) =
      ((sortWith Module.comesBefore modules).map Module.groupsSorted, none) :=
    sortGroups_of_textKeys fun m member => texts m ((sortWith_perm _ _).mem_iff.mp member)
  simp only [arrange, found, decides.sort, ordered, sorted]

/-- A document with texts in its paths is assembled whole, in the order of its modules. -/
theorem assemble_of_textKeys {modules : List (Module Json)} (texts : ∀ m ∈ modules, m.HasTextKeys)
    (tag : Json) :
    assemble ⟨tag, modules⟩ =
      (⟨.int schemaVersion, (sortWith Module.comesBefore modules).map Module.groupsSorted⟩, none) := by
  simp only [assemble, sort, arrange_of_textKeys texts]

/-- What was put in order once stays as it is. -/
theorem assemble_assembled {modules : List (Module Json)} (texts : ∀ m ∈ modules, m.HasTextKeys)
    (tag : Json) :
    let sorted := (sortWith Module.comesBefore modules).map Module.groupsSorted
    assemble ⟨tag, sorted⟩ = (⟨.int schemaVersion, sorted⟩, none) := by
  intro sorted
  have kept : ∀ m ∈ sorted, m.HasTextKeys := by
    intro m member
    obtain ⟨source, among, rfl⟩ := List.mem_map.mp member
    exact (texts source ((sortWith_perm _ _).mem_iff.mp among)).groupsSorted
  have ordered : InOrder Module.comesBefore sorted :=
    List.pairwise_map.mpr (sortWith_inOrder Module.comesBefore_ranks modules)
  have again : sorted.map Module.groupsSorted = sorted := by
    rw [List.map_map]
    exact List.map_congr_left fun m _ => m.groupsSorted_groupsSorted
  rw [assemble_of_textKeys kept, sortWith_of_inOrder Module.comesBefore_ranks ordered, again]

/-- The order of the modules before changes nothing, if their keys are distinct. -/
theorem assemble_perm {modules others : List (Module Json)} (texts : ∀ m ∈ modules, m.HasTextKeys)
    (distinct : (modules.map Module.orderKey).Nodup) (perm : others.Perm modules) (tag : Json) :
    assemble ⟨tag, others⟩ =
      (⟨.int schemaVersion, (sortWith Module.comesBefore modules).map Module.groupsSorted⟩, none) := by
  have apart : modules.Pairwise fun a b => tied Module.comesBefore a b = false := by
    refine (List.pairwise_map.mp distinct).imp fun {a b} differ => ?_
    rw [Bool.eq_false_iff, Ne, tied_iff_key Module.comesBefore_iff]
    exact differ
  rw [assemble_of_textKeys fun m member => texts m (perm.mem_iff.mp member),
    sortWith_eq_of_perm Module.comesBefore_ranks perm.symm apart]

theorem hereditary_allFinite : Json.Hereditary fun value => value.allFinite = true where
  str _ := rfl
  version := rfl
  arr := Json.allFiniteItems_iff
  obj _ := Json.allFiniteMembers_iff.mpr
  of_obj := Json.allFiniteMembers_iff.mp

/-- Modules without numbers that are not finite have a text once they are in order. -/
theorem exists_text {modules : List (Module Json)}
    (finite : ∀ m ∈ modules, m.toJson.allFinite = true) :
    ∃ text, Document.serialize? ⟨.int schemaVersion,
      (sortWith Module.comesBefore modules).map Module.groupsSorted⟩ = some text := by
  have kept : (Document.toJson ⟨.int schemaVersion,
      (sortWith Module.comesBefore modules).map Module.groupsSorted⟩).allFinite = true := by
    refine hereditary_allFinite.ofModules fun m member => ?_
    obtain ⟨source, among, rfl⟩ := List.mem_map.mp member
    exact hereditary_allFinite.withGroups (finite source ((sortWith_perm _ _).mem_iff.mp among))
      fun group => (sortWith_perm _ _).mem_iff.mp
  exact ⟨_, by rw [serialize?, Json.compact?, if_pos kept]⟩

section Records

theorem hasTextKeys_ofRecord (record : Module String) : (Module.ofRecord record).HasTextKeys where
  file := ⟨record.file, rfl⟩
  parts := ⟨record.parts, rfl⟩
  targets group member := by
    obtain ⟨source, _, rfl⟩ := List.mem_map.mp member
    exact ⟨source.target, rfl⟩

theorem orderKey_ofRecord (record : Module String) :
    (Module.ofRecord record).orderKey = toLex (pathKey record.parts, record.file) := by
  rw [Module.orderKey]
  exact congrArg (fun parts => toLex (pathKey parts, record.file))
    (Json.textOrEmpty_texts record.parts)

theorem groupsSorted_ofRecord (record : Module String) :
    (Module.ofRecord record).groupsSorted = Module.ofRecord record.sortGroups := by
  have groups : sortWith (fun a b : MethodGroup Json =>
        decide (a.target.textOrEmpty < b.target.textOrEmpty))
        (record.pendingMethods.map (·.map Json.str)) =
      (sortWith (fun a b => decide (a.target < b.target)) record.pendingMethods).map
        (·.map Json.str) :=
    sortWith_map Module.targets_ranks (fun _ _ => rfl) record.pendingMethods
  exact congrArg (fun sorted => { Module.ofRecord record with pendingMethods := sorted }) groups

/-- The document of a walk is what its records are assembled into. -/
theorem assemble_ofRecords (records : List (Module String)) (tag : Json) :
    assemble ⟨tag, records.map Module.ofRecord⟩ = (ofRecords records, none) := by
  have texts : ∀ m ∈ records.map Module.ofRecord, m.HasTextKeys :=
    List.forall_mem_map.mpr fun record _ => hasTextKeys_ofRecord record
  have ordered : sortWith Module.comesBefore (records.map Module.ofRecord) =
      (sortWith Module.precedes records).map Module.ofRecord := by
    refine sortWith_map Module.comesBefore_ranks (fun a b => ?_) records
    rw [Bool.eq_iff_iff, Module.comesBefore_iff, Module.precedes_iff, orderKey_ofRecord,
      orderKey_ofRecord]
  have grouped : ∀ sorted : List (Module String),
      (sorted.map Module.ofRecord).map Module.groupsSorted =
        (sorted.map Module.sortGroups).map Module.ofRecord := by
    intro sorted
    rw [List.map_map, List.map_map]
    exact List.map_congr_left fun record _ => groupsSorted_ofRecord record
  rw [assemble_of_textKeys texts, ordered, grouped]
  rfl

end Records

/-- Modules whose paths, files and targets are texts can be put in order: they are stably sorted by
path and file, and in each of them the method groups are stably sorted by target and nothing else is
changed. So a document that was assembled is assembled into itself, and modules that differ in path
or file are assembled into one document, with one text, whatever order they come in. The records of
a walk are put in order the same way. -/
theorem modules_arranged {modules : List (Module Json)} (texts : ∀ m ∈ modules, m.HasTextKeys) :
    (∃ ordered sorted, arrange modules = ⟨sorted, none⟩ ∧
      IsStableSort Module.orderKey modules ordered ∧
      List.Forall₂ Module.GroupsArranged ordered sorted) ∧
    (∃ d : Document, ∀ tag, assemble ⟨tag, modules⟩ = (d, none) ∧
      assemble ⟨tag, d.modules⟩ = (d, none)) ∧
    ((modules.map Module.orderKey).Nodup → ∃ d : Document,
      (∀ others, others.Perm modules → ∀ tag, assemble ⟨tag, others⟩ = (d, none)) ∧
      ((∀ m ∈ modules, m.toJson.allFinite = true) → ∃ text, d.serialize? = some text)) ∧
    ∀ (records : List (Module String)) tag,
      assemble ⟨tag, records.map Module.ofRecord⟩ = (ofRecords records, none) := by
  refine ⟨?_, ?_, ?_, assemble_ofRecords⟩
  · refine ⟨sortWith Module.comesBefore modules, _, arrange_of_textKeys texts,
      sortWith_isStableSort Module.comesBefore_iff modules, ?_⟩
    rw [List.forall₂_map_right_iff, List.forall₂_same]
    exact fun m _ => m.groupsArranged_groupsSorted
  · exact ⟨_, fun tag => ⟨assemble_of_textKeys texts tag, assemble_assembled texts tag⟩⟩
  · intro distinct
    exact ⟨_, fun others perm tag => assemble_perm texts distinct perm tag, exists_text⟩

namespace ShuffledModules

/-- A public constant of a type that is no text. -/
def constant : Field Json := ⟨.str "C", .int 7⟩

/-- A module with a path and groups of methods. -/
def moduleOf (file : String) (parts : List String) (groups : List (MethodGroup Json)) : Module Json :=
  ⟨.str file, parts.map .str, [constant], [], [], [], [], groups, []⟩

/-- A method without parameters. -/
def method (name : String) : Function Json := ⟨.str name, [], [], .str "()"⟩

/-- Two files of one module, the root, and three groups of methods for two targets. -/
def shuffled : List (Module Json) :=
  [moduleOf "/b.rs" ["m"] [⟨.str "T", [method "x"]⟩, ⟨.str "S", []⟩, ⟨.str "T", []⟩],
    moduleOf "/a.rs" ["m"] [], moduleOf "/lib.rs" [] []]

theorem hasTextKeys : ∀ m ∈ shuffled, m.HasTextKeys := by
  have plain : ∀ file parts groups, (∀ group ∈ groups, ∃ s, group.target = .str s) →
      (moduleOf file parts groups).HasTextKeys := fun file parts groups targets =>
    ⟨⟨file, rfl⟩, ⟨parts, rfl⟩, targets⟩
  simp only [shuffled, List.forall_mem_cons]
  exact ⟨plain _ _ _ (by simp), plain _ _ _ (by simp), plain _ _ _ (by simp), by simp⟩

end ShuffledModules

open ShuffledModules in
/-- Modules in either order are arranged alike, and stay so. -/
theorem shuffled_modules_arranged :
    ∃ d : Document, assemble ⟨.null, shuffled⟩ = (d, none) ∧
      assemble ⟨.null, shuffled.reverse⟩ = (d, none) ∧ assemble ⟨.null, d.modules⟩ = (d, none) ∧
      (∃ text, d.serialize? = some text) ∧
      d.modules.map (·.file.textOrEmpty) = ["/lib.rs", "/a.rs", "/b.rs"] ∧
      d.modules.flatMap (·.pendingMethods.map fun group => group.methods.length) = [0, 1, 0] := by
  have distinct : (shuffled.map Module.orderKey).Nodup := by decide
  have finite : ∀ m ∈ shuffled, m.toJson.allFinite = true := by decide
  obtain ⟨_, ⟨once, again⟩, one, _⟩ := modules_arranged hasTextKeys
  obtain ⟨d, same, text⟩ := one distinct
  have here := same shuffled (List.Perm.refl _) .null
  obtain rfl : once = d := congrArg Prod.fst ((again .null).1.symm.trans here)
  have files : (assemble ⟨.null, shuffled⟩).1.modules.map (·.file.textOrEmpty) =
      ["/lib.rs", "/a.rs", "/b.rs"] := by decide
  have groups : (assemble ⟨.null, shuffled⟩).1.modules.flatMap
      (·.pendingMethods.map fun group => group.methods.length) = [0, 1, 0] := by decide
  rw [here] at files groups
  exact ⟨once, here, same _ (List.reverse_perm _) .null, (again .null).2, text finite, files, groups⟩

end Document

end CrateSurface
