import CrateSurface.Proofs.ExtractionResults
import CrateSurface.Proofs.FirstOccurrences
import CrateSurface.Proofs.Sessions
import CrateSurface.Proofs.SortingTies
import Mathlib.Algebra.BigOperators.Group.Finset.Basic
import Mathlib.Algebra.GroupWithZero.Nat
import Mathlib.Data.String.Basic

namespace CrateSurface

section Occurrences

variable {α : Type} [DecidableEq α]

theorem eraseDups_perm_of_mem_iff {xs ys : List α} (same : ∀ a, a ∈ xs ↔ a ∈ ys) (distinct : ys.Nodup) :
    xs.eraseDups.Perm ys :=
  (List.perm_ext_iff_of_nodup (nodup_eraseDups xs) distinct).mpr fun a => by
    rw [List.mem_eraseDups, same]

theorem eraseDups_perm {xs ys : List α} (perm : xs.Perm ys) : xs.eraseDups.Perm ys.eraseDups :=
  eraseDups_perm_of_mem_iff (fun a => by rw [List.mem_eraseDups, perm.mem_iff]) (nodup_eraseDups ys)

theorem eraseDups_perm_dedup (items : List α) : items.eraseDups.Perm items.dedup :=
  eraseDups_perm_of_mem_iff (fun _ => List.mem_dedup.symm) items.nodup_dedup

theorem length_eraseDups (items : List α) : items.eraseDups.length = items.toFinset.card := by
  rw [(eraseDups_perm_dedup items).length_eq, List.card_toFinset]

theorem sum_count_eraseDups (items : List α) :
    (items.eraseDups.map (items.count ·)).sum = items.length := by
  rw [((eraseDups_perm_dedup items).map _).sum_eq, items.sum_map_count_dedup_eq_length]

end Occurrences

namespace Stats

/-- Counts that are the same but for the order of the kinds of issues. -/
structure SameCounts {α : Type} (s t : Stats α) : Prop where
  kinds : s.issuesByKind.Perm t.issuesByKind
  others : { s with issuesByKind := t.issuesByKind } = t

theorem SameCounts.files_eq {α : Type} {s t : Stats α} (same : SameCounts s t) :
    s.files = t.files := by
  rw [← same.others]

theorem SameCounts.modules_eq {α : Type} {s t : Stats α} (same : SameCounts s t) :
    s.modules = t.modules := by
  rw [← same.others]

/-- How many issues of a kind were counted. -/
def countOf {α : Type} [BEq α] (s : Stats α) (kind : α) : Nat :=
  (s.issuesByKind.lookup kind).getD 0

/-- The counts that are taken module by module, each with what it counts in a module. -/
def counters {α : Type} : List ((Stats α → Nat) × (Module α → Nat)) :=
  [(modules, fun _ => 1), (consts, (·.consts.length)), (enums, (·.enums.length)),
    (structs, (·.structs.length)), (traits, (·.traits.length)), (functions, (·.functions.length)),
    (methodGroups, (·.pendingMethods.length)), (issues, (·.issues.length))]

section Counts

variable {α : Type} [DecidableEq α]

theorem distinct_eq (values : List α) : distinct values = values.eraseDups := by
  have adds : ∀ (done : List α) (value : α),
      (if done.any (· == value) then done else done ++ [value]) =
        if true && !done.contains value then done ++ [value] else done := by
    intro done value
    by_cases known : value ∈ done <;> simp [known]
  rw [distinct, foldl_addNew adds]
  simp

/-- After any kinds, each of them has been counted, in the order in which they came first. -/
theorem tallies_eq (kinds : List α) :
    kinds.foldl tally [] = kinds.eraseDups.map fun kind => (kind, kinds.count kind) := by
  -- The fold takes up kinds at the end of those counted, so the induction goes from there.
  induction kinds using List.reverseRecOn with
  | nil => rfl
  | append_singleton kinds last ih =>
    rw [List.foldl_append, List.foldl_cons, List.foldl_nil, ih, List.eraseDups_append, tally]
    by_cases known : last ∈ kinds
    · have none : [last].removeAll kinds = [] := by simp [List.removeAll, known]
      have there : ((kinds.eraseDups.map fun kind => (kind, kinds.count kind)).any
          fun c => c.1 == last) = true := by
        simp [known]
      rw [if_pos there, none, List.eraseDups_nil, List.append_nil, List.map_map]
      refine List.map_congr_left fun kind _ => ?_
      by_cases same : kind = last
      · simp [same]
      · have apart : last ≠ kind := fun h => same h.symm
        simp [same, apart]
    · have alone : [last].removeAll kinds = [last] := by simp [List.removeAll, known]
      have absent : ¬ ((kinds.eraseDups.map fun kind => (kind, kinds.count kind)).any
          fun c => c.1 == last) = true := by
        simp [known]
      have earlier : (kinds.eraseDups.map fun kind => (kind, (kinds ++ [last]).count kind)) =
          kinds.eraseDups.map fun kind => (kind, kinds.count kind) := by
        refine List.map_congr_left fun kind member => ?_
        have apart : last ≠ kind := by
          rintro rfl
          exact known (List.mem_eraseDups.mp member)
        simp [apart]
      have single : [last].eraseDups = [last] := rfl
      rw [if_neg absent, alone, List.map_append, earlier, single]
      simp [List.count_eq_zero_of_not_mem known]

variable {modules : List (Module α)}

/-- The issues are counted under each kind, in the order in which the kinds come first. -/
theorem issuesByKind_eq (modules : List (Module α)) : (ofModules modules).issuesByKind =
    (kinds modules).eraseDups.map fun kind => (kind, (kinds modules).count kind) :=
  tallies_eq (kinds modules)

theorem issues_eq (modules : List (Module α)) :
    (ofModules modules).issues = (modules.map (·.issues.length)).sum := by
  rw [issues, issuesByKind_eq, List.map_map]
  refine (sum_count_eraseDups (kinds modules)).trans ?_
  simp [kinds, List.length_flatMap]

/-- Every counter is a sum over the modules. -/
theorem counter_ofModules {counter : (Stats α → Nat) × (Module α → Nat)} (listed : counter ∈ counters)
    (modules : List (Module α)) : counter.1 (ofModules modules) = (modules.map counter.2).sum := by
  simp only [counters, List.mem_cons, List.not_mem_nil, or_false] at listed
  rcases listed with rfl | rfl | rfl | rfl | rfl | rfl | rfl | rfl
  · simp [ofModules]
  · rfl
  · rfl
  · rfl
  · rfl
  · rfl
  · rfl
  · exact issues_eq modules

theorem files_eq (modules : List (Module α)) :
    (ofModules modules).files = (modules.map (·.file)).toFinset.card := by
  rw [ofModules, distinct_eq, length_eraseDups]

omit [DecidableEq α] in
theorem sumOf_perm {xs ys : List (Module α)} (perm : xs.Perm ys) (f : Module α → Nat) :
    sumOf f xs = sumOf f ys :=
  (perm.map f).sum_eq

theorem kinds_nodup (modules : List (Module α)) :
    ((ofModules modules).issuesByKind.map (·.1)).Nodup := by
  rw [issuesByKind_eq, List.map_map]
  exact (nodup_eraseDups (kinds modules)).map_on fun _ _ _ _ same => same

theorem countOf_eq (modules : List (Module α)) (kind : α) :
    (ofModules modules).countOf kind = (kinds modules).count kind := by
  rw [countOf, issuesByKind_eq]
  by_cases there : kind ∈ kinds modules
  · rw [List.lookup_graph _ (List.mem_eraseDups.mpr there)]
    rfl
  · have missing : ((kinds modules).eraseDups.map fun other =>
        (other, (kinds modules).count other)).lookup kind = none := by
      rw [List.lookup_eq_none_iff]
      rintro entry member
      obtain ⟨other, known, rfl⟩ := List.mem_map.mp member
      have apart : kind ≠ other := fun same => there (same ▸ List.mem_eraseDups.mp known)
      simpa using apart
    rw [missing, List.count_eq_zero_of_not_mem there]
    rfl

omit [DecidableEq α] in
theorem kinds_append (modules others : List (Module α)) :
    kinds (modules ++ others) = kinds modules ++ kinds others :=
  List.flatMap_append

/-- The counts do not hang on the order of the modules. -/
theorem ofModules_perm {xs ys : List (Module α)} (perm : xs.Perm ys) :
    SameCounts (ofModules xs) (ofModules ys) := by
  have kinds_perm : (kinds xs).Perm (kinds ys) := perm.flatMap_right _
  constructor
  · rw [issuesByKind_eq, issuesByKind_eq]
    simp only [kinds_perm.count_eq]
    exact (eraseDups_perm kinds_perm).map _
  · have files : (distinct (xs.map (·.file))).length = (distinct (ys.map (·.file))).length := by
      rw [distinct_eq, distinct_eq, (eraseDups_perm (perm.map _)).length_eq]
    simp only [ofModules, perm.length_eq, files, sumOf_perm perm]

end Counts

/-- Counts of kinds rank by the names of the kinds. -/
theorem ranks_kinds : Sorting.Ranks fun a b : String × Nat => a.1 < b.1 :=
  Sorting.Ranks.ofKey (·.1) fun _ _ => decide_eq_true_iff

/-- The order in which counts are written leaves nothing of the order of the modules. -/
theorem SameCounts.toJson_eq {s t : Stats String} (same : SameCounts s t)
    (distinct : (s.issuesByKind.map (·.1)).Nodup) : s.toJson = t.toJson := by
  have apart : s.issuesByKind.Pairwise fun a b =>
      Sorting.tied (fun a b : String × Nat => a.1 < b.1) a b = false := by
    refine (List.pairwise_map.mp distinct).imp fun {a b} different => ?_
    rw [Bool.eq_false_iff, Ne, Sorting.tied_iff]
    intro tie
    simp only [decide_eq_false_iff_not, not_lt] at tie
    exact different (le_antisymm tie.2 tie.1)
  have sorted := sortWith_eq_of_perm ranks_kinds same.kinds apart
  have issues : s.issues = t.issues := (same.kinds.map _).sum_eq
  rw [toJson, sorted, encode, issues, ← same.others]
  rfl

/-- The order of a module's method groups does not count. -/
theorem ofModules_sortGroups (modules : List (Module String)) :
    ofModules (modules.map Module.sortGroups) = ofModules modules := by
  have groups : (modules.map Module.sortGroups).map (·.pendingMethods.length) =
      modules.map (·.pendingMethods.length) := by
    rw [List.map_map]
    exact List.map_congr_left fun m _ => (sortWith_perm _ m.pendingMethods).length_eq
  have kept : kinds (modules.map Module.sortGroups) = kinds modules := by
    rw [kinds, List.flatMap_map]
    rfl
  simp only [ofModules, sumOf, groups, kept, List.map_map, List.length_map]
  rfl

/-- Sorted records count like the records of the walk. -/
theorem ofModules_sortRecords (records : List (Module String)) :
    SameCounts (ofModules (sortRecords records)) (ofModules records) := by
  rw [sortRecords, ofModules_sortGroups]
  exact ofModules_perm (sortWith_perm _ _)

end Stats

section Walks

variable {view : FileView} {allowFaults : Bool} {root : String}

theorem walk_seen_nodup : (walk view allowFaults root [] []).seen.Nodup :=
  (session_balanced view [⟨root, [], allowFaults⟩]).nodup

/-- A file that was seen has a record for itself and for each inline module; any other has none. -/
theorem count_files (success : (walk view allowFaults root [] []).failure = none) (file : String) :
    ((walk view allowFaults root [] []).records.map (·.file)).count file =
      if file ∈ (walk view allowFaults root [] []).seen then 1 + (view.inlineModules file).length
      else 0 := by
  have counted := (walk_covers view allowFaults root [] [] success).counted file
  rw [List.count_eq_countP, List.countP_map]
  simpa [Visit.labelled, Function.comp_def] using counted

/-- The files with records are the files that were seen. -/
theorem files_perm_seen (success : (walk view allowFaults root [] []).failure = none) :
    ((walk view allowFaults root [] []).records.map (·.file)).eraseDups.Perm
      (walk view allowFaults root [] []).seen := by
  refine eraseDups_perm_of_mem_iff (fun file => ?_) walk_seen_nodup
  rw [← List.count_pos_iff, count_files success]
  split
  · exact iff_of_true (by omega) ‹_›
  · exact iff_of_false (lt_irrefl 0) ‹_›

/-- Each file that was seen has one record of its own and one for each of its inline modules. -/
theorem length_records (success : (walk view allowFaults root [] []).failure = none) :
    (walk view allowFaults root [] []).records.length =
      (walk view allowFaults root [] []).seen.length +
        ((walk view allowFaults root [] []).seen.map fun file =>
          (view.inlineModules file).length).sum := by
  have counted : (walk view allowFaults root [] []).seen.map
        (fun file => ((walk view allowFaults root [] []).records.map (·.file)).count file) =
      (walk view allowFaults root [] []).seen.map
        fun file => 1 + (view.inlineModules file).length := by
    refine List.map_congr_left fun file member => ?_
    rw [count_files success, if_pos member]
  have whole := sum_count_eraseDups ((walk view allowFaults root [] []).records.map (·.file))
  rw [((files_perm_seen success).map _).sum_eq, counted, List.length_map] at whole
  rw [← whole, List.sum_map_add]
  simp

/-- Every file that was seen in a walk that went well can be read. -/
theorem seen_read (success : (walk view allowFaults root [] []).failure = none) :
    ∀ file ∈ (walk view allowFaults root [] []).seen, ∃ source, view.read file = .ok source := by
  intro file member
  obtain ⟨source, read, _⟩ :=
    ((walk_covers view allowFaults root [] [] success).settled file member List.not_mem_nil).declared
  exact ⟨source, read⟩

end Walks

/-- A crate that was extracted has a root file from which the walk succeeds. -/
theorem Extraction.crate_eq_ok {view : FileView} {manifest : String} {allowFaults : Bool}
    {session after : Log.Session} {document : Document} {stats : Stats String}
    (run : (crate view manifest allowFaults).run.run session = (.ok (document, stats), after)) :
    ∃ root, libraryRoot view manifest = .ok root ∧
      (walk view allowFaults root [] []).failure = none ∧
      document = Document.ofRecords (walk view allowFaults root [] []).records ∧
      stats = Stats.ofModules (sortRecords (walk view allowFaults root [] []).records) := by
  have same := (crate_yields view manifest allowFaults).eq run
  unfold recordsResult at same
  cases found : libraryRoot view manifest with
  | error error => rw [found] at same; cases same
  | ok root =>
    cases failed : (walk view allowFaults root [] []).failure with
    | some error => simp only [found, failed] at same; cases same
    | none =>
      simp only [found, failed] at same
      cases same
      exact ⟨root, rfl, failed, rfl, rfl⟩

/-- The counts over modules do not hang on their order, and they add up over lists: those of items,
of issues and of each kind of issue. The files are the distinct labels, and the issues are the sum
over their kinds and all the entries of the modules. The counts over an extracted crate are those
over the modules of its document. Its files are those that the walk saw, and it has one module for
each of them and one for each public inline module in them. -/
theorem stats_agree :
    (∀ modules others : List (Module String),
      (modules.Perm others →
        (Stats.ofModules modules).SameCounts (Stats.ofModules others) ∧
        (Stats.ofModules modules).toJson = (Stats.ofModules others).toJson) ∧
      (∀ counter ∈ Stats.counters, counter.1 (Stats.ofModules (modules ++ others)) =
        counter.1 (Stats.ofModules modules) + counter.1 (Stats.ofModules others)) ∧
      (∀ kind, (Stats.ofModules (modules ++ others)).countOf kind =
        (Stats.ofModules modules).countOf kind + (Stats.ofModules others).countOf kind)) ∧
    (∀ modules : List (Module String),
      (∀ counter ∈ Stats.counters,
        counter.1 (Stats.ofModules modules) = (modules.map counter.2).sum) ∧
      ((Stats.ofModules modules).files = (modules.map (·.file)).toFinset.card ∧
        (Stats.ofModules modules).files ≤ (Stats.ofModules modules).modules) ∧
      ((Stats.ofModules modules).issuesByKind.map (·.1)).Nodup ∧
      (Stats.ofModules modules).issues = ((Stats.ofModules modules).issuesByKind.map (·.2)).sum ∧
      (Stats.ofModules modules).issues = (modules.flatMap (·.issues)).length) ∧
    ∀ (view : FileView) (manifest : String) (allowFaults : Bool) (session after : Log.Session)
      (document : Document) (stats : Stats String),
      (Extraction.crate view manifest allowFaults).run.run session = (.ok (document, stats), after) →
      ∃ root modules, Extraction.libraryRoot view manifest = .ok root ∧
        (walk view allowFaults root [] []).failure = none ∧
        document.modules = modules.map Module.ofRecord ∧
        stats = Stats.ofModules modules ∧
        (walk view allowFaults root [] []).seen.Nodup ∧
        (∀ file ∈ (walk view allowFaults root [] []).seen, ∃ source, view.read file = .ok source) ∧
        stats.files = (walk view allowFaults root [] []).seen.length ∧
        stats.modules = stats.files +
          ((walk view allowFaults root [] []).seen.map fun file =>
            (view.inlineModules file).length).sum := by
  refine ⟨?_, ?_, ?_⟩
  · intro modules others
    refine ⟨fun perm => ?_, ?_, ?_⟩
    · have same := Stats.ofModules_perm perm
      exact ⟨same, same.toJson_eq (Stats.kinds_nodup modules)⟩
    · intro counter listed
      simp only [Stats.counter_ofModules listed, List.map_append, List.sum_append]
    · intro kind
      simp only [Stats.countOf_eq, Stats.kinds_append, List.count_append]
  · intro modules
    refine ⟨fun counter listed => Stats.counter_ofModules listed modules, ⟨?_, ?_⟩,
      Stats.kinds_nodup modules, rfl, ?_⟩
    · exact Stats.files_eq modules
    · rw [Stats.files_eq]
      exact (List.toFinset_card_le _).trans_eq (List.length_map _)
    · rw [Stats.issues_eq, List.length_flatMap]
  · intro view manifest allowFaults session after document stats run
    obtain ⟨root, found, success, rfl, rfl⟩ := Extraction.crate_eq_ok run
    -- The counts are over sorted records, and what the walk saw is known of those in its own order.
    have same := Stats.ofModules_sortRecords (walk view allowFaults root [] []).records
    have files : (Stats.ofModules (sortRecords (walk view allowFaults root [] []).records)).files =
        (walk view allowFaults root [] []).seen.length := by
      rw [same.files_eq, Stats.files_eq, ← length_eraseDups, (files_perm_seen success).length_eq]
    refine ⟨root, _, found, success, rfl, rfl, walk_seen_nodup, seen_read success, files, ?_⟩
    rw [files, same.modules_eq]
    exact length_records success

namespace CountedCrate

open AliasedCrate (publicModule list)

/-- A root file with a public module inside it, which declares one that is a file of its own. -/
def view : FileView where
  workdir := "/c"
  files := ["/c/src/lib.rs", "/c/src/inner/b.rs"]
  pathExists path := path == "/c/src/inner/b.rs"
  isFile path := path == "/c/src/lib.rs"
  canonical := .ok
  read
    | "/c/src/lib.rs" => .ok ⟨0, list none [publicModule "inner" [list (some "body")
        [publicModule "b" []]]]⟩
    | "/c/src/inner/b.rs" => .ok ⟨0, list none []⟩
    | path => .error (.path (.system .notFound path))
  read_mem path source h := by
    split at h <;> simp_all

/-- Modules with an issue of one kind and with two. -/
def impl : Module String :=
  { Module.ofBody "a.rs" [] [] with issues := [⟨"a.rs", "impl_item", "impl A", "generic"⟩] }

def fields : Module String :=
  { Module.ofBody "b.rs" ["b"] [] with issues :=
      [⟨"b.rs", "struct_item", "struct B", "tuple"⟩, ⟨"b.rs", "impl_item", "impl B", "generic"⟩] }

end CountedCrate

section

open CountedCrate

/-- The counts of two records in both orders, and those of a crate with an inline module. -/
theorem counted_crate_stats :
    ([impl, fields].Perm [fields, impl] ∧
      (Stats.ofModules [impl, fields]).issuesByKind = [("impl_item", 2), ("struct_item", 1)] ∧
      (Stats.ofModules [fields, impl]).issuesByKind = [("struct_item", 1), ("impl_item", 2)] ∧
      (Stats.ofModules [impl, fields]).toJson = (Stats.ofModules [fields, impl]).toJson) ∧
    ∃ document stats after,
      (Extraction.crate view "/c/Cargo.toml" false).run.run .start = (.ok (document, stats), after) ∧
      stats.files = 2 ∧ stats.modules = 3 := by
  obtain ⟨ordered, _, extracted⟩ := stats_agree
  refine ⟨⟨.swap .., by decide +kernel, by decide +kernel, ?_⟩, ?_⟩
  · exact ((ordered [impl, fields] [fields, impl]).1 (.swap ..)).2
  · have succeeds : ((Extraction.crate view "/c/Cargo.toml" false).run.run .start).1.isOk = true := by
      decide +kernel
    obtain ⟨⟨document, stats⟩, after, run⟩ := Log.Task.exists_ok_of_isOk succeeds
    obtain ⟨root, _, found, _, _, _, _, _, files, modules⟩ := extracted _ _ _ _ _ _ _ run
    have placed : Extraction.libraryRoot view "/c/Cargo.toml" = .ok "/c/src/lib.rs" := by
      decide +kernel
    cases found.symm.trans placed
    have seen : (walk view false "/c/src/lib.rs" [] []).seen =
        ["/c/src/lib.rs", "/c/src/inner/b.rs"] := by
      decide +kernel
    have inside : (view.inlineModules "/c/src/lib.rs").length = 1 ∧
        (view.inlineModules "/c/src/inner/b.rs").length = 0 := by
      decide +kernel
    rw [seen] at files modules
    refine ⟨document, stats, after, run, files, ?_⟩
    rw [modules, files]
    simp [inside]

end

end CrateSurface
