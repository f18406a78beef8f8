import CrateSurface.Proofs.ExtractionResults
import CrateSurface.Proofs.RecordTree
import CrateSurface.Proofs.SortingOrders
import Mathlib.Data.Prod.Lex
import Mathlib.Data.String.Basic

namespace CrateSurface

theorem Module.precedes_iff (a b : Module String) :
    a.precedes b = true ↔
      toLex (pathKey a.parts, a.file) < toLex (pathKey b.parts, b.file) := by
  simp [precedes, Prod.Lex.toLex_lt_toLex]

theorem Module.precedes_ranks : Sorting.Ranks Module.precedes :=
  .ofKey _ precedes_iff

/-- One more name makes a path longer at its end. -/
theorem pathKey_snoc {name : String} (named : name ≠ "") (parts : List String) :
    ∃ tail, tail ≠ [] ∧ (pathKey (parts ++ [name])).toList = (pathKey parts).toList ++ tail := by
  simp only [pathKey, String.toList_intercalate, List.map_append]
  induction parts with
  | nil => exact ⟨name.toList, by simpa using named, by simp⟩
  | cons first rest ih =>
    cases rest with
    | nil =>
      refine ⟨"::".toList ++ name.toList, by simp, ?_⟩
      simp [List.intercalate_cons_cons]
    | cons second others =>
      obtain ⟨tail, some, same⟩ := ih
      refine ⟨tail, some, ?_⟩
      simp only [List.map_cons, List.cons_append, List.intercalate_cons_cons] at same ⊢
      simp only [same, List.append_assoc]

theorem pathKey_lt_snoc {name : String} (named : name ≠ "") (parts : List String) :
    pathKey parts < pathKey (parts ++ [name]) := by
  obtain ⟨tail, some, same⟩ := pathKey_snoc named parts
  obtain ⟨first, rest, rfl⟩ := List.exists_cons_of_ne_nil some
  rw [String.lt_iff_toList_lt, same]
  have longer : (pathKey parts).toList ++ [] < (pathKey parts).toList ++ first :: rest :=
    List.append_left_lt (List.nil_lt_cons first rest)
  rwa [List.append_nil] at longer

theorem pathKey_lt_append {names : List String} (named : ∀ name ∈ names, name ≠ "")
    (some : names ≠ []) (parts : List String) : pathKey parts < pathKey (parts ++ names) := by
  induction names generalizing parts with
  | nil => exact absurd rfl some
  | cons name rest ih =>
    have longer := pathKey_lt_snoc (named name (List.mem_cons_self ..)) parts
    cases rest with
    | nil => exact longer
    | cons next others =>
      have further := ih (fun other member => named other (List.mem_cons_of_mem _ member))
        (List.cons_ne_nil _ _) (parts ++ [name])
      rw [List.append_assoc] at further
      exact longer.trans further

/-- A module that another is in, directly or through others, comes before it. -/
theorem Module.Below.precedes {outer record : Module String}
    (below : record.Below (· ≠ "") outer.parts) : outer.precedes record = true := by
  obtain ⟨names, some, named, same⟩ := below
  rw [precedes_iff, Prod.Lex.toLex_lt_toLex, same]
  exact Or.inl (pathKey_lt_append named some outer.parts)

theorem Module.Below.dropLast {Q : String → Prop} {record : Module String}
    (below : record.Below Q []) : record.Below Q record.parts.dropLast := by
  obtain ⟨names, some, named, same⟩ := below
  rw [List.nil_append] at same
  refine ⟨[names.getLast some], List.cons_ne_nil _ _, ?_, ?_⟩
  · intro name member
    rw [List.mem_singleton.mp member]
    exact named _ (List.getLast_mem some)
  · rw [same, List.dropLast_append_getLast]

/-- The root module comes first, and every other module after the one that it is directly in. -/
def ParentsFirst {α : Type} (modules : List (Module α)) : Prop :=
  ∃ root rest, modules = root :: rest ∧ root.parts = [] ∧ (∀ m ∈ rest, m.parts ≠ []) ∧
    ∀ before m after, rest = before ++ m :: after →
      ∃ outer ∈ root :: before, outer.parts = m.parts.dropLast

theorem ParentsFirst.map {α β : Type} {modules : List (Module α)} {f : α → β}
    {g : Module α → Module β} (first : ParentsFirst modules)
    (keeps : ∀ m, (g m).parts = m.parts.map f) : ParentsFirst (modules.map g) := by
  obtain ⟨root, rest, rfl, own, others, parents⟩ := first
  refine ⟨g root, rest.map g, rfl, by rw [keeps, own]; rfl, ?_, ?_⟩
  · intro m member
    obtain ⟨source, among, rfl⟩ := List.mem_map.mp member
    rw [keeps, Ne, List.map_eq_nil_iff]
    exact others source among
  · intro before m after split
    obtain ⟨front, back, rfl, rfl, tail⟩ := List.map_eq_append_iff.mp split
    obtain ⟨source, last, rfl, rfl, rfl⟩ := List.map_eq_cons_iff.mp tail
    obtain ⟨outer, member, same⟩ := parents front source last rfl
    refine ⟨g outer, ?_, by rw [keeps, keeps, same, List.map_dropLast]⟩
    rw [← List.map_cons]
    exact List.mem_map_of_mem member

section Sorted

variable {inner : List (Module String)} {root : Module String}

/-- Of the records of a crate the root's is the least. -/
theorem sortWith_precedes_root (own : root.parts = [])
    (below : ∀ record ∈ inner, record.Below (· ≠ "") []) :
    ∃ rest, sortWith Module.precedes (inner ++ [root]) = root :: rest ∧ rest.Perm inner := by
  have perm := sortWith_perm Module.precedes (inner ++ [root])
  have ordered := sortWith_inOrder Module.precedes_ranks (inner ++ [root])
  generalize sortWith Module.precedes (inner ++ [root]) = sorted at perm ordered
  have moved : sorted.Perm (root :: inner) := perm.trans (List.perm_append_singleton root inner)
  cases sorted with
  | nil => exact absurd moved.length_eq (by simp)
  | cons first rest =>
    have same : first = root := by
      by_contra other
      have later : root ∈ rest := by
        rcases List.mem_cons.mp (moved.mem_iff.mpr (List.mem_cons_self ..)) with same | later
        · exact absurd same.symm other
        · exact later
      have among : first ∈ inner := by
        rcases List.mem_cons.mp (moved.mem_iff.mp (List.mem_cons_self ..)) with same | among
        · exact absurd same other
        · exact among
      have high := (List.pairwise_cons.mp ordered).1 root later
      have low : root.precedes first = true := by
        have nested := below first among
        rw [← own] at nested
        exact nested.precedes
      rw [low] at high
      cases high
    subst same
    exact ⟨rest, rfl, moved.cons_inv⟩

theorem sortWith_precedes_parentsFirst (own : root.parts = [])
    (below : ∀ record ∈ inner, record.Below (· ≠ "") []) (parents : ParentsLater [] inner) :
    ParentsFirst (sortWith Module.precedes (inner ++ [root])) := by
  have ordered := sortWith_inOrder Module.precedes_ranks (inner ++ [root])
  obtain ⟨rest, sorted, perm⟩ := sortWith_precedes_root own below
  rw [sorted] at ordered ⊢
  refine ⟨root, rest, rfl, own, ?_, ?_⟩
  · intro m member
    exact (below m (perm.mem_iff.mp member)).ne
  · intro before m after split
    have member : m ∈ rest := by rw [split]; simp
    have nested := below m (perm.mem_iff.mp member)
    obtain ⟨front, back, parted⟩ := List.append_of_mem (perm.mem_iff.mp member)
    rw [parted] at parents
    rcases parents.parent with outermost | ⟨outer, among, same⟩
    · exact ⟨root, List.mem_cons_self .., own.trans outermost.symm⟩
    · refine ⟨outer, List.mem_cons_of_mem _ ?_, same⟩
      have present : outer ∈ rest := by
        rw [perm.mem_iff, parted]
        exact List.mem_append_right _ (List.mem_cons_of_mem _ among)
      have earlier : outer.precedes m = true := by
        have direct := nested.dropLast
        rw [← same] at direct
        exact direct.precedes
      -- The sort would otherwise have put the outer module below one that is not below it.
      rw [split] at ordered present
      rcases List.mem_append.mp present with found | found
      · exact found
      · exfalso
        obtain ⟨_, tail, _⟩ := List.pairwise_append.mp (List.pairwise_cons.mp ordered).2
        rcases List.mem_cons.mp found with rfl | later
        · have reverse := Module.precedes_ranks.asymm earlier
          rw [earlier] at reverse
          cases reverse
        · have reverse := (List.pairwise_cons.mp tail).1 outer later
          rw [earlier] at reverse
          cases reverse

end Sorted

/-- The public modules of a file all have names. -/
def FileView.HasNames (view : FileView) (file : String) : Prop :=
  ∀ source, view.read file = .ok source → ∀ names n,
    Node.Nested source.root.namedChildren names n → n.IsPublicModule → n.nameText ≠ ""

theorem FileView.hasNames_iff {view : FileView} {file : String} :
    view.HasNames file ↔ view.Names (· ≠ "") file := by
  constructor
  · intro named source read name member
    obtain ⟨names, n, nested, isPublic, rfl⟩ := mem_moduleNames_outline.mp member
    exact named source read names n nested isPublic
  · intro named source read names n nested isPublic
    exact named source read _ (mem_moduleNames_outline.mpr ⟨names, n, nested, isPublic, rfl⟩)

/-- The document of a crate holds the whole tree of its modules, each after the one it is in. -/
theorem ofRecords_parentsFirst {view : FileView} {allowFaults : Bool} {root : String}
    (success : (walk view allowFaults root [] []).failure = none)
    (named : ∀ file ∈ (walk view allowFaults root [] []).seen, view.HasNames file) :
    ParentsFirst (Document.ofRecords (walk view allowFaults root [] []).records).modules := by
  have added : (walk view allowFaults root [] []).AddsOnly (view.Names (· ≠ "")) [] :=
    fun file member _ => FileView.hasNames_iff.mp (named file member)
  rcases walk_completes root [] [] added with ⟨_, known, _⟩ | whole
  · cases known
  · obtain ⟨inner, last, records, own, below, parents⟩ := whole.closed success
    have first := sortWith_precedes_parentsFirst own below parents
    rw [← records] at first
    have grouped : ParentsFirst (sortRecords (walk view allowFaults root [] []).records) :=
      first.map (f := id) fun m => (List.map_id m.parts).symm
    exact grouped.map fun m => rfl

/-- The modules of a crate form a tree. A walk from a new file appends its own record last, after
records below it whose parents all follow them, and none of its own where it fails; and in the
document the root module comes first, and every other module after the one it is in. -/
theorem modules_form_tree (view : FileView) (allowFaults : Bool) :
    (∀ path parts seen, (∀ file, view.canonical path = .ok file → file ∉ seen) →
      ((walk view allowFaults path parts seen).failure = none →
        ∃ inner root, (walk view allowFaults path parts seen).records = inner ++ [root] ∧
          root.parts = parts ∧
          (∀ record ∈ inner, parts <+: record.parts ∧ record.parts ≠ parts) ∧
          ∀ before record after, inner = before ++ record :: after →
            ∃ later ∈ after ++ [root], later.parts = record.parts.dropLast) ∧
      ((walk view allowFaults path parts seen).failure ≠ none →
        ∀ record ∈ (walk view allowFaults path parts seen).records, record.parts ≠ parts)) ∧
    ∀ manifest session after document stats,
      (∀ root, Extraction.libraryRoot view manifest = .ok root →
        ∀ file ∈ (walk view allowFaults root [] []).seen, view.HasNames file) →
      (Extraction.crate view manifest allowFaults).run.run session =
          (.ok (document, stats), after) →
        ParentsFirst document.modules := by
  refine ⟨?_, ?_⟩
  · -- All names are admitted here; only the order of the document needs them not to be empty.
    intro path parts seen new
    have added : (walk view allowFaults path parts seen).AddsOnly (view.Names fun _ => True) seen :=
      fun _ _ _ _ _ _ _ => trivial
    rcases walk_completes path parts seen added with ⟨file, known, canonical, _⟩ | whole
    · exact absurd known (new file canonical)
    · refine ⟨fun success => ?_, fun failed record member =>
        (whole.partial_below failed record member).ne⟩
      obtain ⟨inner, root, records, own, below, parents⟩ := whole.closed success
      refine ⟨inner, root, records, own, ?_, ?_⟩
      · intro record member
        refine ⟨?_, (below record member).ne⟩
        obtain ⟨names, _, _, same⟩ := below record member
        rw [same]
        exact List.prefix_append parts names
      · rintro before record after rfl
        rcases parents.parent with outermost | ⟨later, member, same⟩
        · exact ⟨root, by simp, own.trans outermost.symm⟩
        · exact ⟨later, List.mem_append_left _ member, same⟩
  · intro manifest session after document stats named run
    have result := (Extraction.crate_yields view manifest allowFaults).eq run
    unfold Extraction.recordsResult at result
    cases found : Extraction.libraryRoot view manifest with
    | error error =>
      rw [found] at result
      cases result
    | ok root =>
      rw [found] at result
      cases failed : (walk view allowFaults root [] []).failure with
      | some error =>
        simp only [failed] at result
        cases result
      | none =>
        simp only [failed] at result
        cases result
        exact ofRecords_parentsFirst failed (named root found)

namespace SplitCrate

open Node (branch nameLeaf declaring)

/-- A public module with its body in place. -/
def inline (name : String) (items : List Node) : Node :=
  branch "mod_item" none
    [.leaf "visibility_modifier" "pub", nameLeaf name, branch "declaration_list" (some "body") items]

/-- The root file: `a` with `a::b` in it, `a9`, whose path is between the two, and `c`. -/
def root : Node :=
  branch "source_file" none [inline "a" [inline "b" []], inline "a9" [], declaring "c"]

/-- The file of `c`, which also declares itself, under another name. -/
def child : Node :=
  branch "source_file" none [declaring "d"]

/-- The file of `c` is there under two paths. -/
def view : FileView where
  workdir := "/"
  files := ["/src/lib.rs", "/src/c.rs"]
  pathExists path := path == "/src/c.rs" || path == "/src/c/d.rs"
  isFile _ := true
  canonical path := .ok (if path == "/src/c/d.rs" then "/src/c.rs" else path)
  read path :=
    if path = "/src/lib.rs" then .ok ⟨0, root⟩
    else if path = "/src/c.rs" then .ok ⟨0, child⟩
    else .error (.path (.system .notFound path))
  read_mem path source h := by
    split at h
    · simp_all
    · split at h <;> simp_all

theorem hasNames (file : String) : view.HasNames file := by
  rw [FileView.hasNames_iff]
  intro source read
  unfold view at read
  simp only at read
  split at read
  · cases read
    decide +kernel
  · split at read
    · cases read
      decide +kernel
    · cases read

end SplitCrate

/-- Modules of one subtree need not stand together, but each stands after its parent. -/
theorem split_subtree_parentsFirst :
    (walk SplitCrate.view false "/src/lib.rs" [] []).failure = none ∧
    (∃ inner root, (walk SplitCrate.view false "/src/lib.rs" [] []).records = inner ++ [root] ∧
      root.parts = []) ∧
    (sortRecords (walk SplitCrate.view false "/src/lib.rs" [] []).records).map (·.parts) =
      [[], ["a"], ["a9"], ["a", "b"], ["c"]] ∧
    ∃ document stats after,
      (Extraction.crate SplitCrate.view "/Cargo.toml" false).run.run .start =
        (.ok (document, stats), after) ∧ ParentsFirst document.modules := by
  have success : (walk SplitCrate.view false "/src/lib.rs" [] []).failure = none := by
    decide +kernel
  have found : Extraction.libraryRoot SplitCrate.view "/Cargo.toml" = .ok "/src/lib.rs" := by
    rfl
  obtain ⟨walks, documents⟩ := modules_form_tree SplitCrate.view false
  refine ⟨success, ?_, by decide +kernel, ?_⟩
  · have new : ∀ file, SplitCrate.view.canonical "/src/lib.rs" = .ok file → file ∉ [] :=
      fun _ _ => List.not_mem_nil
    obtain ⟨inner, root, records, own, _⟩ := (walks "/src/lib.rs" [] [] new).1 success
    exact ⟨inner, root, records, own⟩
  · have yields := Extraction.crate_yields SplitCrate.view "/Cargo.toml" false Log.Session.start
    rw [Extraction.recordsResult, found] at yields
    simp only [success] at yields
    have run := Prod.ext yields (Eq.refl _)
    exact ⟨_, _, _, run, documents _ _ _ _ _ (fun _ _ file _ => SplitCrate.hasNames file) run⟩

end CrateSurface
