import CrateSurface.Proofs.ModuleTree
import CrateSurface.Proofs.WalkUnfolding
import Mathlib.Logic.Relation
import Mathlib.Order.Bounds.Basic

namespace CrateSurface

namespace FileView

/-- The canonical file of a declared module, where `base` is the directory for the modules of the
declaring file and `names` are the inline modules around the declaration. -/
def moduleAt? (view : FileView) (base : String) (names : List String) (name : String) :
    Option String :=
  (moduleFile? view (names.foldl Path.join base) name).bind fun path =>
    (view.canonical path).toOption

/-- `file` declares, at its top level or inside public inline modules, a public module that is
written in the file `next`. -/
def Follows (view : FileView) (file next : String) : Prop :=
  ∃ source names n, view.read file = .ok source ∧
    Node.Nested source.root.namedChildren names n ∧ n.IsFileModule ∧
    view.moduleAt? (moduleBase file) names n.nameText = some next

/-- The public inline modules of a source file. -/
def inlineModules (view : FileView) (file : String) : List Node :=
  match view.read file with
  | .ok source => Node.inlineModules source.root.namedChildren
  | .error _ => []

/-- Where the declarations of a body lead; one that leads nowhere counts as `none`. -/
def goals (view : FileView) (base : String) (body : List Entry) : List (Option String) :=
  (declarations body).map fun d => view.moduleAt? base d.1 d.2

/-- A file of which every declaration leads to one of the files seen. -/
structure Settled (view : FileView) (seen : List String) (file : String) : Prop where
  declared : ∃ source, view.read file = .ok source ∧
    ∀ goal ∈ view.goals (moduleBase file) source.root.outline, ∃ next ∈ seen, goal = some next

variable {view : FileView} {seen later : List String} {file : String}

theorem Settled.mono (settled : view.Settled seen file) (more : seen ⊆ later) :
    view.Settled later file := by
  obtain ⟨source, read, leads⟩ := settled.declared
  refine ⟨source, read, ?_⟩
  intro goal member
  obtain ⟨next, known, same⟩ := leads goal member
  exact ⟨next, more known, same⟩

/-- A file follows another if the outline of that one leads to it. -/
theorem follows_iff {next : String} :
    view.Follows file next ↔
      ∃ source, view.read file = .ok source ∧
        some next ∈ view.goals (moduleBase file) source.root.outline := by
  constructor
  · rintro ⟨source, names, n, read, nested, declared, leads⟩
    refine ⟨source, read, List.mem_map.mpr ⟨(names, n.nameText), ?_, leads⟩⟩
    exact mem_declarations_outline.mpr ⟨n, nested, declared, rfl⟩
  · rintro ⟨source, read, member⟩
    obtain ⟨⟨names, name⟩, inside, leads⟩ := List.mem_map.mp member
    obtain ⟨n, nested, declared, rfl⟩ := mem_declarations_outline.mp inside
    exact ⟨source, names, n, read, nested, declared, leads⟩

theorem goals_inlineModule (view : FileView) (base name : String) (body rest : List Entry) :
    view.goals base (.inlineModule name body :: rest) =
      view.goals (Path.join base name) body ++ view.goals base rest := by
  simp only [goals, declarations, List.map_append, List.map_map]
  rfl

theorem goals_fileModule (view : FileView) (base name : String) (rest : List Entry) :
    view.goals base (.fileModule name :: rest) = view.moduleAt? base [] name :: view.goals base rest := by
  simp only [goals, declarations, List.map_cons]

end FileView

/-- The records of a visit that carry the label of a file. -/
def Visit.labelled (visit : Visit) (file : String) : Nat :=
  visit.records.countP fun record => record.file == file

/-- What a successful visit has done, from the files of `seen` on: it has reached its goals, every
file that is new has been gone through, is reachable from a goal and has all its records, and `own`
counts the records of files that were there before. -/
structure Visit.Covers (view : FileView) (seen : List String) (goals : List (Option String))
    (own : String → Nat) (visit : Visit) : Prop where
  grows : seen ⊆ visit.seen
  reaches : ∀ goal ∈ goals, ∃ next ∈ visit.seen, goal = some next
  settled : ∀ file ∈ visit.seen, file ∉ seen → view.Settled visit.seen file
  reached : ∀ file ∈ visit.seen, file ∉ seen →
    ∃ start, some start ∈ goals ∧ Relation.ReflTransGen view.Follows start file
  counted : ∀ file, visit.labelled file = own file +
    if file ∈ visit.seen ∧ file ∉ seen then 1 + (view.inlineModules file).length else 0

namespace Visit.Covers

variable {view : FileView} {seen : List String} {first : Visit} {next : List String → Visit}
  {goals later : List (Option String)} {own more : String → Nat}

theorem of_eq {visit : Visit} (covered : Covers view seen goals own visit) (same : goals = later)
    (sameOwn : ∀ file, own file = more file) : Covers view seen later more visit := by
  obtain rfl : own = more := funext sameOwn
  rwa [← same]

theorem remarking (notes : List Log.Note) (seen : List String) :
    Covers view seen [] (fun _ => 0) (Visit.remarking notes seen) where
  grows := List.Subset.refl _
  reaches := by simp
  settled file member new := absurd member new
  reached file member new := absurd member new
  counted file := by
    have same : ¬ (file ∈ seen ∧ file ∉ seen) := fun h => h.2 h.1
    simp [Visit.remarking, labelled, same]

theorem closeModule (record : Module String) (seen : List String) :
    Covers view seen [] (fun file => if record.file == file then 1 else 0)
      (CrateSurface.closeModule record seen) where
  grows := List.Subset.refl _
  reaches := by simp
  settled file member new := absurd member new
  reached file member new := absurd member new
  counted file := by
    have same : ¬ (file ∈ seen ∧ file ∉ seen) := fun h => h.2 h.1
    simp only [CrateSurface.closeModule, labelled, List.countP_singleton, same, if_false,
      Nat.add_zero]

/-- Visits one after the other: what the first one saw is old for the second. -/
theorem andThen (covered : Covers view seen goals own first) (success : first.failure = none)
    (rest : Covers view first.seen later more (next first.seen)) :
    Covers view seen (goals ++ later) (fun file => own file + more file) (first.andThen next) := by
  rw [andThen_of_success success]
  refine ⟨List.Subset.trans covered.grows rest.grows, ?_, ?_, ?_, ?_⟩
  · intro goal member
    rcases List.mem_append.mp member with early | late
    · obtain ⟨file, known, same⟩ := covered.reaches goal early
      exact ⟨file, rest.grows known, same⟩
    · exact rest.reaches goal late
  · intro file member new
    by_cases early : file ∈ first.seen
    · exact (covered.settled file early new).mono rest.grows
    · exact rest.settled file member early
  · intro file member new
    by_cases early : file ∈ first.seen
    · obtain ⟨start, goal, path⟩ := covered.reached file early new
      exact ⟨start, List.mem_append_left _ goal, path⟩
    · obtain ⟨start, goal, path⟩ := rest.reached file member early
      exact ⟨start, List.mem_append_right _ goal, path⟩
  · intro file
    have parted : (if file ∈ (next first.seen).seen ∧ file ∉ seen
          then 1 + (view.inlineModules file).length else 0) =
        (if file ∈ first.seen ∧ file ∉ seen then 1 + (view.inlineModules file).length else 0) +
          if file ∈ (next first.seen).seen ∧ file ∉ first.seen
            then 1 + (view.inlineModules file).length else 0 := by
      by_cases early : file ∈ first.seen
      · have late := rest.grows early
        simp [early, late]
      · have new : file ∉ seen := fun old => early (covered.grows old)
        simp [early, new]
    have early := covered.counted file
    have late := rest.counted file
    simp only [labelled] at early late ⊢
    rw [List.countP_append, early, late, parted]
    omega

end Visit.Covers

section Walk

variable {view : FileView} {visitFile : String → List String → List String → Visit}

/-- What a visit of files has to do for the walk through a body to cover the body's goals. -/
def CoversFrom (view : FileView) (seen : List String)
    (visitFile : String → List String → List String → Visit) : Prop :=
  ∀ path parts later, seen ⊆ later → (visitFile path parts later).failure = none →
    Visit.Covers view later [(view.canonical path).toOption] (fun _ => 0)
      (visitFile path parts later)

theorem CoversFrom.mono {seen later : List String} (nested : CoversFrom view seen visitFile)
    (more : seen ⊆ later) : CoversFrom view later visitFile :=
  fun path parts last after => nested path parts last (List.Subset.trans more after)

/-- A whole body leaves one record more than its entries do. -/
theorem Visit.Covers.visitBody {file base : String} {parts seen : List String} {body : List Entry}
    {goals : List (Option String)}
    (entries : (visitEntries view visitFile file parts base body seen).failure = none →
      Covers view seen goals (fun label => if file == label then inlineCount body else 0)
        (visitEntries view visitFile file parts base body seen))
    (success : (visitBody view visitFile file parts base body seen).failure = none) :
    Covers view seen goals (fun label => if file == label then inlineCount body + 1 else 0)
      (visitBody view visitFile file parts base body seen) := by
  have done := (andThen_succeeds_iff.mp success).1
  refine ((entries done).andThen done (closeModule _ _)).of_eq (List.append_nil _) ?_
  intro label
  by_cases same : file = label <;> simp [Module.ofBody, same]

/-- A visit of entries that goes well covers their goals, if the visits of files do. -/
theorem CoversFrom.visitEntries (file : String) (body : List Entry) :
    ∀ parts base seen, CoversFrom view seen visitFile →
      (visitEntries view visitFile file parts base body seen).failure = none →
      Visit.Covers view seen (view.goals base body)
        (fun label => if file == label then inlineCount body else 0)
        (visitEntries view visitFile file parts base body seen) := by
  induction body using Entry.bodyInduction with
  | nil =>
    intro parts base seen _ _
    rw [visitEntries_nil]
    refine (Visit.Covers.remarking [] seen).of_eq ?_ ?_
    · simp only [FileView.goals, declarations, List.map_nil]
    · intro label; simp only [inlineCount, ite_self]
  | item contribution rest ih =>
    intro parts base seen nested success
    rw [visitEntries_item] at success ⊢
    have done := (Visit.andThen_succeeds_iff.mp success).2
    refine ((Visit.Covers.remarking _ seen).andThen rfl (ih parts base seen nested done)).of_eq ?_ ?_
    · simp only [FileView.goals, declarations, List.nil_append]
    · intro label; simp only [inlineCount, Nat.zero_add]
  | inlineModule name body rest inner ih =>
    intro parts base seen nested success
    rw [visitEntries_inlineModule] at success ⊢
    obtain ⟨first, second⟩ := Visit.andThen_succeeds_iff.mp success
    have covered := Visit.Covers.visitBody (inner _ _ seen nested) first
    have later := ih parts base _ (nested.mono covered.grows) second
    refine (covered.andThen first later).of_eq (view.goals_inlineModule base name body rest).symm ?_
    intro label
    simp only [inlineCount]
    split <;> rfl
  | fileModule name rest ih =>
    intro parts base seen nested success
    rw [visitEntries_fileModule] at success ⊢
    obtain ⟨first, second⟩ := Visit.andThen_succeeds_iff.mp success
    cases found : moduleFile? view base name with
    | none =>
      rw [found] at first
      cases first
    | some path =>
      rw [found] at first second
      have covered := nested path (parts ++ [name]) seen (List.Subset.refl _) first
      have later := ih parts base _ (nested.mono covered.grows) second
      refine (covered.andThen first later).of_eq ?_ ?_
      · rw [view.goals_fileModule, FileView.moduleAt?, List.foldl_nil, found]
        rfl
      · intro label; simp only [inlineCount, Nat.zero_add]

/-- A file that has just been gone through joins the files that its body brought in. -/
theorem Visit.Covers.openFile {file : String} {seen : List String} {source : Source} {visit : Visit}
    (new : file ∉ seen) (read : view.read file = .ok source)
    (covered : Covers view (seen ++ [file]) (view.goals (moduleBase file) source.root.outline)
      (fun label => if file == label then inlineCount source.root.outline + 1 else 0) visit) :
    Covers view seen [some file] (fun _ => 0) visit := by
  have own : file ∈ visit.seen := covered.grows (List.mem_append_right _ (List.mem_singleton_self _))
  refine ⟨List.Subset.trans (List.subset_append_left _ _) covered.grows, ?_, ?_, ?_, ?_⟩
  · intro goal member
    exact ⟨file, own, List.mem_singleton.mp member⟩
  · intro other member unseen
    by_cases same : other = file
    · subst same
      exact ⟨source, read, covered.reaches⟩
    · exact covered.settled other member (by simp [unseen, same])
  · intro other member unseen
    refine ⟨file, List.mem_singleton_self _, ?_⟩
    by_cases same : other = file
    · subst same
      exact Relation.ReflTransGen.refl
    · obtain ⟨start, goal, path⟩ := covered.reached other member (by simp [unseen, same])
      exact Relation.ReflTransGen.head (FileView.follows_iff.mpr ⟨source, read, goal⟩) path
  · intro other
    have count := covered.counted other
    by_cases same : other = file
    · subst same
      simp only [FileView.inlineModules, read]
      rw [inlineCount_outline] at count
      simp [own, new] at count ⊢
      omega
    · have apart : file ≠ other := fun h => same h.symm
      simpa [same, apart] using count

/-- A visit of a path that goes well covers its file, if the visits after it do. -/
theorem CoversFrom.visitPath {allowFaults : Bool} {path : String} {parts seen : List String}
    (nested : ∀ file source, file ∉ seen → view.read file = .ok source →
      CoversFrom view (seen ++ [file]) visitFile)
    (success : (visitPath view visitFile allowFaults path parts seen).failure = none) :
    Visit.Covers view seen [(view.canonical path).toOption] (fun _ => 0)
      (visitPath view visitFile allowFaults path parts seen) := by
  have step := visitPath_spec view visitFile allowFaults path parts seen
  generalize CrateSurface.visitPath view visitFile allowFaults path parts seen = visit
    at step success ⊢
  cases step with
  | lost => cases success
  | refused => cases success
  | known notes canonical old =>
    have covered : Visit.Covers view seen [] (fun _ => 0) (.remarking notes seen) :=
      .remarking notes seen
    refine ⟨covered.grows, ?_, covered.settled, fun other member new => absurd member new,
      covered.counted⟩
    intro goal member
    rw [canonical] at member
    exact ⟨_, old, List.mem_singleton.mp member⟩
  | @opened file source notes canonical new opened =>
    have read := (openSource_eq_ok opened).1
    have inner := nested file source new read
    have done := (Visit.andThen_succeeds_iff.mp success).2
    have entries := CoversFrom.visitEntries file source.root.outline parts (moduleBase file) _ inner
    have covered := (Visit.Covers.remarking notes _).andThen rfl
      (Visit.Covers.visitBody entries done)
    rw [canonical]
    refine Visit.Covers.openFile new read (covered.of_eq (List.nil_append _) ?_)
    intro label
    rw [Nat.zero_add]

/-- A walk that goes well covers all that its file leads to. -/
theorem walk_covers (view : FileView) (allowFaults : Bool) (path : String)
    (parts seen : List String) (success : (walk view allowFaults path parts seen).failure = none) :
    Visit.Covers view seen [(view.canonical path).toOption] (fun _ => 0)
      (walk view allowFaults path parts seen) := by
  induction path, parts, seen using walk_induction view with
  | step path parts seen nested =>
    rw [walk_eq] at success ⊢
    exact CoversFrom.visitPath nested success

end Walk

/-- A set of files that holds `start` and, with each file, the files of the modules it declares. -/
def FileView.ClosedFrom (view : FileView) (start : String) (files : Set String) : Prop :=
  start ∈ files ∧ ∀ file ∈ files, ∀ next, view.Follows file next → next ∈ files

/-- A closed set of files has every file that can be reached. -/
theorem FileView.ClosedFrom.mem_of_reachable {view : FileView} {start file : String}
    {files : Set String} (closed : view.ClosedFrom start files)
    (path : Relation.ReflTransGen view.Follows start file) : file ∈ files := by
  induction path with
  | refl => exact closed.1
  | tail _ follows ih => exact closed.2 _ ih _ follows

/-- A walk that succeeds has seen exactly the files that public declarations lead to from its
start. Each of them was read, its declarations all lead to files, and it has one record for itself
and one for each of its public inline modules; there are no other records. -/
theorem walk_seen_isLeast {view : FileView} {allowFaults : Bool} {root : String}
    (success : (walk view allowFaults root [] []).failure = none) :
    ∃ start, view.canonical root = .ok start ∧
      IsLeast {files | view.ClosedFrom start files}
        {file | file ∈ (walk view allowFaults root [] []).seen} ∧
      (∀ file ∈ (walk view allowFaults root [] []).seen, ∃ source,
        view.read file = .ok source ∧
        (∀ names n, Node.Nested source.root.namedChildren names n → n.IsFileModule →
          ∃ next, view.moduleAt? (moduleBase file) names n.nameText = some next) ∧
        (walk view allowFaults root [] []).records.countP (fun record => record.file == file) =
          1 + (Node.inlineModules source.root.namedChildren).length) ∧
      ∀ record ∈ (walk view allowFaults root [] []).records,
        record.file ∈ (walk view allowFaults root [] []).seen := by
  have covered := walk_covers view allowFaults root [] [] success
  generalize walk view allowFaults root [] [] = visit at covered ⊢
  obtain ⟨start, known, same⟩ := covered.reaches _ (List.mem_singleton_self _)
  have canonical : view.canonical root = .ok start := by
    cases found : view.canonical root with
    | error fault => rw [found] at same; cases same
    | ok file => rw [found] at same; cases same; rfl
  have settled : ∀ file ∈ visit.seen, view.Settled visit.seen file :=
    fun file member => covered.settled file member (List.not_mem_nil)
  have counted : ∀ file ∈ visit.seen, visit.labelled file = 1 + (view.inlineModules file).length := by
    intro file member
    simpa [member] using covered.counted file
  refine ⟨start, canonical, ⟨⟨known, ?_⟩, ?_⟩, ?_, ?_⟩
  · -- Closed: a file that was seen is settled, so all that it follows was seen.
    intro file member next follows
    obtain ⟨source, read, leads⟩ := (settled file member).declared
    obtain ⟨source', read', goal⟩ := FileView.follows_iff.mp follows
    obtain rfl : source = source' := Except.ok.inj (read.symm.trans read')
    obtain ⟨found, inside, equal⟩ := leads _ goal
    cases equal
    exact inside
  · -- Least: what was seen was reached from the start, along files that follow each other.
    intro files closed file member
    obtain ⟨first, goal, path⟩ := covered.reached file member List.not_mem_nil
    rw [canonical] at goal
    cases List.mem_singleton.mp goal
    exact closed.mem_of_reachable path
  · intro file member
    obtain ⟨source, read, leads⟩ := (settled file member).declared
    refine ⟨source, read, ?_, ?_⟩
    · intro names n nested declared
      have inside := mem_declarations_outline.mpr ⟨n, nested, declared, rfl⟩
      obtain ⟨next, _, found⟩ := leads _ (List.mem_map_of_mem inside)
      exact ⟨next, found⟩
    · have count := counted file member
      rwa [FileView.inlineModules, read] at count
  · intro record member
    by_contra outside
    have none : visit.labelled record.file = 0 := by
      simpa [outside] using covered.counted record.file
    have one := List.countP_eq_zero.mp none record member
    simp at one

namespace AliasedCrate

/-- A public module declaration, with a body if one is given. -/
def publicModule (name : String) (body : List Node) : Node :=
  .branch "mod_item" none (.leaf "visibility_modifier" "pub" :: .nameLeaf name :: body)

/-- A body, in the role that it has. -/
def list (role : Option String) (items : List Node) : Node :=
  .branch "declaration_list" role items

/-- A root file with two files, one inside an inline module, both aliases of one file, which
declares the root file again. -/
def view : FileView where
  workdir := "/c"
  files := ["/c/lib.rs", "/c/a.rs"]
  pathExists path := ["/c/lib.rs", "/c/a.rs", "/c/inner/b.rs", "/c/a/again.rs"].contains path
  isFile _ := true
  canonical
    | "/c/inner/b.rs" => .ok "/c/a.rs"
    | "/c/a/again.rs" => .ok "/c/lib.rs"
    | path => .ok path
  read
    | "/c/lib.rs" => .ok ⟨0, list none [publicModule "a" [],
        publicModule "inner" [list (some "body") [publicModule "b" []]]]⟩
    | "/c/a.rs" => .ok ⟨0, list none [publicModule "again" []]⟩
    | path => .error (.path (.system .notFound path))
  read_mem path source h := by
    split at h <;> simp_all

end AliasedCrate

/-- A crate with two paths to one file and a way back to its root is walked to its two files. -/
theorem aliased_crate_seen_isLeast :
    (walk AliasedCrate.view false "/c/lib.rs" [] []).failure = none ∧
      IsLeast {files | AliasedCrate.view.ClosedFrom "/c/lib.rs" files} {"/c/lib.rs", "/c/a.rs"} := by
  have success : (walk AliasedCrate.view false "/c/lib.rs" [] []).failure = none := by decide +kernel
  have seen : (walk AliasedCrate.view false "/c/lib.rs" [] []).seen = ["/c/lib.rs", "/c/a.rs"] := by
    decide +kernel
  obtain ⟨start, canonical, least, _⟩ := walk_seen_isLeast success
  cases canonical
  refine ⟨success, ?_⟩
  rw [seen] at least
  simpa [Set.insert_def] using least

end CrateSurface
