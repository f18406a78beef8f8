import CrateSurface.Proofs.AlikeBodies
import CrateSurface.Proofs.WalkUnfolding

namespace CrateSurface

namespace Visit

/-- Two visits that append the same records, see the same files and end the same way, whatever
they log. -/
structure SameOutcome (first second : Visit) : Prop where
  records : first.records = second.records
  seen : first.seen = second.seen
  failure : first.failure = second.failure

theorem SameOutcome.refl (visit : Visit) : visit.SameOutcome visit :=
  ⟨rfl, rfl, rfl⟩

theorem SameOutcome.trans {a b c : Visit} (first : a.SameOutcome b) (second : b.SameOutcome c) :
    a.SameOutcome c :=
  ⟨first.records.trans second.records, first.seen.trans second.seen,
    first.failure.trans second.failure⟩

theorem SameOutcome.symm {a b : Visit} (same : a.SameOutcome b) : b.SameOutcome a :=
  ⟨same.records.symm, same.seen.symm, same.failure.symm⟩

theorem SameOutcome.andThen {first second : Visit} {next after : List String → Visit}
    (same : first.SameOutcome second)
    (rest : first.failure = none → (next first.seen).SameOutcome (after first.seen)) :
    (first.andThen next).SameOutcome (second.andThen after) := by
  cases failed : first.failure with
  | some error =>
    rw [andThen_of_failure failed, andThen_of_failure (same.failure ▸ failed)]
    exact same
  | none =>
    obtain ⟨records, seen, failure⟩ := rest failed
    rw [andThen_of_success failed, andThen_of_success (same.failure ▸ failed), ← same.records,
      ← same.seen, ← records]
    exact ⟨rfl, seen, failure⟩

theorem remarking_andThen (notes : List Log.Note) (seen : List String) (next : List String → Visit) :
    ((remarking notes seen).andThen next).SameOutcome (next seen) := by
  rw [andThen_of_success rfl]
  exact ⟨List.nil_append _, rfl, rfl⟩

/-- All files that a visit adds to those seen before have a property. -/
def AddsOnly (P : String → Prop) (seen : List String) (visit : Visit) : Prop :=
  ∀ file ∈ visit.seen, file ∉ seen → P file

variable {P : String → Prop} {seen : List String} {first : Visit} {next : List String → Visit}

/-- The first of two visits adds no more than both. -/
theorem AddsOnly.start (adds : AddsOnly P seen (first.andThen next))
    (grows : first.seen ⊆ (next first.seen).seen) : AddsOnly P seen first :=
  fun file member => adds file (seen_subset_andThen grows member)

/-- The second of two visits adds no more than both. -/
theorem AddsOnly.rest (adds : AddsOnly P seen (first.andThen next)) (grows : seen ⊆ first.seen)
    (success : first.failure = none) : AddsOnly P first.seen (next first.seen) := by
  intro file member new
  rw [andThen_of_success success] at adds
  exact adds file member fun old => new (grows old)

end Visit

/-- What two views may hold of one file: the same fault, or trees that differ in hidden content at
most. Where syntax errors are refused, the trees have none or the same number of them. -/
inductive ReadsAlike (allowFaults : Bool) : Except ReadFault Source → Except ReadFault Source → Prop
  | failed (fault : ReadFault) : ReadsAlike allowFaults (.error fault) (.error fault)
  | read {a b : Source} : Node.BodiesAlike a.root.namedChildren b.root.namedChildren →
      (allowFaults = true ∨ (a.root.hasFault = b.root.hasFault ∧
        (a.root.hasFault = true → a.root.faults = b.root.faults))) →
      ReadsAlike allowFaults (.ok a) (.ok b)

section Walks

variable {v w : FileView} {f g : String → List String → List String → Visit} {P : String → Prop}

/-- Two ways to visit files have the same outcome once the files of `seen` have been seen, as far as
the files that they add have a property. -/
def OutcomesAgree (P : String → Prop) (seen : List String)
    (f g : String → List String → List String → Visit) : Prop :=
  ∀ path parts later, seen ⊆ later → (f path parts later).AddsOnly P later →
    (f path parts later).SameOutcome (g path parts later)

theorem OutcomesAgree.mono {seen later : List String} (agree : OutcomesAgree P seen f g)
    (more : seen ⊆ later) : OutcomesAgree P later f g :=
  fun path parts last after => agree path parts last (List.Subset.trans more after)

theorem moduleFile?_eq (paths : v.pathExists = w.pathExists) (base name : String) :
    moduleFile? v base name = moduleFile? w base name := by
  rw [moduleFile?, moduleFile?, paths]

/-- Bodies that match are visited with the same outcome, if their files are. -/
theorem Matches.visitEntries (grows : Grows f) (paths : v.pathExists = w.pathExists) (file : String)
    {xs ys : List Entry} (matched : Matches xs ys) :
    ∀ parts base seen, OutcomesAgree P seen f g →
      (visitEntries v f file parts base xs seen).AddsOnly P seen →
      (visitEntries v f file parts base xs seen).SameOutcome
        (visitEntries w g file parts base ys seen) := by
  induction matched with
  | nil =>
    intro parts base seen _ _
    rw [visitEntries_nil, visitEntries_nil]
    exact .refl _
  | left _ ih =>
    intro parts base seen agree adds
    rw [visitEntries_item] at adds ⊢
    have rest := adds.rest (List.Subset.refl _) rfl
    exact (Visit.remarking_andThen _ _ _).trans (ih parts base seen agree rest)
  | right _ ih =>
    intro parts base seen agree adds
    rw [visitEntries_item]
    exact (ih parts base seen agree adds).trans (Visit.remarking_andThen _ _ _).symm
  | item contribution _ ih =>
    intro parts base seen agree adds
    rw [visitEntries_item] at adds ⊢
    rw [visitEntries_item]
    have rest := adds.rest (List.Subset.refl _) rfl
    exact (Visit.SameOutcome.refl _).andThen fun _ => ih parts base seen agree rest
  | @inlineModule xs ys body other name inside _ inner ih =>
    intro parts base seen agree adds
    rw [visitEntries_inlineModule] at adds ⊢
    rw [visitEntries_inlineModule]
    have started : seen ⊆ (visitBody v f file (parts ++ [name]) (Path.join base name) body seen).seen :=
      grows.visitBody _ _ _ _ _
    have own := adds.start (grows.visitEntries file xs parts base _)
    -- Both bodies make one record, so only what they open could differ.
    have same : (visitBody v f file (parts ++ [name]) (Path.join base name) body seen).SameOutcome
        (visitBody w g file (parts ++ [name]) (Path.join base name) other seen) := by
      rw [visitBody] at own ⊢
      rw [visitBody, inside.ofBody_eq]
      exact (inner _ _ seen agree (own.start (List.Subset.refl _))).andThen fun _ => .refl _
    exact same.andThen fun success =>
      ih parts base _ (agree.mono started) (adds.rest started success)
  | @fileModule xs ys name _ ih =>
    intro parts base seen agree adds
    rw [visitEntries_fileModule] at adds ⊢
    rw [visitEntries_fileModule, ← moduleFile?_eq paths]
    cases found : moduleFile? v base name with
    | none =>
      rw [found] at adds
      exact (Visit.SameOutcome.refl _).andThen fun success => by cases success
    | some path =>
      rw [found] at adds
      have started := grows path (parts ++ [name]) seen
      have own := adds.start (grows.visitEntries file xs parts base _)
      exact (agree path _ seen (List.Subset.refl _) own).andThen fun success =>
        ih parts base _ (agree.mono started) (adds.rest started success)

theorem Matches.visitBody {xs ys : List Entry} (matched : Matches xs ys) (grows : Grows f)
    (paths : v.pathExists = w.pathExists) (file : String) (parts : List String) (base : String)
    (seen : List String) (agree : OutcomesAgree P seen f g)
    (adds : (visitBody v f file parts base xs seen).AddsOnly P seen) :
    (visitBody v f file parts base xs seen).SameOutcome (visitBody w g file parts base ys seen) := by
  unfold CrateSurface.visitBody at adds ⊢
  rw [matched.ofBody_eq] at adds ⊢
  have own := adds.start (List.Subset.refl _)
  exact (matched.visitEntries grows paths file parts base seen agree own).andThen fun _ => .refl _

/-- A file that both views hold alike is refused by both or opened by both. -/
theorem ReadsAlike.openSource {allowFaults : Bool} {a b : Except ReadFault Source}
    (alike : ReadsAlike allowFaults a b) (file : String) :
    (∃ error, (openSource allowFaults file a).2 = .error error ∧
      (openSource allowFaults file b).2 = .error error) ∨
    ∃ source other, (openSource allowFaults file a).2 = .ok source ∧
      (openSource allowFaults file b).2 = .ok other ∧
      Node.BodiesAlike source.root.namedChildren other.root.namedChildren := by
  cases alike with
  | failed fault => exact Or.inl ⟨_, rfl, rfl⟩
  | @read a b alike sound =>
    simp only [CrateSurface.openSource, acceptSource]
    rcases sound with rfl | ⟨faulty, faults⟩
    · right
      refine ⟨a, b, ?_, ?_, alike⟩
      · split <;> rfl
      · split <;> rfl
    · rw [← faulty]
      cases found : a.root.hasFault with
      | false => exact Or.inr ⟨a, b, rfl, rfl, alike⟩
      | true =>
        rw [← faults found]
        cases allowFaults with
        | false => exact Or.inl ⟨_, rfl, rfl⟩
        | true => exact Or.inr ⟨a, b, rfl, rfl, alike⟩

section Paths

variable {view : FileView} {allowFaults : Bool} {path file : String} {parts seen : List String}

/-- A file that cannot be opened fails the visit, and is seen. -/
theorem visitPath_refused {error : WalkError} (canonical : view.canonical path = .ok file)
    (new : file ∉ seen) (refused : (openSource allowFaults file (view.read file)).2 = .error error) :
    (visitPath view f allowFaults path parts seen).SameOutcome
      (.failing error [] (seen ++ [file])) := by
  unfold visitPath
  rw [canonical]
  simp only [if_neg new]
  cases opening : openSource allowFaults file (view.read file) with
  | mk notes result =>
    rw [opening] at refused
    cases refused
    exact ⟨rfl, rfl, rfl⟩

theorem visitPath_opened {source : Source} (canonical : view.canonical path = .ok file)
    (new : file ∉ seen) (opened : (openSource allowFaults file (view.read file)).2 = .ok source) :
    (visitPath view f allowFaults path parts seen).SameOutcome
      (visitBody view f file parts (moduleBase file) source.root.outline (seen ++ [file])) := by
  unfold visitPath
  rw [canonical]
  simp only [if_neg new]
  cases opening : openSource allowFaults file (view.read file) with
  | mk notes result =>
    rw [opening] at opened
    cases opened
    exact Visit.remarking_andThen _ _ _

/-- A file that is new is seen after the visit, whatever comes of it. -/
theorem visitPath_marks (grows : Grows f) (canonical : view.canonical path = .ok file)
    (new : file ∉ seen) : file ∈ (visitPath view f allowFaults path parts seen).seen := by
  have last : file ∈ seen ++ [file] := List.mem_append_right _ (List.mem_singleton_self file)
  cases opening : (openSource allowFaults file (view.read file)).2 with
  | error error =>
    rw [(visitPath_refused canonical new opening).seen]
    exact last
  | ok source =>
    rw [(visitPath_opened canonical new opening).seen]
    exact grows.visitBody _ _ _ _ _ last

end Paths

/-- Visits of one path in two views agree if the visits of nested files do. -/
theorem visitPath_sameOutcome {allowFaults : Bool} {path : String} {parts seen : List String}
    (grows : Grows f) (paths : v.pathExists = w.pathExists) (canonical : v.canonical = w.canonical)
    (alike : ∀ file, P file → ReadsAlike allowFaults (v.read file) (w.read file))
    (agree : ∀ file source, file ∉ seen → v.read file = .ok source →
      OutcomesAgree P (seen ++ [file]) f g)
    (adds : (visitPath v f allowFaults path parts seen).AddsOnly P seen) :
    (visitPath v f allowFaults path parts seen).SameOutcome
      (visitPath w g allowFaults path parts seen) := by
  cases here : v.canonical path with
  | error fault =>
    have there : w.canonical path = .error fault := canonical ▸ here
    simp only [visitPath, here, there]
    exact .refl _
  | ok file =>
    have there : w.canonical path = .ok file := canonical ▸ here
    by_cases old : file ∈ seen
    · simp only [visitPath, here, there, if_pos old]
      exact .refl _
    · -- The file is marked whether it can be used or not, so that both views hold it alike.
      have holds : P file := adds file (visitPath_marks grows here old) old
      rcases (alike file holds).openSource file with
        ⟨error, left, right⟩ | ⟨source, other, left, right, bodies⟩
      · exact (visitPath_refused here old left).trans (visitPath_refused there old right).symm
      · have first : (visitPath v f allowFaults path parts seen).SameOutcome
            (visitBody v f file parts (moduleBase file) source.root.outline (seen ++ [file])) :=
          visitPath_opened here old left
        have second : (visitPath w g allowFaults path parts seen).SameOutcome
            (visitBody w g file parts (moduleBase file) other.root.outline (seen ++ [file])) :=
          visitPath_opened there old right
        have visited : (visitBody v f file parts (moduleBase file) source.root.outline
            (seen ++ [file])).AddsOnly P (seen ++ [file]) := by
          intro added member new
          rw [← first.seen] at member
          exact adds added member fun known => new (List.mem_append_left _ known)
        have nested := agree file source old (openSource_eq_ok left).1
        exact (first.trans (bodies.outline.visitBody grows paths file parts _ _ nested visited)).trans
          second.symm

/-- Walks in two views that hold the visited files alike have the same outcome. -/
theorem walk_sameOutcome {allowFaults : Bool} (paths : v.pathExists = w.pathExists)
    (canonical : v.canonical = w.canonical)
    (alike : ∀ file, P file → ReadsAlike allowFaults (v.read file) (w.read file)) (path : String)
    (parts seen : List String) :
    (walk v allowFaults path parts seen).AddsOnly P seen →
      (walk v allowFaults path parts seen).SameOutcome (walk w allowFaults path parts seen) := by
  induction path, parts, seen using walk_induction v with
  | step path parts seen nested =>
    intro adds
    rw [walk_eq] at adds ⊢
    rw [walk_eq w]
    exact visitPath_sameOutcome (walk_grows v allowFaults) paths canonical alike nested adds

end Walks

/-- Two crates whose visited files and whose bodies differ in hidden content at most give the same
records, see the same files and end with the same error, if any. -/
theorem walkBody_sameOutcome {v w : FileView} {allowFaults : Bool} {body other : Node}
    (file : String) (parts : List String) (base : String) (seen : List String)
    (paths : v.pathExists = w.pathExists) (canonical : v.canonical = w.canonical)
    (bodies : Node.BodiesAlike body.namedChildren other.namedChildren)
    (files : ∀ visited ∈ (walkBody v allowFaults file parts base body.outline seen).seen,
      visited ∉ seen → ReadsAlike allowFaults (v.read visited) (w.read visited)) :
    (walkBody v allowFaults file parts base body.outline seen).SameOutcome
      (walkBody w allowFaults file parts base other.outline seen) := by
  refine bodies.outline.visitBody (walk_grows v allowFaults) paths file parts base seen ?_ files
  intro path parts later _ adds
  exact walk_sameOutcome paths canonical (fun _ alike => alike) path parts later adds

namespace TwoCrates

open Node (branch nameLeaf)

/-- The mark of a public item. -/
def bare : Node := .leaf "visibility_modifier" "pub"

/-- A body of statements. -/
def block (statements : List Node) : Node :=
  branch "block" (some "body") statements

/-- A function without a mark, with statements in its body. -/
def privateFunction (statements : List Node) : Node :=
  branch "function_item" none [nameLeaf "g", block statements]

/-- The root file: a public module in a file of its own, a private item, and a public function. -/
def root (hidden : Node) (statements : List Node) : Node :=
  branch "source_file" none [branch "mod_item" none [bare, nameLeaf "a"], hidden,
    branch "function_item" none [bare, nameLeaf "f", block statements]]

/-- The file of the module, with one private function. -/
def module (statements : List Node) : Node :=
  branch "source_file" none [privateFunction statements]

/-- The file of the module is there, with the statements in its function. -/
def view (statements : List Node) : FileView where
  workdir := "/"
  files := ["/a.rs"]
  pathExists path := path == "/a.rs"
  isFile _ := true
  canonical path := .ok path
  read
    | "/a.rs" => .ok ⟨0, module statements⟩
    | path => .error (.path (.system .notFound path))
  read_mem path source h := by
    split at h <;> simp_all

/-- A statement that does not follow the grammar. -/
def fault : Node :=
  { branch "ERROR" none [] with error := true }

/-- A function whose body is, against the grammar, a marker of visibility. -/
def marked (marker : String) : Node :=
  branch "function_item" none
    [nameLeaf "h", { Node.leaf "visibility_modifier" marker with field := some "body" }]

/-- The function is hidden, whatever it does. -/
theorem privateFunction_isHidden (statements : List Node) :
    (privateFunction statements).IsHidden where
  isPrivate := rfl
  kind := by simp [privateFunction, branch]

theorem module_alike (statements others : List Node) :
    Node.BodiesAlike (module statements).namedChildren (module others).namedChildren :=
  .item (.hidden (privateFunction_isHidden statements) (privateFunction_isHidden others)) .nil

theorem rebodied_marked (marker other : String) : Node.Rebodied (marked marker) (marked other) :=
  ⟨rfl, .intro [nameLeaf "h"] [] _ _ rfl rfl rfl rfl rfl rfl trivial⟩

end TwoCrates

section

open TwoCrates Node

/-- Hidden content shows in two ways. A syntax error in a private function of a visited file ends
the walk, where such errors are refused; and a body that is a marker of visibility decides whether
its function is public. -/
theorem hidden_content_shows :
    (Node.BodiesAlike (module [fault]).namedChildren (module []).namedChildren ∧
      let body := (root (privateFunction []) []).outline
      (walkBody (view [fault]) false "/lib.rs" [] "/" body []).failure.isSome = true ∧
        (walkBody (view []) false "/lib.rs" [] "/" body []).failure = none) ∧
    Node.Rebodied (marked "pub") (marked "crate") ∧
      let records := fun marker => (walkBody (view []) false "/lib.rs" [] "/"
        (branch "source_file" none [marked marker]).outline []).records
      records "pub" ≠ records "crate" := by
  refine ⟨⟨module_alike _ _, ?_, ?_⟩, rebodied_marked _ _, ?_⟩
  · decide +kernel
  · decide +kernel
  · decide +kernel

/-- Two crates that differ in hidden statements have the same outcome. -/
theorem two_crates_sameOutcome :
    let statement := Node.leaf "empty_statement" ";"
    let hidden := branch "mod_item" none [nameLeaf "p"]
    let left := walkBody (view []) false "/lib.rs" [] "/" (root (privateFunction []) []).outline []
    left.records.length = 2 ∧ left.SameOutcome
      (walkBody (view [statement]) false "/lib.rs" [] "/" (root hidden [statement]).outline []) := by
  intro statement hidden left
  have seen : left.seen = ["/a.rs"] := by decide +kernel
  have closed : hidden.IsHidden := ⟨rfl, by decide⟩
  refine ⟨by decide +kernel, walkBody_sameOutcome "/lib.rs" [] "/" [] rfl rfl ?_ ?_⟩
  · refine .item (.same _) (.item (.hidden (privateFunction_isHidden []) closed) (.item ?_ .nil))
    exact .function ⟨rfl, .intro [bare, nameLeaf "f"] [] _ _ rfl rfl rfl rfl rfl rfl trivial⟩ rfl
  · intro visited member _
    change visited ∈ left.seen at member
    rw [seen, List.mem_singleton] at member
    subst member
    exact .read (module_alike _ _) (Or.inr ⟨rfl, fun faulty => by cases faulty⟩)

end

end CrateSurface
