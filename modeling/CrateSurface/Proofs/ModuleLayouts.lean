import CrateSurface.Files.View
import CrateSurface.Proofs.Calls
import CrateSurface.Proofs.CanonicalPaths
import Mathlib.Logic.Relation

namespace CrateSurface

/-- A label, with `new` in the place of `old`. -/
def relabelled (old new label : String) : String :=
  if label = old then new else label

/-- A record with one label in the place of another, in its issues too. -/
def Module.relabel (old new : String) (record : Module String) : Module String :=
  { record with
    file := relabelled old new record.file
    issues := record.issues.map fun issue => { issue with file := relabelled old new issue.file } }

/-- A record under a new label is the old record with its label changed. -/
theorem Module.ofBody_relabelled (old new label : String) (parts : List String)
    (body : List Entry) :
    Module.ofBody (relabelled old new label) parts body =
      (Module.ofBody label parts body).relabel old new := by
  simp [relabel, ofBody, Finding.issue, Function.comp_def]

section Twins

variable {view : FileView} {allowFaults : Bool} {file label : String} {out : List (Module String)}

/-- Two walks at the same point. The first has seen `file` besides the files of the second, and the
records that it has appended to `out` carry the label `file` where those of the second carry
`label`. -/
structure Progress.Twin (file label : String) (out : List (Module String))
    (first second : Progress) : Prop where
  records : ∃ added, first.out = out ++ added ∧
    second.out = out ++ added.map (Module.relabel file label)
  seen : ∀ other, other ∈ first.seen ↔ other = file ∨ other ∈ second.seen
  unseen : file ∉ second.seen

/-- Two outcomes with the same failure, whose progress differs in a label only. -/
structure Outcome.Twin (file label : String) (out : List (Module String))
    (first second : Outcome) : Prop where
  progress : first.progress.Twin file label out second.progress
  failure : first.failure = second.failure

theorem Progress.Twin.opening {first second : Progress} (twin : first.Twin file label out second)
    {other : String} (apart : other ≠ file) :
    (first.opening other).Twin file label out (second.opening other) where
  records := twin.records
  seen name := by
    simp only [Progress.opening, List.mem_append, List.mem_singleton, twin.seen name]
    tauto
  unseen := by
    simp [Progress.opening, twin.unseen, Ne.symm apart]

theorem Progress.Twin.closing {first second : Progress} (twin : first.Twin file label out second)
    (record : Module String) :
    (first.closing record).Twin file label out (second.closing (record.relabel file label)) where
  records := by
    obtain ⟨added, left, right⟩ := twin.records
    refine ⟨added ++ [record], ?_, ?_⟩
    · rw [Progress.closing, left, List.append_assoc]
    · rw [Progress.closing, right, List.append_assoc, List.map_append]
      rfl
  seen := twin.seen
  unseen := twin.unseen

/-- Outcomes stay twins if what comes next keeps them so. -/
theorem Outcome.Twin.andThen {first second : Outcome} (twin : first.Twin file label out second)
    {next after : Progress → Outcome}
    (rest : first.failure = none →
      (next first.progress).Twin file label out (after second.progress)) :
    (first.andThen next).Twin file label out (second.andThen after) := by
  unfold Outcome.andThen
  rw [← twin.failure]
  cases failed : first.failure with
  | some error => exact twin
  | none => exact rest failed

/-- Two calls that ask for the same, one in each of two walks. -/
inductive Call.Twin (file label : String) (out : List (Module String)) : Call → Call → Prop
  | file {path : String} {parts : List String} {first second : Progress} :
      first.Twin file label out second →
      Call.Twin file label out (.file path parts first) (.file path parts second)
  | body {owner base : String} {parts : List String} {root : Node} {first second : Progress} :
      first.Twin file label out second →
      Call.Twin file label out (.body owner parts base root first)
        (.body (relabelled file label owner) parts base root second)

/-- Neither the call nor any call that it leads to visits a path of the file. -/
def Call.Avoids (view : FileView) (allowFaults : Bool) (file : String) (call : Call) : Prop :=
  ∀ path parts progress,
    Relation.ReflTransGen (Calls view allowFaults) call (.file path parts progress) →
    view.canonical path ≠ .ok file

/-- The nested calls of a call avoid what it avoids. -/
theorem Call.Avoids.nested {call inner : Call} (avoids : call.Avoids view allowFaults file)
    (nested : Calls view allowFaults call inner) : inner.Avoids view allowFaults file :=
  fun path parts progress reaches => avoids path parts progress (.head nested reaches)

/-- The items of a body keep twins, if their calls do. -/
theorem items_twin {owner base : String} {parts : List String} {root : Node}
    {first second : Progress} (twin : first.Twin file label out second)
    (nested : ∀ inner, Calls view allowFaults (.body owner parts base root first) inner →
      ∀ other, Call.Twin file label out inner other →
        (collect view allowFaults inner).Twin file label out (collect view allowFaults other)) :
    (Call.items view (collect view allowFaults) owner parts base root.namedChildren first).Twin
      file label out
      (Call.items view (collect view allowFaults) (relabelled file label owner) parts base
        root.namedChildren second) := by
  refine items_induction owner parts base root first (motive := fun rest reached outcome =>
    ∀ other, reached.Twin file label out other → outcome.Twin file label out
      (Call.items view (collect view allowFaults) (relabelled file label owner) parts base rest
        other)) ?_ ?_ second twin
  · intro reached other twin
    exact ⟨twin, rfl⟩
  · intro n rest reached outcome visit later other twin
    rw [Call.items]
    have here : outcome.Twin file label out (Call.item view (collect view allowFaults)
        (relabelled file label owner) parts base n other) := by
      cases visit with
      | passed noBody notDeclared =>
        rw [Call.item_of_passed noBody notDeclared]
        exact ⟨twin, rfl⟩
      | inline found call =>
        rw [Call.item_of_inlineBody? found]
        exact nested _ call _ (.body twin)
      | unresolved declared none =>
        rw [Call.item_of_isFileModule declared, none]
        exact ⟨twin, rfl⟩
      | declared declared found call =>
        rw [Call.item_of_isFileModule declared, found]
        exact nested _ call _ (.file twin)
    exact here.andThen fun success => later success _ here.progress

/-- Walks that differ in one file, which neither of them comes to, go the same way. -/
theorem collect_twin {call other : Call} (avoids : call.Avoids view allowFaults file)
    (twin : Call.Twin file label out call other) :
    (collect view allowFaults call).Twin file label out (collect view allowFaults other) := by
  induction call using (calls_wellFounded view allowFaults).induction generalizing other with
  | _ call ih =>
    have nested : ∀ inner, Calls view allowFaults call inner → ∀ other,
        Call.Twin file label out inner other →
        (collect view allowFaults inner).Twin file label out (collect view allowFaults other) :=
      fun inner called other twin => ih inner called (avoids.nested called) twin
    cases twin with
    | @body owner base parts root first second twin =>
      rw [collect_eq_step, collect_eq_step (.body (relabelled file label owner) ..), Call.step,
        Call.step]
      refine (items_twin twin nested).andThen fun _ => ⟨?_, rfl⟩
      rw [Module.ofBody_relabelled]
      exact (items_twin twin nested).progress.closing _
    | @file path parts first second twin =>
      have apart := avoids path parts first .refl
      cases canonical : view.canonical path with
      | error fault =>
        rw [collect_lost canonical, collect_lost canonical]
        exact ⟨twin, rfl⟩
      | ok found =>
        have other : found ≠ file := by
          rintro rfl
          exact apart canonical
        -- The two walks differ in `file` alone, so that both know `found` or neither does.
        have same : found ∈ first.seen ↔ found ∈ second.seen := by
          rw [twin.seen found]
          simp [other]
        by_cases known : found ∈ first.seen
        · rw [collect_known canonical known, collect_known canonical (same.mp known)]
          exact ⟨twin, rfl⟩
        · have new : found ∉ second.seen := fun member => known (same.mpr member)
          cases opened : (openSource allowFaults found (view.read found)).2 with
          | error error =>
            rw [collect_refused canonical known opened, collect_refused canonical new opened]
            exact ⟨twin.opening other, rfl⟩
          | ok source =>
            rw [collect_opened canonical known opened, collect_opened canonical new opened]
            have label : relabelled file label found = found := if_neg other
            have body := nested _ (.opened canonical known opened) _ (.body (twin.opening other))
            rwa [label] at body

end Twins

section Layouts

variable {tree : FileTree} {parse : List Char → Node} {allowFaults : Bool}

/-- The file of a module and the same body written inside its parent give the same: they end with
the same error or with none, append the same records apart from the label of the file, and see the
same files apart from the file itself. This holds for both places where the file may stand. -/
theorem module_layouts_agree {base name file : String} {source : Source} {parts : List String}
    {progress : Progress} (linkFree : tree.LinkFree) (normal : Path.IsNormal base)
    (legal : IsModuleName name) (resolved : moduleFile? (tree.view parse) base name = some file)
    (new : file ∉ progress.seen)
    (opened : (openSource allowFaults file ((tree.view parse).read file)).2 = .ok source)
    (apart : ∀ path parts' later,
      Relation.TransGen (Calls (tree.view parse) allowFaults) (.file file parts progress)
        (.file path parts' later) →
      tree.canonical path ≠ .ok file)
    (label : String) :
    let whole := collect (tree.view parse) allowFaults (.file file parts progress)
    let inline := collect (tree.view parse) allowFaults
      (.body label parts (Path.join base name) source.root progress)
    whole.failure = inline.failure ∧
      (∃ added, whole.progress.out = progress.out ++ added ∧
        inline.progress.out = progress.out ++ added.map (Module.relabel file label)) ∧
      (∀ other, other ∈ whole.progress.seen ↔ other = file ∨ other ∈ inline.progress.seen) ∧
      file ∉ inline.progress.seen := by
  intro whole inline
  obtain ⟨canonical, home⟩ := moduleFile?_canonical linkFree normal legal resolved
  have start : Calls (tree.view parse) allowFaults (.file file parts progress)
      (.body file parts (Path.join base name) source.root (progress.opening file)) := by
    rw [← home]
    exact .opened canonical new opened
  have avoids : Call.Avoids (tree.view parse) allowFaults file
      (.body file parts (Path.join base name) source.root (progress.opening file)) :=
    fun path parts' later reaches => apart path parts' later (.head' start reaches)
  -- The body of the file is walked with the file marked, the body inside the parent without it.
  have begun : (progress.opening file).Twin file label progress.out progress :=
    { records := ⟨[], by simp [Progress.opening], by simp⟩
      seen := by simp [Progress.opening, or_comm]
      unseen := new }
  have twin := collect_twin avoids (.body begun)
  have named : relabelled file label file = label := if_pos rfl
  rw [named] at twin
  have step : whole = collect (tree.view parse) allowFaults
      (.body file parts (Path.join base name) source.root (progress.opening file)) := by
    rw [← home]
    exact collect_opened canonical new opened
  rw [step]
  exact ⟨twin.failure, twin.progress.records, twin.progress.seen, twin.progress.unseen⟩

end Layouts

namespace DirectoryModule

/-- The file of a module with a child. -/
def outer : Node :=
  .branch "source_file" none [.declaring "b"]

/-- The file of the child. -/
def inner : Node :=
  .branch "source_file" none []

/-- The module `a` in a directory, with the file of its own module `b` beside it. -/
def tree : FileTree where
  entries := [(["w"], .directory), (["w", "a"], .directory), (["w", "a", "mod.rs"], .file [97]),
    (["w", "a", "b.rs"], .file [])]
  workdir := ["w"]

/-- The parser for the two files. -/
def parse (text : List Char) : Node :=
  if text == [] then inner else outer

theorem linkFree : tree.LinkFree := by
  intro place target found
  cases place with
  | nil => cases found
  | cons first rest =>
    obtain ⟨entry, inside, link⟩ := Option.map_eq_some_iff.mp found
    have member := List.mem_of_find?_eq_some inside
    simp only [tree, List.mem_cons, List.not_mem_nil, or_false] at member
    rcases member with rfl | rfl | rfl | rfl <;> cases link

theorem normal : Path.IsNormal "/w" where
  root := by decide +kernel
  normal := by decide +kernel

theorem legal : IsModuleName "a" where
  full := by decide
  noSlash := by decide
  noDot := by decide
  notRoot := by decide

/-- What the walk from the file of `a` comes to. -/
inductive Below : Call → Prop
  | outer (label : String) (parts : List String) (progress : Progress) :
      Below (.body label parts "/w/a" outer progress)
  | file (parts : List String) (progress : Progress) : Below (.file "/w/a/b.rs" parts progress)
  | inner (label base : String) (parts : List String) (progress : Progress) :
      Below (.body label parts base inner progress)

theorem below_step {call next : Call} (below : Below call)
    (called : Calls (tree.view parse) false call next) : Below next := by
  have canonical : (tree.view parse).canonical "/w/a/b.rs" = .ok "/w/a/b.rs" := by decide +kernel
  have opened : (openSource false "/w/a/b.rs" ((tree.view parse).read "/w/a/b.rs")).2 =
      .ok ⟨0, inner⟩ := rfl
  have resolved : moduleFile? (tree.view parse) "/w/a" (Node.declaring "b").nameText =
      some "/w/a/b.rs" := by
    decide +kernel
  cases below with
  | inner label base parts progress =>
    have none {before after : List Node} {n : Node} : inner.namedChildren ≠ before ++ n :: after :=
      fun split => List.append_ne_nil_of_right_ne_nil before (List.cons_ne_nil n after) split.symm
    cases called with
    | inline split => exact absurd split none
    | declared split => exact absurd split none
  | outer label parts progress =>
    have one {before after : List Node} {n : Node}
        (split : outer.namedChildren = before ++ n :: after) : n = .declaring "b" := by
      have inside : n ∈ outer.namedChildren := by
        rw [split]
        simp
      exact List.mem_singleton.mp inside
    cases called with
    | inline split _ found =>
      rw [one split, (Node.declaring_isFileModule "b").inlineBody?] at found
      cases found
    | declared split _ _ found =>
      rw [one split, resolved] at found
      cases found
      exact .file ..
  | file parts progress =>
    cases called with
    | opened found _ source =>
      rw [canonical] at found
      cases found
      rw [opened] at source
      cases source
      exact .inner ..

theorem below_of_transGen {progress : Progress} {call : Call}
    (reaches : Relation.TransGen (Calls (tree.view parse) false)
      (.file "/w/a/mod.rs" ["a"] progress) call) : Below call := by
  have canonical : (tree.view parse).canonical "/w/a/mod.rs" = .ok "/w/a/mod.rs" := by
    decide +kernel
  have opened : (openSource false "/w/a/mod.rs" ((tree.view parse).read "/w/a/mod.rs")).2 =
      .ok ⟨1, outer⟩ := rfl
  induction reaches with
  | single called =>
    cases called with
    | opened found _ source =>
      rw [canonical] at found
      cases found
      rw [opened] at source
      cases source
      exact .outer ..
  | tail _ called ih => exact below_step ih called

end DirectoryModule

section

open DirectoryModule

/-- A module in `mod.rs` with a child has the same records as one in its own file. -/
theorem directory_module_layouts_agree :
    let whole := collect (tree.view parse) false (.file "/w/a/mod.rs" ["a"] ⟨[], [], []⟩)
    let inline := collect (tree.view parse) false
      (.body "/w/lib.rs" ["a"] "/w/a" outer ⟨[], [], []⟩)
    moduleFile? (tree.view parse) "/w" "a" = some "/w/a/mod.rs" ∧
      (whole.failure = none ∧ inline.failure = none) ∧
      (whole.progress.seen = ["/w/a/mod.rs", "/w/a/b.rs"] ∧
        inline.progress.seen = ["/w/a/b.rs"]) ∧
      whole.progress.out.map (·.file) = ["/w/a/b.rs", "/w/a/mod.rs"] ∧
      inline.progress.out = whole.progress.out.map (Module.relabel "/w/a/mod.rs" "/w/lib.rs") := by
  intro whole inline
  have resolved : moduleFile? (tree.view parse) "/w" "a" = some "/w/a/mod.rs" := by decide +kernel
  have opened : (openSource false "/w/a/mod.rs" ((tree.view parse).read "/w/a/mod.rs")).2 =
      .ok ⟨1, outer⟩ := rfl
  have apart : ∀ path parts later, Relation.TransGen (Calls (tree.view parse) false)
      (.file "/w/a/mod.rs" ["a"] ⟨[], [], []⟩) (.file path parts later) →
      tree.canonical path ≠ .ok "/w/a/mod.rs" := by
    intro path parts later reaches
    cases below_of_transGen reaches
    decide +kernel
  obtain ⟨same, ⟨added, left, right⟩, _, _⟩ := module_layouts_agree linkFree normal legal resolved
    List.not_mem_nil opened apart "/w/lib.rs"
  have success : whole.failure = none := by decide +kernel
  refine ⟨resolved, ⟨success, same ▸ success⟩, ⟨by decide +kernel, by decide +kernel⟩,
    by decide +kernel, ?_⟩
  rw [List.nil_append] at left right
  exact right.trans (congrArg _ left.symm)

end

end CrateSurface
