import CrateSurface.Proofs.ModuleTree
import CrateSurface.Walk
import Mathlib.Data.Finset.Card
import Mathlib.Data.Finset.Dedup
import Mathlib.Data.Finset.SDiff

namespace CrateSurface

namespace Visit

variable {first : Visit} {next : List String → Visit}

theorem andThen_of_success (success : first.failure = none) :
    first.andThen next = ⟨first.records ++ (next first.seen).records, (next first.seen).seen,
      first.notes ++ (next first.seen).notes, (next first.seen).failure⟩ := by
  simp [andThen, success]

theorem andThen_of_failure {error : WalkError} (failed : first.failure = some error) :
    first.andThen next = first := by
  simp [andThen, failed]

/-- Two visits go well if and only if both do. -/
theorem andThen_succeeds_iff :
    (first.andThen next).failure = none ↔
      first.failure = none ∧ (next first.seen).failure = none := by
  cases failed : first.failure with
  | none => simp [andThen_of_success failed]
  | some error => simp [andThen_of_failure failed, failed]

/-- What was seen stays seen. -/
theorem seen_subset_andThen (grows : first.seen ⊆ (next first.seen).seen) :
    first.seen ⊆ (first.andThen next).seen := by
  cases failed : first.failure with
  | none => rwa [andThen_of_success failed]
  | some error => rw [andThen_of_failure failed]; exact List.Subset.refl _

end Visit

section Equations

variable (view : FileView) (visitFile : String → List String → List String → Visit)
  (file : String) (parts : List String) (base name : String) (rest : List Entry)
  (seen : List String)

theorem visitEntries_nil :
    visitEntries view visitFile file parts base [] seen = .remarking [] seen := by
  rw [visitEntries]

theorem visitEntries_item (contribution : Contribution) :
    visitEntries view visitFile file parts base (.item contribution :: rest) seen =
      (Visit.remarking (contribution.remarks.map (Remark.note file)) seen).andThen
        (visitEntries view visitFile file parts base rest) := by
  rw [visitEntries, visitEntry]

theorem visitEntries_inlineModule (body : List Entry) :
    visitEntries view visitFile file parts base (.inlineModule name body :: rest) seen =
      (visitBody view visitFile file (parts ++ [name]) (Path.join base name) body seen).andThen
        (visitEntries view visitFile file parts base rest) := by
  rw [visitEntries, visitEntry, visitBody]

/-- A declared module of a body is visited in its file, or is unresolved. -/
theorem visitEntries_fileModule :
    visitEntries view visitFile file parts base (.fileModule name :: rest) seen =
      (match moduleFile? view base name with
        | some path => visitFile path (parts ++ [name]) seen
        | none => .failing (.unresolved name base) [] seen).andThen
          (visitEntries view visitFile file parts base rest) := by
  cases found : moduleFile? view base name with
  | none => simp only [visitEntries, visitEntry, found]
  | some path => simp only [visitEntries, visitEntry, found]

end Equations

/-- A file is opened if it can be read, and has no fault or may have faults. -/
theorem openSource_eq_ok {allowFaults : Bool} {path : String} {read : Except ReadFault Source}
    {source : Source} (opened : (openSource allowFaults path read).2 = .ok source) :
    read = .ok source ∧ (allowFaults = true ∨ source.root.hasFault = false) := by
  cases read with
  | error fault => cases opened
  | ok found =>
    simp only [openSource, acceptSource] at opened
    split at opened
    · split at opened
      · rename_i allowed
        cases opened
        exact ⟨rfl, Or.inl allowed⟩
      · cases opened
    · rename_i sound
      cases opened
      exact ⟨rfl, Or.inr (Bool.eq_false_iff.mpr sound)⟩

/-- All that a visit of a path can come to: the path leads nowhere, its file was seen before, the
file is marked but cannot be used, or the file is marked and its body gone through. -/
inductive PathVisit (view : FileView) (visitFile : String → List String → List String → Visit)
    (allowFaults : Bool) (path : String) (parts seen : List String) : Visit → Prop
  | lost {fault : PathFault} : view.canonical path = .error fault →
      PathVisit view visitFile allowFaults path parts seen
        (.failing (.notCanonical path fault) [] seen)
  | known {file : String} (notes : List Log.Note) : view.canonical path = .ok file → file ∈ seen →
      PathVisit view visitFile allowFaults path parts seen (.remarking notes seen)
  | refused {file : String} {error : WalkError} (notes : List Log.Note) :
      view.canonical path = .ok file → file ∉ seen →
      (openSource allowFaults file (view.read file)).2 = .error error →
      PathVisit view visitFile allowFaults path parts seen
        (.failing error notes (seen ++ [file]))
  | opened {file : String} {source : Source} (notes : List Log.Note) :
      view.canonical path = .ok file → file ∉ seen →
      (openSource allowFaults file (view.read file)).2 = .ok source →
      PathVisit view visitFile allowFaults path parts seen
        ((Visit.remarking notes (seen ++ [file])).andThen
          (visitBody view visitFile file parts (moduleBase file) source.root.outline))

/-- The visit of a path goes one of four ways. -/
theorem visitPath_spec (view : FileView)
    (visitFile : String → List String → List String → Visit) (allowFaults : Bool) (path : String)
    (parts seen : List String) :
    PathVisit view visitFile allowFaults path parts seen
      (visitPath view visitFile allowFaults path parts seen) := by
  unfold visitPath
  cases canonical : view.canonical path with
  | error fault => exact .lost canonical
  | ok file =>
    by_cases old : file ∈ seen
    · simp only [if_pos old]
      exact .known _ canonical old
    · simp only [if_neg old]
      cases opening : openSource allowFaults file (view.read file) with
      | mk notes result =>
        cases result with
        | error error => exact .refused _ canonical old (by rw [opening])
        | ok source => exact .opened _ canonical old (by rw [opening])

/-- A visit of files never forgets a file. -/
def Grows (visitFile : String → List String → List String → Visit) : Prop :=
  ∀ path parts seen, seen ⊆ (visitFile path parts seen).seen

section Growth

variable {view : FileView} {visitFile : String → List String → List String → Visit}

theorem Grows.visitBody_of_entries {file base : String} {parts seen : List String}
    {body : List Entry}
    (entries : seen ⊆ (visitEntries view visitFile file parts base body seen).seen) :
    seen ⊆ (visitBody view visitFile file parts base body seen).seen :=
  List.Subset.trans entries (Visit.seen_subset_andThen (List.Subset.refl _))

/-- The entries of a body only add to what was seen. -/
theorem Grows.visitEntries (grows : Grows visitFile) (file : String) (body : List Entry) :
    ∀ parts base seen, seen ⊆ (visitEntries view visitFile file parts base body seen).seen := by
  induction body using Entry.bodyInduction with
  | nil => intro parts base seen; rw [visitEntries_nil]; exact List.Subset.refl _
  | item contribution rest ih =>
    intro parts base seen
    rw [visitEntries_item]
    exact ih parts base seen
  | inlineModule name body rest inner ih =>
    intro parts base seen
    rw [visitEntries_inlineModule]
    exact List.Subset.trans (visitBody_of_entries (inner _ _ seen))
      (Visit.seen_subset_andThen (ih _ _ _))
  | fileModule name rest ih =>
    intro parts base seen
    rw [visitEntries_fileModule]
    refine List.Subset.trans ?_ (Visit.seen_subset_andThen (ih _ _ _))
    split
    · exact grows _ _ _
    · exact List.Subset.refl _

theorem Grows.visitBody (grows : Grows visitFile) (file : String) (parts : List String)
    (base : String) (body : List Entry) (seen : List String) :
    seen ⊆ (visitBody view visitFile file parts base body seen).seen :=
  visitBody_of_entries (grows.visitEntries file body parts base seen)

theorem Grows.visitPath (grows : Grows visitFile) (allowFaults : Bool) :
    Grows (visitPath view visitFile allowFaults) := by
  intro path parts seen
  have marked {file : String} : seen ⊆ seen ++ [file] := List.subset_append_left _ _
  have step := visitPath_spec view visitFile allowFaults path parts seen
  generalize CrateSurface.visitPath view visitFile allowFaults path parts seen = visit at step ⊢
  cases step with
  | lost => exact List.Subset.refl _
  | known => exact List.Subset.refl _
  | refused => exact marked
  | opened => exact List.Subset.trans marked (grows.visitBody _ _ _ _ _)

theorem walkWithin_grows (view : FileView) (allowFaults : Bool) (depth : Nat) :
    Grows (walkWithin view allowFaults depth) := by
  induction depth with
  | zero => intro path parts seen; exact List.Subset.refl _
  | succ depth ih => exact ih.visitPath allowFaults

/-- A walk only adds to what was seen. -/
theorem walk_grows (view : FileView) (allowFaults : Bool) : Grows (walk view allowFaults) :=
  walkWithin_grows view allowFaults _

end Growth

/-- Two visits of files that do the same once the files of `seen` have been seen. -/
def AgreeFrom (seen : List String) (f g : String → List String → List String → Visit) : Prop :=
  ∀ path parts later, seen ⊆ later → f path parts later = g path parts later

theorem AgreeFrom.mono {seen later : List String}
    {f g : String → List String → List String → Visit} (agree : AgreeFrom seen f g)
    (more : seen ⊆ later) : AgreeFrom later f g :=
  fun path parts last after => agree path parts last (List.Subset.trans more after)

section Agreement

variable {view : FileView} {f g : String → List String → List String → Visit}

theorem Visit.andThen_congr {first second : Visit} {next after : List String → Visit}
    (same : first = second) (rest : next first.seen = after first.seen) :
    first.andThen next = second.andThen after := by
  subst same
  simp only [andThen, rest]

/-- The entries of a body are visited alike, if their files are. -/
theorem AgreeFrom.visitEntries (grows : Grows f) (file : String) (body : List Entry) :
    ∀ parts base seen, AgreeFrom seen f g →
      visitEntries view f file parts base body seen =
        visitEntries view g file parts base body seen := by
  induction body using Entry.bodyInduction with
  | nil => intro parts base seen _; rw [visitEntries_nil, visitEntries_nil]
  | item contribution rest ih =>
    intro parts base seen agree
    rw [visitEntries_item, visitEntries_item]
    exact Visit.andThen_congr rfl (ih parts base seen agree)
  | inlineModule name body rest inner ih =>
    intro parts base seen agree
    rw [visitEntries_inlineModule, visitEntries_inlineModule]
    have same : visitBody view f file (parts ++ [name]) (Path.join base name) body seen =
        visitBody view g file (parts ++ [name]) (Path.join base name) body seen :=
      Visit.andThen_congr (inner _ _ seen agree) rfl
    exact Visit.andThen_congr same (ih _ _ _ (agree.mono (grows.visitBody _ _ _ _ _)))
  | fileModule name rest ih =>
    intro parts base seen agree
    rw [visitEntries_fileModule, visitEntries_fileModule]
    cases moduleFile? view base name with
    | none => exact Visit.andThen_congr rfl (ih _ _ _ agree)
    | some path =>
      exact Visit.andThen_congr (agree _ _ _ (List.Subset.refl _))
        (ih _ _ _ (agree.mono (grows _ _ _)))

theorem AgreeFrom.visitBody {seen : List String} (agree : AgreeFrom seen f g) (grows : Grows f)
    (file : String) (parts : List String) (base : String) (body : List Entry) :
    visitBody view f file parts base body seen = visitBody view g file parts base body seen :=
  Visit.andThen_congr (AgreeFrom.visitEntries grows file body parts base seen agree) rfl

/-- A visit of a path asks for nested files only after its own file has been marked as seen. -/
theorem visitPath_congr {allowFaults : Bool} {path : String} {parts seen : List String}
    (grows : Grows f)
    (agree : ∀ file source, file ∉ seen → view.read file = .ok source →
      AgreeFrom (seen ++ [file]) f g) :
    visitPath view f allowFaults path parts seen =
      visitPath view g allowFaults path parts seen := by
  unfold visitPath
  cases view.canonical path with
  | error fault => rfl
  | ok file =>
    by_cases known : file ∈ seen
    · simp only [if_pos known]
    · simp only [if_neg known]
      cases read : view.read file with
      | error fault => rfl
      | ok source =>
        have same : ∀ body, visitBody view f file parts (moduleBase file) body (seen ++ [file]) =
            visitBody view g file parts (moduleBase file) body (seen ++ [file]) :=
          (agree file source known read).visitBody grows file parts (moduleBase file)
        cases openSource allowFaults file (.ok source) with
        | mk notes opened =>
          cases opened with
          | error error => rfl
          | ok opened => exact Visit.andThen_congr rfl (same opened.root.outline)

end Agreement

/-- The number of source files that have not been seen. -/
def FileView.unseen (view : FileView) (seen : List String) : Nat :=
  (view.files.toFinset \ seen.toFinset).card

namespace FileView

variable {view : FileView} {seen later : List String}

/-- There are no more files to see than files. -/
theorem unseen_le_length : view.unseen seen ≤ view.files.length :=
  (Finset.card_le_card Finset.sdiff_subset).trans view.files.toFinset_card_le

/-- Marking a file that can be read leaves fewer files to see. -/
theorem unseen_lt_of_read {file : String} {source : Source} (new : file ∉ seen)
    (read : view.read file = .ok source) (more : seen ++ [file] ⊆ later) :
    view.unseen later < view.unseen seen := by
  have known := view.read_mem file source read
  refine Finset.card_lt_card ⟨?_, ?_⟩
  · refine Finset.sdiff_subset_sdiff (Finset.Subset.refl _) ?_
    intro other member
    exact List.mem_toFinset.mpr (more (List.mem_append_left _ (List.mem_toFinset.mp member)))
  · intro equal
    have member := equal (Finset.mem_sdiff.mpr
      ⟨List.mem_toFinset.mpr known, fun h => new (List.mem_toFinset.mp h)⟩)
    exact (Finset.mem_sdiff.mp member).2
      (List.mem_toFinset.mpr (more (List.mem_append_right _ (List.mem_singleton_self _))))

end FileView

/-- Every depth above the number of unseen files gives the same walk. -/
theorem walkWithin_eq_of_unseen_lt {view : FileView} {allowFaults : Bool} {depth : Nat} :
    ∀ {other : Nat} {path : String} {parts seen : List String}, view.unseen seen < depth →
      view.unseen seen < other →
      walkWithin view allowFaults depth path parts seen =
        walkWithin view allowFaults other path parts seen := by
  induction depth with
  | zero => intro other path parts seen bound; omega
  | succ depth ih =>
    intro other path parts seen bound otherBound
    cases other with
    | zero => omega
    | succ other =>
      refine visitPath_congr (walkWithin_grows view allowFaults depth) ?_
      intro file source new read path' parts' later more
      have fewer := FileView.unseen_lt_of_read new read more
      exact ih (by omega) (by omega)

/-- The walk in terms of itself: the bound on its depth is never met. -/
theorem walk_eq (view : FileView) (allowFaults : Bool) (path : String) (parts seen : List String) :
    walk view allowFaults path parts seen =
      visitPath view (walk view allowFaults) allowFaults path parts seen := by
  refine visitPath_congr (walkWithin_grows view allowFaults _) ?_
  intro file source new read path' parts' later more
  have fewer := FileView.unseen_lt_of_read new read more
  have all : view.unseen seen ≤ view.files.length := FileView.unseen_le_length
  exact walkWithin_eq_of_unseen_lt (by omega) (by omega)

/-- What holds of a visit whenever it holds of the visits nested in it, which come after one more
file has been marked, holds of every visit. -/
theorem walk_induction (view : FileView)
    {P : String → List String → List String → Prop}
    (step : ∀ path parts seen,
      (∀ file source, file ∉ seen → view.read file = .ok source →
        ∀ path' parts' later, seen ++ [file] ⊆ later → P path' parts' later) →
      P path parts seen) (path : String) (parts seen : List String) : P path parts seen := by
  induction bound : view.unseen seen using Nat.strong_induction_on generalizing path parts seen with
  | _ n ih =>
    subst bound
    refine step path parts seen ?_
    intro file source new read path' parts' later more
    exact ih _ (FileView.unseen_lt_of_read new read more) path' parts' later rfl

end CrateSurface
