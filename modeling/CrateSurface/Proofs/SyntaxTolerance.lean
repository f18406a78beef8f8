import CrateSurface.Proofs.PrivateContent

namespace CrateSurface

/-- A file without syntax errors: it cannot be read, or its tree follows the grammar. -/
def FileView.IsSound (view : FileView) (file : String) : Prop :=
  ∀ source, view.read file = .ok source → source.root.hasFault = false

/-- A visit that met no syntax error from the files of `seen` on: the files that it adds are sound,
and nothing that it logs is a warning. -/
structure Visit.MeetsNoFault (view : FileView) (seen : List String) (visit : Visit) : Prop where
  sound : visit.AddsOnly view.IsSound seen
  quiet : ∀ note ∈ visit.notes, note.level < Log.warning

/-- How a run that refuses syntax errors goes with one that allows them: the two are the same, or
the first one has stopped at a file with syntax errors that the second one has gone through. -/
inductive RunsTogether (view : FileView) (seen : List String) : Visit → Visit → Prop
  | together {visit : Visit} : visit.MeetsNoFault view seen → RunsTogether view seen visit visit
  | apart {strict tolerant : Visit} {file : String} {faults : Nat} :
      strict.failure = some (.unparsable file faults) → file ∈ tolerant.seen → file ∉ seen →
      ¬ view.IsSound file → RunsTogether view seen strict tolerant

section Steps

variable {view : FileView} {seen : List String}

/-- A quiet visit that opens nothing meets no fault. -/
theorem Visit.MeetsNoFault.of_seen {visit : Visit} (same : visit.seen = seen)
    (quiet : ∀ note ∈ visit.notes, note.level < Log.warning) : visit.MeetsNoFault view seen :=
  ⟨fun _ member new => absurd (same ▸ member) new, quiet⟩

theorem Visit.MeetsNoFault.andThen {first : Visit} {next : List String → Visit}
    (clean : first.MeetsNoFault view seen) (success : first.failure = none)
    (rest : (next first.seen).MeetsNoFault view first.seen) :
    (first.andThen next).MeetsNoFault view seen := by
  rw [andThen_of_success success]
  refine ⟨?_, ?_⟩
  · intro file member new
    by_cases early : file ∈ first.seen
    · exact clean.sound file early new
    · exact rest.sound file member early
  · intro note member
    rcases List.mem_append.mp member with early | late
    · exact clean.quiet note early
    · exact rest.quiet note late

/-- Runs that go together do so on: in step until one of them stops, and apart for good. -/
theorem RunsTogether.andThen {strict tolerant : Visit} {next after : List String → Visit}
    (runs : RunsTogether view seen strict tolerant) (grows : seen ⊆ tolerant.seen)
    (growsOn : tolerant.seen ⊆ (after tolerant.seen).seen)
    (rest : RunsTogether view tolerant.seen (next tolerant.seen) (after tolerant.seen)) :
    RunsTogether view seen (strict.andThen next) (tolerant.andThen after) := by
  cases runs with
  | apart failed visited new faulty =>
    rw [Visit.andThen_of_failure failed]
    exact .apart failed (Visit.seen_subset_andThen growsOn visited) new faulty
  | together clean =>
    cases failed : strict.failure with
    | some error =>
      rw [Visit.andThen_of_failure failed, Visit.andThen_of_failure failed]
      exact .together clean
    | none =>
      generalize left : next strict.seen = strictRest at rest
      generalize right : after strict.seen = tolerantRest at rest growsOn
      cases rest with
      | together cleanOn =>
        have same : strict.andThen next = strict.andThen after :=
          Visit.andThen_congr rfl (left.trans right.symm)
        rw [same]
        exact .together (clean.andThen failed (right ▸ cleanOn))
      | apart failedOn visited newOn faulty =>
        have failedToo : (strict.andThen next).failure = (next strict.seen).failure := by
          rw [Visit.andThen_of_success failed]
        have visitedToo : (strict.andThen after).seen = (after strict.seen).seen := by
          rw [Visit.andThen_of_success failed]
        rw [← left, ← failedToo] at failedOn
        rw [← right, ← visitedToo] at visited
        exact .apart failedOn visited (fun old => newOn (grows old)) faulty

theorem Log.debug_lt_warning : Log.debug < Log.warning := by
  decide

theorem Log.info_lt_warning : Log.info < Log.warning := by
  decide

theorem Remark.note_quiet (file : String) (remark : Remark) :
    (remark.note file).level < Log.warning := by
  cases remark <;> exact Log.debug_lt_warning

/-- Closing a module meets no fault. -/
theorem closeModule_meetsNoFault (record : Module String) (seen : List String) :
    (closeModule record seen).MeetsNoFault view seen := by
  refine .of_seen rfl ?_
  intro note member
  rw [List.mem_singleton.mp member]
  exact Log.debug_lt_warning

end Steps

section Runs

variable {view : FileView} {f g : String → List String → List String → Visit}

/-- Two ways to visit files that go together once the files of `seen` have been seen. -/
def VisitsTogether (view : FileView) (seen : List String)
    (f g : String → List String → List String → Visit) : Prop :=
  ∀ path parts later, seen ⊆ later →
    RunsTogether view later (f path parts later) (g path parts later)

theorem VisitsTogether.mono {seen later : List String} (nested : VisitsTogether view seen f g)
    (more : seen ⊆ later) : VisitsTogether view later f g :=
  fun path parts last after => nested path parts last (List.Subset.trans more after)

theorem RunsTogether.visitBody {file base : String} {parts seen : List String} {body : List Entry}
    (grows : Grows g)
    (entries : RunsTogether view seen (visitEntries view f file parts base body seen)
      (visitEntries view g file parts base body seen)) :
    RunsTogether view seen (visitBody view f file parts base body seen)
      (visitBody view g file parts base body seen) :=
  entries.andThen (grows.visitEntries file body parts base seen) (List.Subset.refl _)
    (.together (closeModule_meetsNoFault _ _))

/-- The entries of a body run together, if the visits of their files do. -/
theorem VisitsTogether.visitEntries (grows : Grows g) (file : String) (body : List Entry) :
    ∀ parts base seen, VisitsTogether view seen f g →
      RunsTogether view seen (visitEntries view f file parts base body seen)
        (visitEntries view g file parts base body seen) := by
  induction body using Entry.bodyInduction with
  | nil =>
    intro parts base seen _
    rw [visitEntries_nil, visitEntries_nil]
    exact .together (.of_seen rfl (by intro note member; cases member))
  | item contribution rest ih =>
    intro parts base seen nested
    rw [visitEntries_item, visitEntries_item]
    have remarked : (Visit.remarking (contribution.remarks.map (Remark.note file)) seen).MeetsNoFault
        view seen := by
      refine .of_seen rfl ?_
      intro note member
      obtain ⟨remark, _, rfl⟩ := List.mem_map.mp member
      exact remark.note_quiet file
    exact (RunsTogether.together remarked).andThen (List.Subset.refl _)
      (grows.visitEntries file rest parts base seen) (ih parts base seen nested)
  | inlineModule name body rest inner ih =>
    intro parts base seen nested
    rw [visitEntries_inlineModule, visitEntries_inlineModule]
    have started : seen ⊆ (visitBody view g file (parts ++ [name]) (Path.join base name) body seen).seen :=
      grows.visitBody _ _ _ _ _
    exact (RunsTogether.visitBody grows (inner _ _ seen nested)).andThen started
      (grows.visitEntries file rest parts base _) (ih parts base _ (nested.mono started))
  | fileModule name rest ih =>
    intro parts base seen nested
    rw [visitEntries_fileModule, visitEntries_fileModule]
    cases moduleFile? view base name with
    | none =>
      have stopped : (Visit.failing (.unresolved name base) [] seen).MeetsNoFault view seen :=
        .of_seen rfl (by intro note member; cases member)
      exact (RunsTogether.together stopped).andThen (List.Subset.refl _)
        (grows.visitEntries file rest parts base seen) (ih parts base seen nested)
    | some path =>
      have started := grows path (parts ++ [name]) seen
      exact (nested path (parts ++ [name]) seen (List.Subset.refl _)).andThen started
        (grows.visitEntries file rest parts base _) (ih parts base _ (nested.mono started))

/-- A sound file is opened or refused whether syntax errors are allowed or not, and no warning is
given. -/
theorem FileView.IsSound.openSource {file : String} (sound : view.IsSound file) (allowFaults : Bool) :
    openSource allowFaults file (view.read file) = openSource true file (view.read file) ∧
      ∀ note ∈ (openSource true file (view.read file)).1, note.level < Log.warning := by
  cases read : view.read file with
  | error fault =>
    refine ⟨rfl, ?_⟩
    intro note member
    cases member
  | ok source =>
    simp only [CrateSurface.openSource, acceptSource, sound source read, Bool.false_eq_true, if_false,
      parseNotes, true_and]
    intro note member
    simp only [List.cons_append, List.nil_append, List.mem_cons, List.not_mem_nil, or_false] at member
    rcases member with rfl | rfl | rfl <;> exact Log.debug_lt_warning

theorem FileView.exists_fault {file : String} (faulty : ¬ view.IsSound file) :
    ∃ source, view.read file = .ok source ∧ source.root.hasFault = true := by
  simpa [IsSound] using faulty

/-- The visits of a path run together, if those of the files after it do. -/
theorem RunsTogether.visitPath {path : String} {parts seen : List String} (grows : Grows g)
    (nested : ∀ file source, file ∉ seen → view.read file = .ok source →
      VisitsTogether view (seen ++ [file]) f g) :
    RunsTogether view seen (visitPath view f false path parts seen)
      (visitPath view g true path parts seen) := by
  cases canonical : view.canonical path with
  | error fault =>
    simp only [CrateSurface.visitPath, canonical]
    exact .together (.of_seen rfl (by intro note member; cases member))
  | ok file =>
    by_cases old : file ∈ seen
    · simp only [CrateSurface.visitPath, canonical, if_pos old]
      refine .together (.of_seen rfl ?_)
      intro note member
      rw [List.mem_singleton.mp member]
      exact Log.debug_lt_warning
    · by_cases sound : view.IsSound file
      · obtain ⟨same, quiet⟩ := sound.openSource false
        have marked : ∀ visit : Visit, visit.seen = seen ++ [file] →
            visit.AddsOnly view.IsSound seen := by
          intro visit marks added member new
          rw [marks] at member
          rcases List.mem_append.mp member with known | last
          · exact absurd known new
          · rwa [List.mem_singleton.mp last]
        simp only [CrateSurface.visitPath, canonical, if_neg old, same]
        cases opening : openSource true file (view.read file) with
        | mk notes result =>
          rw [opening] at quiet
          have quietToo : ∀ begun : Log.Note, begun.level = Log.info →
              ∀ note ∈ begun :: notes, note.level < Log.warning := by
            intro begun level note member
            rcases List.mem_cons.mp member with rfl | later
            · rw [level]
              exact Log.info_lt_warning
            · exact quiet note later
          cases result with
          | error error => exact .together ⟨marked _ rfl, quietToo _ rfl⟩
          | ok source =>
            have read : view.read file = .ok source := (openSource_eq_ok (by rw [opening])).1
            have inner := VisitsTogether.visitEntries grows file source.root.outline parts
              (moduleBase file) _ (nested file source old read)
            refine RunsTogether.andThen (.together ?_) ?_ (grows.visitBody _ _ _ _ _)
              (.visitBody grows inner)
            · exact ⟨marked _ rfl, quietToo _ rfl⟩
            · exact List.subset_append_left _ _
      · -- Both runs mark the file, but only the one that allows syntax errors goes through it.
        obtain ⟨source, read, faulty⟩ := view.exists_fault sound
        have refused : (openSource false file (view.read file)).2 =
            .error (.unparsable file source.root.faults) := by
          simp [openSource, acceptSource, read, faulty]
        exact .apart (visitPath_refused canonical old refused).failure
          (visitPath_marks grows canonical old) old sound

/-- A strict and a tolerant walk run together, up to the first fault. -/
theorem walk_runsTogether (view : FileView) (path : String) (parts seen : List String) :
    RunsTogether view seen (walk view false path parts seen) (walk view true path parts seen) := by
  induction path, parts, seen using walk_induction view with
  | step path parts seen nested =>
    rw [walk_eq, walk_eq view true]
    exact .visitPath (walk_grows view true) nested

end Runs

/-- To allow syntax errors only turns failures into successes. A walk that succeeds without goes the
same way with them allowed, and gives no warning; and a walk with them allowed that visits no file
with syntax errors has the outcome, error included, that it has without. -/
theorem walk_tolerant (view : FileView) (path : String) (parts seen : List String) :
    let strict := walk view false path parts seen
    let tolerant := walk view true path parts seen
    (strict.failure = none →
      tolerant.failure = none ∧ tolerant.records = strict.records ∧ tolerant.seen = strict.seen ∧
        ∀ note ∈ tolerant.notes, note.level < Log.warning) ∧
    ((∀ file ∈ tolerant.seen, file ∉ seen → ∀ source, view.read file = .ok source →
        source.root.hasFault = false) →
      strict.records = tolerant.records ∧ strict.seen = tolerant.seen ∧
        strict.failure = tolerant.failure) := by
  intro strict tolerant
  have runs : RunsTogether view seen strict tolerant := walk_runsTogether view path parts seen
  generalize strict = strict at runs
  generalize tolerant = tolerant at runs
  refine ⟨?_, ?_⟩
  · intro success
    cases runs with
    | together clean => exact ⟨success, rfl, rfl, clean.quiet⟩
    | apart failed => rw [success] at failed; cases failed
  · intro sound
    cases runs with
    | together => exact ⟨rfl, rfl, rfl⟩
    | apart _ visited new faulty => exact absurd (sound _ visited new) faulty

namespace PatchyCrate

open Node (branch declaring)

/-- Two roots that share the module `a`. The first one has a broken private module beside it, the
second one declares a module that has no file. -/
def view : FileView where
  workdir := "/"
  files := ["/lib.rs", "/main.rs", "/a.rs", "/b.rs"]
  pathExists path := path == "/a.rs" || path == "/b.rs"
  isFile _ := true
  canonical path := .ok path
  read
    | "/lib.rs" => .ok ⟨0, branch "source_file" none [declaring "a",
        branch "mod_item" none [.nameLeaf "b"]]⟩
    | "/main.rs" => .ok ⟨0, branch "source_file" none [declaring "a", declaring "c"]⟩
    | "/a.rs" => .ok ⟨0, branch "source_file" none []⟩
    | "/b.rs" => .ok ⟨0, branch "source_file" none [{ branch "ERROR" none [] with error := true }]⟩
    | path => .error (.path (.system .notFound path))
  read_mem path source h := by
    split at h <;> simp_all

end PatchyCrate

/-- A crate with a fault in one of its files is walked from a sound root and from the one with the
fault. -/
theorem patchy_crate_tolerant :
    ((walk PatchyCrate.view false "/lib.rs" [] []).failure = none ∧
      (walk PatchyCrate.view true "/lib.rs" [] []).records.length = 2 ∧
      ∀ note ∈ (walk PatchyCrate.view true "/lib.rs" [] []).notes, note.level < Log.warning) ∧
    (walk PatchyCrate.view false "/main.rs" [] []).failure = some (.unresolved "c" "/") ∧
    (walk PatchyCrate.view false "/b.rs" [] []).failure = some (.unparsable "/b.rs" 1) ∧
    (walk PatchyCrate.view true "/b.rs" [] []).failure = none := by
  refine ⟨?_, ?_, by decide +kernel, by decide +kernel⟩
  · have success : (walk PatchyCrate.view false "/lib.rs" [] []).failure = none := by decide +kernel
    have count : (walk PatchyCrate.view false "/lib.rs" [] []).records.length = 2 := by decide +kernel
    obtain ⟨_, records, _, quiet⟩ := (walk_tolerant PatchyCrate.view "/lib.rs" [] []).1 success
    exact ⟨success, by rw [records, count], quiet⟩
  · have visited : (walk PatchyCrate.view true "/main.rs" [] []).seen = ["/main.rs", "/a.rs"] := by
      decide +kernel
    have failed : (walk PatchyCrate.view true "/main.rs" [] []).failure =
        some (.unresolved "c" "/") := by decide +kernel
    have same := (walk_tolerant PatchyCrate.view "/main.rs" [] []).2 ?_
    · exact same.2.2.trans failed
    · intro file member _ source read
      rw [visited, List.mem_pair] at member
      rcases member with rfl | rfl
      · cases read
        decide +kernel
      · cases read
        decide +kernel

end CrateSurface
