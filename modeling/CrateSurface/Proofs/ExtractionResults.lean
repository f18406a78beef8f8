import CrateSurface.Extraction

namespace CrateSurface

namespace Log.Task

variable {ε α β : Type}

/-- A task ends with one result in every session, whatever it logs there. -/
def Yields (task : Task ε α) (result : Except ε α) : Prop :=
  ∀ session, (task.run.run session).1 = result

theorem Yields.eq {task : Task ε α} {result other : Except ε α} {session after : Session}
    (yields : task.Yields result) (run : task.run.run session = (other, after)) :
    other = result := by
  rw [← yields session, run]

theorem yields_pure (a : α) : (pure a : Task ε α).Yields (.ok a) :=
  fun _ => rfl

theorem yields_throw (e : ε) : (throw e : Task ε α).Yields (.error e) :=
  fun _ => rfl

theorem yields_note (note : Note) : (Task.note note : Task ε Unit).Yields (.ok ()) :=
  fun _ => rfl

theorem yields_notes (notes : List Note) : (Task.notes notes : Task ε Unit).Yields (.ok ()) :=
  fun _ => rfl

theorem Yields.inPhase {task : Task ε α} {result : Except ε α} (yields : task.Yields result)
    (phase : String) : (Task.inPhase phase task).Yields result :=
  fun session => yields (session.enter phase)

/-- A task goes on from the session that the first part has left, unless that one failed. -/
theorem run_bind (task : Task ε α) (next : α → Task ε β) (session : Session) :
    (task >>= next).run.run session =
      match task.run.run session with
      | (.ok a, after) => (next a).run.run after
      | (.error e, after) => (.error e, after) := by
  rw [ExceptT.run_bind, StateT.run_bind]
  rcases task.run.run session with ⟨_ | _, after⟩ <;> rfl

theorem exists_ok_of_isOk {task : Task ε α} {session : Session}
    (succeeds : (task.run.run session).1.isOk = true) :
    ∃ a after, task.run.run session = (.ok a, after) := by
  rcases run : task.run.run session with ⟨_ | a, after⟩
  · rw [run] at succeeds
    cases succeeds
  · exact ⟨a, after, rfl⟩

/-- A task goes on after a part that has a result. -/
theorem Yields.andThen {task : Task ε α} {next : α → Task ε β} {a : α} {result : Except ε β}
    (yields : task.Yields (.ok a)) (rest : (next a).Yields result) :
    (task >>= next).Yields result := by
  intro session
  rw [run_bind]
  have first := yields session
  generalize task.run.run session = ended at first
  obtain ⟨_ | _, after⟩ := ended
  · cases first
  · cases first
    exact rest after

/-- A task ends with the error of its first part that fails. -/
theorem Yields.stops {task : Task ε α} {e : ε} (yields : task.Yields (.error e))
    (next : α → Task ε β) : (task >>= next).Yields (.error e) := by
  intro session
  rw [run_bind]
  have first := yields session
  generalize task.run.run session = ended at first
  obtain ⟨_ | _, after⟩ := ended
  · cases first
    rfl
  · cases first

end Log.Task

namespace Extraction

open Log (Task)

/-- The records of the crate of a manifest, in the order of the walk. -/
def recordsResult (view : FileView) (manifest : String) (allowFaults : Bool) :
    Except ExtractionError (List (Module String)) :=
  match libraryRoot view manifest with
  | .error error => .error (.walk error)
  | .ok root =>
    let visit := walk view allowFaults root [] []
    match visit.failure with
    | some error => .error (.walk error)
    | none => .ok visit.records

variable (view : FileView) (manifest : String) (allowFaults : Bool)

/-- The walk of a crate yields what it found, or the error that ended it. -/
theorem walkCrate_yields (root : String) :
    (walkCrate view allowFaults root).Yields
      (match (walk view allowFaults root [] []).failure with
        | some error => .error (.walk error)
        | none => .ok (walk view allowFaults root [] [])) := by
  refine Task.Yields.inPhase ((Task.yields_notes _).andThen ?_) "extract"
  cases (walk view allowFaults root [] []).failure with
  | some error => exact Task.yields_throw _
  | none => exact Task.yields_pure _

theorem records_yields :
    (records view manifest allowFaults).Yields (recordsResult view manifest allowFaults) := by
  unfold records recordsResult
  cases found : libraryRoot view manifest with
  | error error =>
    refine Task.Yields.stops ?_ _
    unfold resolveRoot
    rw [found]
    exact (Task.yields_throw _).inPhase "resolve"
  | ok root =>
    have resolved : (resolveRoot view manifest).Yields (.ok root) := by
      unfold resolveRoot
      rw [found]
      exact ((Task.yields_note _).andThen (Task.yields_pure root)).inPhase "resolve"
    refine resolved.andThen ?_
    have walked := walkCrate_yields view allowFaults root
    cases failed : (walk view allowFaults root [] []).failure with
    | some error =>
      rw [failed] at walked
      simp only [failed]
      exact walked.stops _
    | none =>
      rw [failed] at walked
      simp only [failed]
      exact walked.andThen ((Task.yields_note _).andThen (Task.yields_pure _))

/-- The document of a crate and its counts are those of the records of the walk. -/
theorem crate_yields :
    (crate view manifest allowFaults).Yields
      ((recordsResult view manifest allowFaults).map fun records =>
        (Document.ofRecords records, Stats.ofModules (sortRecords records))) := by
  have walked := records_yields view manifest allowFaults
  unfold crate
  cases found : recordsResult view manifest allowFaults with
  | error error =>
    rw [found] at walked
    exact walked.stops _
  | ok records =>
    rw [found] at walked
    refine walked.andThen ?_
    have assembled : (assemble records).Yields
        (.ok (Document.ofRecords records, Stats.ofModules (sortRecords records))) := by
      refine Task.Yields.inPhase ?_ "assemble"
      exact (Task.yields_note _).andThen (Task.yields_pure _)
    exact assembled.andThen ((Task.yields_note _).andThen (Task.yields_pure _))

end Extraction

end CrateSurface
