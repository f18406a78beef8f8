import CrateSurface.Log.Console
import CrateSurface.Proofs.ExtractionResults
import CrateSurface.Proofs.ModuleTree

namespace CrateSurface

namespace Log

/-- The later session is the earlier one with messages added: it has the same run id, the same phase
and the same open scopes. -/
structure Session.Extends (before after : Session) : Prop where
  runId : after.runId = before.runId
  phase : after.phase = before.phase
  replaced : after.replaced = before.replaced
  records : before.records <+: after.records

namespace Session.Extends

variable {before middle after : Session}

theorem refl (session : Session) : session.Extends session :=
  ⟨rfl, rfl, rfl, List.prefix_refl _⟩

/-- A session that extends an extension extends the session. -/
theorem trans (first : before.Extends middle) (second : middle.Extends after) :
    before.Extends after :=
  ⟨second.runId.trans first.runId, second.phase.trans first.phase,
    second.replaced.trans first.replaced, first.records.trans second.records⟩

/-- What a scope put aside is still there at its end, so that the end restores it. -/
theorem leave {phase : String} (inside : (before.enter phase).Extends after) :
    before.Extends after.leave := by
  have aside : after.replaced = before.phase :: before.replaced := inside.replaced
  rw [Session.leave, aside]
  exact ⟨inside.runId, rfl, rfl, inside.records⟩

theorem add (session : Session) (note : Note) : session.Extends (session.add note) :=
  ⟨rfl, rfl, rfl, List.prefix_append _ _⟩

theorem addAll (session : Session) (notes : List Note) :
    session.Extends (notes.foldl (fun s note => s.add note) session) := by
  induction notes generalizing session with
  | nil => exact refl session
  | cons note rest ih => exact (add session note).trans (ih (session.add note))

end Session.Extends

namespace Task

variable {ε α β : Type}

/-- A task does nothing to a session but add messages, whether it has a result or fails. -/
def OnlyLogs (task : Task ε α) : Prop :=
  ∀ session : Session, session.Extends (task.run.run session).2

theorem onlyLogs_pure (a : α) : (pure a : Task ε α).OnlyLogs :=
  Session.Extends.refl

theorem onlyLogs_throw (e : ε) : (throw e : Task ε α).OnlyLogs :=
  Session.Extends.refl

theorem onlyLogs_note (note : Note) : (Task.note note : Task ε Unit).OnlyLogs :=
  fun session => .add session note

theorem onlyLogs_notes (notes : List Note) : (Task.notes notes : Task ε Unit).OnlyLogs :=
  fun session => .addAll session notes

/-- Tasks that only log do so one after the other. -/
theorem OnlyLogs.andThen {task : Task ε α} {next : α → Task ε β} (first : task.OnlyLogs)
    (rest : ∀ a, (next a).OnlyLogs) : (task >>= next).OnlyLogs := by
  intro session
  rw [run_bind]
  have begun := first session
  generalize task.run.run session = ended at begun ⊢
  obtain ⟨_ | a, after⟩ := ended
  · exact begun
  · exact begun.trans (rest a after)

/-- A phase is over at the end of its task, also where that is a failure. -/
theorem OnlyLogs.inPhase {task : Task ε α} (logs : task.OnlyLogs) (phase : String) :
    (Task.inPhase phase task).OnlyLogs :=
  fun session => (logs (session.enter phase)).leave

end Task

/-- What can be done to the context of messages between them. -/
inductive Step where
  /-- The run gets the given id, or a fresh one if none is given. -/
  | name (given : Option String) (fresh : String)
  | enter (phase : String)
  | exit
  /-- A scope is opened and the task in it fails. -/
  | fail (phase : String)

namespace Step

/-- Fails with the phase that is current. -/
def failure : Task String Unit := do
  throw (← get).phase

/-- The session after a step. -/
def perform (session : Session) : Step → Session
  | .name given fresh => session.setRunId (runIdOr fresh given)
  | .enter phase => session.enter phase
  | .exit => session.leave
  | .fail phase => ((Task.inPhase phase failure).run.run session).2

/-- The scopes that are open after a step, the innermost first; none can be left where none is
open. -/
def scopes? (scopes : List String) : Step → Option (List String)
  | .enter phase => some (phase :: scopes)
  | .exit =>
    match scopes with
    | [] => none
    | _ :: outer => some outer
  | .name .. | .fail _ => some scopes

/-- The run id that a step sets. -/
def runId? : Step → Option String
  | .name given fresh => some (runIdOr fresh given)
  | _ => none

end Step

/-- The session after some steps. -/
def performAll (steps : List Step) : Session :=
  steps.foldl Step.perform Session.start

/-- The scopes that are open after some steps, the innermost first, if no step leaves one where none
is open. -/
def openScopes? (steps : List Step) : Option (List String) :=
  steps.foldlM Step.scopes? []

/-- The current phase and the replaced ones are the phases of the open scopes, in their order, and
the phase outside all of them. -/
def Session.InScopes (session : Session) (scopes : List String) : Prop :=
  session.phase :: session.replaced = scopes ++ ["-"]

variable {session : Session} {scopes later : List String}

/-- The phase of a session is that of its innermost scope. -/
theorem Session.InScopes.phase_eq (inside : session.InScopes scopes) :
    session.phase = scopes.headD "-" := by
  cases scopes with
  | nil => exact List.head_eq_of_cons_eq inside
  | cons phase outer => exact List.head_eq_of_cons_eq inside

/-- A failure sees the phase of its own scope and leaves no trace of it. -/
theorem Step.inPhase_failure (phase : String) (session : Session) :
    (Task.inPhase phase failure).run.run session = (.error phase, session) :=
  rfl

/-- A step keeps a session in the scopes that it opens and closes. -/
theorem Step.perform_inScopes (step : Step) (inside : session.InScopes scopes)
    (opened : step.scopes? scopes = some later) : (step.perform session).InScopes later := by
  cases step with
  | name given fresh =>
    cases opened
    exact inside
  | enter phase =>
    cases opened
    exact congrArg (phase :: ·) inside
  | exit =>
    cases scopes with
    | nil => cases opened
    | cons phase outer =>
      cases opened
      -- The scope that is left is not the outermost phase, so that something was put aside.
      have aside : session.replaced = later ++ ["-"] := List.tail_eq_of_cons_eq inside
      obtain ⟨before, rest, split⟩ := List.exists_cons_of_ne_nil
        (aside ▸ List.append_ne_nil_of_right_ne_nil later (List.cons_ne_nil _ _))
      rw [Step.perform, Session.leave, split]
      exact split.symm.trans aside
  | fail phase =>
    cases opened
    rw [Step.perform, inPhase_failure]
    exact inside

/-- Steps that are nested keep a session in its scopes. -/
theorem inScopes_of_steps (steps : List Step) (inside : session.InScopes scopes)
    (opened : steps.foldlM Step.scopes? scopes = some later) :
    (steps.foldl Step.perform session).InScopes later := by
  induction steps generalizing session scopes with
  | nil =>
    cases opened
    exact inside
  | cons step rest ih =>
    rw [List.foldlM_cons] at opened
    obtain ⟨middle, first, others⟩ := Option.bind_eq_some_iff.mp opened
    exact ih (step.perform_inScopes inside first) others

theorem Step.runId_perform (step : Step) (session : Session) :
    (step.perform session).runId = step.runId?.getD session.runId := by
  cases step with
  | name given fresh => rfl
  | enter phase => rfl
  | exit =>
    rw [Step.perform, Session.leave]
    split <;> rfl
  | fail phase => rfl

/-- The run id is the last one set, whatever scopes are entered and left. -/
theorem runId_of_steps (steps : List Step) (session : Session) :
    (steps.foldl Step.perform session).runId =
      (steps.filterMap Step.runId?).getLastD session.runId := by
  induction steps generalizing session with
  | nil => rfl
  | cons step rest ih =>
    rw [List.foldl_cons, ih, step.runId_perform, List.filterMap_cons]
    cases step.runId? with
    | none => rfl
    | some runId => rw [List.getLastD_cons, Option.getD_some]

end Log

namespace Extraction

open Log (Task)

variable (view : FileView) (manifest : String) (allowFaults : Bool)

theorem resolveRoot_onlyLogs : (resolveRoot view manifest).OnlyLogs := by
  refine Task.OnlyLogs.inPhase ?_ "resolve"
  cases libraryRoot view manifest with
  | error error => exact Task.onlyLogs_throw _
  | ok root => exact (Task.onlyLogs_note _).andThen fun _ => Task.onlyLogs_pure root

/-- Wherever in the crate the walk stops, the phase does not outlast it. -/
theorem walkCrate_onlyLogs (root : String) : (walkCrate view allowFaults root).OnlyLogs := by
  refine Task.OnlyLogs.inPhase ((Task.onlyLogs_notes _).andThen fun _ => ?_) "extract"
  cases (walk view allowFaults root [] []).failure with
  | some error => exact Task.onlyLogs_throw _
  | none => exact Task.onlyLogs_pure _

theorem records_onlyLogs : (records view manifest allowFaults).OnlyLogs :=
  (resolveRoot_onlyLogs view manifest).andThen fun root =>
    (walkCrate_onlyLogs view allowFaults root).andThen fun _ =>
      (Task.onlyLogs_note _).andThen fun _ => Task.onlyLogs_pure _

theorem assemble_onlyLogs (records : List (Module String)) : (assemble records).OnlyLogs :=
  Task.OnlyLogs.inPhase ((Task.onlyLogs_note _).andThen fun _ => Task.onlyLogs_pure _) "assemble"

theorem crate_onlyLogs : (crate view manifest allowFaults).OnlyLogs :=
  (records_onlyLogs view manifest allowFaults).andThen fun records =>
    (assemble_onlyLogs records).andThen fun _ =>
      (Task.onlyLogs_note _).andThen fun _ => Task.onlyLogs_pure _

theorem emit_onlyLogs (document : Document) : (emit document).OnlyLogs := by
  refine Task.OnlyLogs.inPhase ?_ "emit"
  cases document.serialize? with
  | some text => exact Task.onlyLogs_pure text
  | none => exact Task.onlyLogs_throw _

theorem crateText_onlyLogs : (crateText view manifest allowFaults).OnlyLogs :=
  (crate_onlyLogs view manifest allowFaults).andThen fun result => emit_onlyLogs result.1

end Extraction

section

open Log

/-- Phases nest. After each of the steps of a program that leaves no scope where none is open, the
phase is that of the innermost open scope, or `-` where none is open, and the run id is the last one
set. The extraction of a crate, up to its records, its document or its text, leaves every session
with the run id, the phase and the scopes that it had, also where it fails. -/
theorem phase_follows_scopes :
    (∀ steps, (openScopes? steps).isSome = true → ∀ done, done <+: steps →
      ∃ scopes, openScopes? done = some scopes ∧
        (performAll done).phase = scopes.headD "-" ∧
        (performAll done).runId = (done.filterMap Step.runId?).getLastD "-") ∧
    ∀ (view : FileView) (manifest : String) (allowFaults : Bool),
      (Extraction.records view manifest allowFaults).OnlyLogs ∧
      (Extraction.crate view manifest allowFaults).OnlyLogs ∧
      (Extraction.crateText view manifest allowFaults).OnlyLogs := by
  refine ⟨?_, ?_⟩
  · intro steps allowed done early
    obtain ⟨rest, rfl⟩ := early
    obtain ⟨last, opened⟩ := Option.isSome_iff_exists.mp allowed
    rw [openScopes?, List.foldlM_append] at opened
    obtain ⟨scopes, sofar, -⟩ := Option.bind_eq_some_iff.mp opened
    have outside : Session.start.InScopes [] := rfl
    have inside : (performAll done).InScopes scopes := inScopes_of_steps done outside sofar
    exact ⟨scopes, sofar, inside.phase_eq, runId_of_steps done Session.start⟩
  · intro view manifest allowFaults
    exact ⟨Extraction.records_onlyLogs view manifest allowFaults,
      Extraction.crate_onlyLogs view manifest allowFaults,
      Extraction.crateText_onlyLogs view manifest allowFaults⟩

namespace DanglingCrate

/-- Two scopes around a failure in a third one. The inner one is left before the run gets its second
id. -/
def steps : List Step :=
  [.name (some "r1") "", .enter "resolve", .enter "extract", .fail "emit", .exit, .name none "r2"]

/-- A crate whose root declares a module that has no file. -/
def view : FileView where
  workdir := "/c"
  files := ["/c/src/lib.rs"]
  pathExists _ := false
  isFile path := path == "/c/src/lib.rs"
  canonical := .ok
  read
    | "/c/src/lib.rs" => .ok ⟨0, .branch "source_file" none [.declaring "a"]⟩
    | path => .error (.path (.system .notFound path))
  read_mem path source h := by
    split at h <;> simp_all

end DanglingCrate

open DanglingCrate

/-- A failure leaves the scope around it current, and the walk of a crate that fails leaves the
session that the steps made as it was. -/
theorem nested_scopes_followed :
    ((performAll (steps.take 4)).phase = "extract" ∧ (performAll (steps.take 4)).runId = "r1") ∧
    ((performAll steps).phase = "resolve" ∧ (performAll steps).runId = "r2") ∧
    ((Extraction.crateText view "/c/Cargo.toml" false).run.run (performAll steps)).1 =
      .error (.walk (.unresolved "a" "/c/src")) ∧
    (performAll steps).Extends
      ((Extraction.crateText view "/c/Cargo.toml" false).run.run (performAll steps)).2 := by
  obtain ⟨nested, extracted⟩ := phase_follows_scopes
  have allowed : (openScopes? steps).isSome = true := rfl
  refine ⟨?_, ?_, by rfl, (extracted view "/c/Cargo.toml" false).2.2 _⟩
  · obtain ⟨scopes, opened, phase, runId⟩ := nested steps allowed _ (List.take_prefix 4 steps)
    cases opened
    exact ⟨phase, runId⟩
  · obtain ⟨scopes, opened, phase, runId⟩ := nested steps allowed _ (List.prefix_refl steps)
    cases opened
    exact ⟨phase, runId⟩

end

end CrateSurface
