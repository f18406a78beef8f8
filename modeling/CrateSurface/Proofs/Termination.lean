import CrateSurface.Proofs.Calls

namespace CrateSurface

section Uniqueness

variable {view : FileView} {allowFaults : Bool}

/-- The outcome of a call hangs on nothing but the outcomes of the calls that it makes. -/
theorem step_eq_collect {call : Call} {run : Call → Outcome}
    (agree : ∀ inner, Calls view allowFaults call inner →
      run inner = collect view allowFaults inner) :
    call.step view allowFaults run = collect view allowFaults call := by
  rw [collect_eq_step]
  cases call with
  | file path parts progress =>
    rw [Call.step, Call.step]
    cases canonical : view.canonical path with
    | error fault => rfl
    | ok label =>
      by_cases known : label ∈ progress.seen
      · simp only [if_pos known]
      · simp only [if_neg known]
        cases opened : (openSource allowFaults label (view.read label)).2 with
        | error error => rfl
        | ok source => exact agree _ (.opened canonical known opened)
  | body label parts base root progress =>
    -- The calls of the items come one after the other, each from where the last one has led.
    have same : Call.items view run label parts base root.namedChildren progress =
        Call.items view (collect view allowFaults) label parts base root.namedChildren
          progress := by
      refine items_induction label parts base root progress (motive := fun rest reached outcome =>
        Call.items view run label parts base rest reached = outcome) (fun reached => rfl) ?_
      intro n rest reached outcome visit later
      have item : Call.item view run label parts base n reached = outcome := by
        cases visit with
        | passed noBody notDeclared => exact Call.item_of_passed noBody notDeclared
        | inline found nested => rw [Call.item_of_inlineBody? found, agree _ nested]
        | unresolved declared none => rw [Call.item_of_isFileModule declared, none]
        | declared declared found nested =>
          rw [Call.item_of_isFileModule declared, found]
          exact agree _ nested
      rw [Call.items, item]
      exact Outcome.andThen_congr later
    rw [Call.step, Call.step, same]

/-- The walk ends. Each call that it makes in the course of another one has fewer files left to
open, or as many and a smaller tree, so that no chain of nested calls is endless; these calls are
all that the outcome of a call hangs on; and the walk is the one way to answer all calls, with no
bound on how deep they go. -/
theorem walk_terminates (view : FileView) (allowFaults : Bool) :
    (∀ outer inner, Calls view allowFaults outer inner →
      Prod.Lex (· < ·) (· < ·) (inner.measure view) (outer.measure view)) ∧
    (WellFounded fun inner outer => Calls view allowFaults outer inner) ∧
    (∀ call run, (∀ inner, Calls view allowFaults call inner →
        run inner = collect view allowFaults inner) →
      call.step view allowFaults run = collect view allowFaults call) ∧
    ∀ run : Call → Outcome,
      (∀ call, run call = call.step view allowFaults run) ↔ run = collect view allowFaults := by
  refine ⟨fun outer inner => Calls.decreases, calls_wellFounded view allowFaults,
    fun call run => step_eq_collect, ?_⟩
  intro run
  constructor
  · intro solves
    funext call
    induction call using (calls_wellFounded view allowFaults).induction with
    | _ call ih => rw [solves, step_eq_collect ih]
  · rintro rfl
    exact collect_eq_step

end Uniqueness

namespace SelfDeclaringCrate

/-- A file that declares a module. -/
def root : Node :=
  .branch "source_file" none [.declaring "lib"]

/-- The one file is the file of the module that it declares. -/
def view : FileView where
  workdir := "/c"
  files := ["/c/lib.rs"]
  pathExists path := path == "/c/lib.rs"
  isFile _ := true
  canonical path := .ok path
  read
    | "/c/lib.rs" => .ok ⟨0, root⟩
    | path => .error (.path (.system .notFound path))
  read_mem path source h := by
    split at h <;> simp_all

end SelfDeclaringCrate

section

open SelfDeclaringCrate

/-- A file that declares itself is called again from its own body, with less left to do. -/
theorem self_declaring_crate_terminates :
    let progress : Progress := ⟨[], [], []⟩
    let first := Call.file "/c/lib.rs" [] progress
    let second := Call.body "/c/lib.rs" [] (moduleBase "/c/lib.rs") root
      (progress.opening "/c/lib.rs")
    let third := Call.file "/c/lib.rs" ["lib"] (progress.opening "/c/lib.rs")
    (Calls view false first second ∧ Calls view false second third) ∧
      (Prod.Lex (· < ·) (· < ·) (second.measure view) (first.measure view) ∧
        Prod.Lex (· < ·) (· < ·) (third.measure view) (second.measure view)) ∧
      (collect view false first).failure = none ∧
      (collect view false first).progress.seen = ["/c/lib.rs"] := by
  intro progress first second third
  have source : (openSource false "/c/lib.rs" (view.read "/c/lib.rs")).2 = .ok ⟨0, root⟩ := rfl
  have resolved : moduleFile? view (moduleBase "/c/lib.rs") (Node.declaring "lib").nameText =
      some "/c/lib.rs" := by
    decide +kernel
  have opened : Calls view false first second := .opened rfl List.not_mem_nil source
  have split : root.namedChildren = [] ++ Node.declaring "lib" :: [] := rfl
  have declared : Calls view false second
      (.file "/c/lib.rs" ([] ++ [(Node.declaring "lib").nameText])
        (progress.opening "/c/lib.rs")) :=
    .declared split rfl (Node.declaring_isFileModule "lib") resolved
  rw [Node.nameText_declaring] at declared
  have decreases := (walk_terminates view false).1
  exact ⟨⟨opened, declared⟩, ⟨decreases _ _ opened, decreases _ _ declared⟩, by decide +kernel,
    by decide +kernel⟩

end

end CrateSurface
