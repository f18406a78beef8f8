import CrateSurface.Proofs.Calls
import CrateSurface.Proofs.ReachableFiles

namespace CrateSurface

namespace Progress

/-- Nothing was seen or recorded. -/
def start : Progress :=
  ⟨[], [], []⟩

/-- The records so far that carry the label of a file. -/
def labelled (progress : Progress) (file : String) : Nat :=
  progress.out.countP fun record => record.file == file

theorem labelled_opening (progress : Progress) (label file : String) :
    (progress.opening label).labelled file = progress.labelled file := rfl

theorem labelled_closing (progress : Progress) (record : Module String) (file : String) :
    (progress.closing record).labelled file =
      progress.labelled file + if record.file = file then 1 else 0 := by
  simp [labelled, closing]

/-- Adds `more` records to those that a file still has to get. -/
def owing (owed : String → Nat) (label : String) (more : Nat) : String → Nat :=
  fun file => owed file + if label = file then more else 0

/-- No file was marked or given to the parser twice, and together with the records that it still
has to get, no file has more of them than it has modules. -/
structure Balanced (view : FileView) (owed : String → Nat) (progress : Progress) : Prop where
  nodup : progress.seen.Nodup
  parsed : progress.parsed = progress.seen
  bounded : ∀ file, progress.labelled file + owed file ≤
    if file ∈ progress.seen then 1 + (view.inlineModules file).length else 0

variable {view : FileView} {owed : String → Nat} {progress : Progress} {label : String}

theorem Balanced.mono {less : String → Nat} (balanced : progress.Balanced view owed)
    (fewer : ∀ file, less file ≤ owed file) : progress.Balanced view less :=
  ⟨balanced.nodup, balanced.parsed,
    fun file => (Nat.add_le_add_left (fewer file) _).trans (balanced.bounded file)⟩

/-- A new file comes with room for its record and for those of its inline modules. -/
theorem Balanced.opening {more : Nat} (balanced : progress.Balanced view owed)
    (new : label ∉ progress.seen) (enough : more ≤ 1 + (view.inlineModules label).length) :
    (progress.opening label).Balanced view (owing owed label more) where
  nodup := List.nodup_append.mpr ⟨balanced.nodup, by simp, by
    intro file member other same
    rw [List.mem_singleton.mp same]
    rintro rfl
    exact new member⟩
  parsed := by rw [Progress.opening, balanced.parsed]
  bounded file := by
    have bound := balanced.bounded file
    rw [labelled_opening, owing]
    by_cases same : label = file
    · subst same
      have last : label ∈ (progress.opening label).seen :=
        List.mem_append_right _ (List.mem_singleton_self _)
      rw [if_neg new] at bound
      rw [if_pos rfl, if_pos last]
      omega
    · have other : file ∈ (progress.opening label).seen ↔ file ∈ progress.seen := by
        simp [Progress.opening, Ne.symm same]
      simp only [other, if_neg same]
      omega

/-- A closed record is taken off what its file owes. -/
theorem Balanced.closing {record : Module String}
    (balanced : progress.Balanced view (owing owed record.file 1)) :
    (progress.closing record).Balanced view owed where
  nodup := balanced.nodup
  parsed := balanced.parsed
  bounded file := by
    have bound := balanced.bounded file
    rw [owing] at bound
    rw [labelled_closing]
    change _ ≤ if file ∈ progress.seen then _ else _
    omega

theorem owing_owing (owed : String → Nat) (label : String) (more other : Nat) :
    owing (owing owed label more) label other = owing owed label (more + other) := by
  funext file
  simp only [owing]
  split <;> omega

theorem Balanced.fewer {more less : Nat} (balanced : progress.Balanced view (owing owed label more))
    (fewer : less ≤ more) : progress.Balanced view (owing owed label less) := by
  refine balanced.mono fun file => ?_
  simp only [owing]
  split <;> omega

end Progress

section Balance

variable {view : FileView} {allowFaults : Bool}

/-- A call keeps the balance. The records that the way through a body appends were owed before
it. -/
def Call.Balances (view : FileView) (allowFaults : Bool) : Call → Prop
  | .file path parts progress => ∀ owed, progress.Balanced view owed →
      (collect view allowFaults (.file path parts progress)).progress.Balanced view owed
  | .body label parts base root progress => ∀ owed,
      progress.Balanced view
        (Progress.owing owed label ((Node.inlineModules root.namedChildren).length + 1)) →
      (collect view allowFaults (.body label parts base root progress)).progress.Balanced view owed

/-- The inline modules of items are those of the first one and those of the rest. -/
theorem inlineModules_length_cons (n : Node) (rest : List Node) :
    (Node.inlineModules (n :: rest)).length =
      (match n.inlineBody? with
        | some body => (Node.inlineModules body.namedChildren).length + 1
        | none => 0) + (Node.inlineModules rest).length := by
  rw [Node.inlineModules_cons, List.length_append]
  cases n.inlineBody? <;> rfl

/-- The items of a body keep the balance, if their calls do: each inline module may close a record. -/
theorem items_balanced {label base : String} {parts : List String} {root : Node}
    {progress : Progress}
    (nested : ∀ inner, Calls view allowFaults (.body label parts base root progress) inner →
      inner.Balances view allowFaults) (owed : String → Nat) (more : Nat) :
    progress.Balanced view
        (Progress.owing owed label (more + (Node.inlineModules root.namedChildren).length)) →
      (Call.items view (collect view allowFaults) label parts base root.namedChildren
        progress).progress.Balanced view (Progress.owing owed label more) := by
  refine items_induction label parts base root progress (motive := fun rest reached outcome =>
    reached.Balanced view (Progress.owing owed label (more + (Node.inlineModules rest).length)) →
      outcome.progress.Balanced view (Progress.owing owed label more)) ?_ ?_
  · intro reached balanced
    exact balanced.fewer (by omega)
  · intro n rest reached outcome visit later balanced
    rw [inlineModules_length_cons] at balanced
    have here : outcome.progress.Balanced view
        (Progress.owing owed label (more + (Node.inlineModules rest).length)) := by
      cases visit with
      | passed => exact balanced.fewer (by omega)
      | unresolved => exact balanced.fewer (by omega)
      | inline found call =>
        refine nested _ call _ ?_
        rw [Progress.owing_owing]
        simp only [found] at balanced
        exact balanced.fewer (by omega)
      | declared _ _ call => exact nested _ call _ (balanced.fewer (by omega))
    unfold Outcome.andThen
    cases failed : outcome.failure with
    | some error => exact here.fewer (by omega)
    | none => exact later failed here

/-- Every call keeps the balance, also where it fails. -/
theorem collect_balances (call : Call) : call.Balances view allowFaults := by
  -- The calls are well-founded, so the nested calls of a call may be taken to keep the balance.
  induction call using (calls_wellFounded view allowFaults).induction with
  | _ call nested =>
    cases call with
    | body label parts base root progress =>
      intro owed balanced
      have entries := items_balanced nested owed 1 (balanced.fewer (by omega))
      rw [collect_eq_step, Call.step]
      unfold Outcome.andThen
      split
      · exact (entries.mono fun file => by simp [Progress.owing])
      · exact entries.closing
    | file path parts progress =>
      intro owed balanced
      cases canonical : view.canonical path with
      | error fault => rw [collect_lost canonical]; exact balanced
      | ok label =>
        by_cases known : label ∈ progress.seen
        · rw [collect_known canonical known]; exact balanced
        · cases opened : (openSource allowFaults label (view.read label)).2 with
          | error error =>
            rw [collect_refused canonical known opened]
            have opening := balanced.opening known (Nat.zero_le _)
            exact opening.mono fun file => by simp [Progress.owing]
          | ok source =>
            rw [collect_opened canonical known opened]
            refine nested _ (.opened canonical known opened) owed ?_
            refine balanced.opening known ?_
            simp only [FileView.inlineModules, (openSource_eq_ok opened).1]
            omega

end Balance

/-- A visit that a session asks for. -/
structure Request where
  path : String
  parts : List String
  allowFaults : Bool

/-- A request is walked from where the session has come to. -/
def Progress.serve (view : FileView) (progress : Progress) (request : Request) : Outcome :=
  collect view request.allowFaults (.file request.path request.parts progress)

/-- Where a session stands after its requests, of which any may have failed. -/
def session (view : FileView) (requests : List Request) : Progress :=
  requests.foldl (fun progress request => (progress.serve view request).progress) .start

/-- After any requests no file has more records than modules. -/
theorem session_balanced (view : FileView) (requests : List Request) :
    (session view requests).Balanced view fun _ => 0 := by
  have start : Progress.start.Balanced view fun _ => 0 :=
    ⟨List.nodup_nil, rfl, fun file => by simp [Progress.start, Progress.labelled]⟩
  unfold session
  generalize Progress.start = progress at start
  induction requests generalizing progress with
  | nil => exact start
  | cons request rest ih =>
    exact ih _ (collect_balances (.file request.path request.parts progress) _ start)

/-- A request appends records and marks files, and which ones does not hang on the records that
are there. -/
theorem Progress.serve_appends (view : FileView) (progress : Progress) (request : Request) :
    ∃ added new failure, ∀ out, ({ progress with out }).serve view request =
      ⟨⟨out ++ added, progress.seen ++ new, progress.parsed ++ new⟩, failure⟩ := by
  let visit := walk view request.allowFaults request.path request.parts progress.seen
  obtain ⟨new, seen⟩ : progress.seen <+: visit.seen := walk_extends view _ _ _ _
  refine ⟨visit.records, new, visit.failure, fun out => ?_⟩
  change Progress.after _ visit = _
  rw [after, ← seen, List.drop_left]

/-- However a session has gone so far, with requests that failed at any point: all records are
labelled with files that were seen, the files that were seen are those given to the parser, each of
them once, and no file has more records than it has modules. The next request only appends
records, which do not hang on those that are there, and only adds files, which it gives to the
parser; and if its file was seen before, it succeeds and changes nothing. -/
theorem session_invariant (view : FileView) (requests : List Request) :
    (∀ record ∈ (session view requests).out, record.file ∈ (session view requests).seen) ∧
    ((session view requests).parsed.Nodup ∧
      ∀ file, file ∈ (session view requests).parsed ↔ file ∈ (session view requests).seen) ∧
    (∀ file, (session view requests).labelled file ≤ 1 + (view.inlineModules file).length) ∧
    ∀ request,
      (∃ added new failure, ∀ out, ({ session view requests with out }).serve view request =
        ⟨⟨out ++ added, (session view requests).seen ++ new,
          (session view requests).parsed ++ new⟩, failure⟩) ∧
      ∀ file, view.canonical request.path = .ok file → file ∈ (session view requests).seen →
        (session view requests).serve view request = ⟨session view requests, none⟩ := by
  have balanced := session_balanced view requests
  generalize session view requests = progress at balanced ⊢
  have bounded := balanced.bounded
  refine ⟨?_, ?_, ?_, ?_⟩
  · intro record member
    -- A file that was not seen may have no records at all.
    by_contra unseen
    have none := bounded record.file
    rw [if_neg unseen, Nat.add_zero, Nat.le_zero] at none
    have one := List.countP_eq_zero.mp none record member
    simp at one
  · rw [balanced.parsed]
    exact ⟨balanced.nodup, fun file => Iff.rfl⟩
  · intro file
    refine (bounded file).trans ?_
    split <;> omega
  · intro request
    exact ⟨progress.serve_appends view request, fun file canonical known =>
      collect_known canonical known⟩

namespace RepeatedRequest

open Node (branch nameLeaf leaf)

/-- A file with one module inside. -/
def root : Node :=
  branch "source_file" none [branch "mod_item" none [leaf "visibility_modifier" "pub",
    nameLeaf "inner", branch "declaration_list" (some "body") []]]

/-- One file, which two paths lead to. -/
def view : FileView where
  workdir := "/c"
  files := ["/c/lib.rs"]
  pathExists path := path == "/c/lib.rs" || path == "/c/./lib.rs"
  isFile _ := true
  canonical path :=
    if path == "/c/lib.rs" || path == "/c/./lib.rs" then .ok "/c/lib.rs"
    else .error (.system .notFound path)
  read path := if path = "/c/lib.rs" then .ok ⟨0, root⟩ else .error (.path (.system .notFound path))
  read_mem path source h := by
    split at h
    · rename_i same
      exact List.mem_singleton.mpr same
    · cases h

/-- The file, and one that is not there. -/
def requests : List Request :=
  [⟨"/c/lib.rs", [], false⟩, ⟨"/c/gone.rs", ["gone"], false⟩]

end RepeatedRequest

section

open RepeatedRequest

/-- A file that is asked for again, by another path, changes nothing. -/
theorem repeated_request_changes_nothing :
    let reached := session view requests
    let request : Request := ⟨"/c/./lib.rs", ["again"], true⟩
    (view.canonical request.path = .ok "/c/lib.rs" ∧ "/c/lib.rs" ∈ reached.seen) ∧
      reached.serve view request = ⟨reached, none⟩ ∧
      reached.labelled "/c/lib.rs" = 2 ∧
      reached.labelled "/c/lib.rs" ≤ 1 + (view.inlineModules "/c/lib.rs").length := by
  intro reached request
  obtain ⟨_, _, bounded, next⟩ := session_invariant view requests
  have canonical : view.canonical request.path = .ok "/c/lib.rs" := by decide +kernel
  have seen : "/c/lib.rs" ∈ reached.seen := by decide +kernel
  exact ⟨⟨canonical, seen⟩, (next request).2 _ canonical seen, by decide +kernel, bounded _⟩

end

end CrateSurface
