import CrateSurface.Proofs.WalkUnfolding

namespace CrateSurface

/-- What the calls of a walk share and hand on: the records so far, the canonical files seen, and
the files that were given to the parser. -/
structure Progress where
  out : List (Module String)
  seen : List String
  parsed : List String

namespace Progress

/-- Marks a file as seen and gives it to the parser. -/
def opening (progress : Progress) (file : String) : Progress :=
  { progress with seen := progress.seen ++ [file], parsed := progress.parsed ++ [file] }

/-- Appends the record of a finished module. -/
def closing (progress : Progress) (record : Module String) : Progress :=
  { progress with out := progress.out ++ [record] }

end Progress

/-- How a call ends: the progress it leaves, and the error it ends with, if any. -/
structure Outcome where
  progress : Progress
  failure : Option WalkError

/-- Goes on with the progress so far, unless there was an error. -/
def Outcome.andThen (first : Outcome) (next : Progress → Outcome) : Outcome :=
  match first.failure with
  | some _ => first
  | none => next first.progress

theorem Outcome.andThen_assoc (first : Outcome) (next last : Progress → Outcome) :
    (first.andThen next).andThen last = first.andThen fun done => (next done).andThen last := by
  cases failed : first.failure <;> simp [andThen, failed]

/-- What comes next matters only where the first part did not fail. -/
theorem Outcome.andThen_congr {first : Outcome} {next after : Progress → Outcome}
    (same : first.failure = none → next first.progress = after first.progress) :
    first.andThen next = first.andThen after := by
  unfold andThen
  cases failed : first.failure with
  | some error => rfl
  | none => exact same failed

/-- The calls that a walk is made of: the visit of a path, and the way through a module body that
belongs to the file `label` and has its own modules under `base`. -/
inductive Call where
  | file (path : String) (parts : List String) (progress : Progress)
  | body (label : String) (parts : List String) (base : String) (root : Node) (progress : Progress)

namespace Call

section Step

variable (view : FileView) (allowFaults : Bool) (run : Call → Outcome)

/-- One item of a module body. A public module leads to a further call, any other item to none. -/
def item (label : String) (parts : List String) (base : String) (n : Node) (progress : Progress) :
    Outcome :=
  if n.kind == "mod_item" && n.isPublic then
    match n.childByField? "body" with
    | some inner =>
      run (.body label (parts ++ [n.nameText]) (Path.join base n.nameText) inner progress)
    | none =>
      match moduleFile? view base n.nameText with
      | some path => run (.file path (parts ++ [n.nameText]) progress)
      | none => ⟨progress, some (.unresolved n.nameText base)⟩
  else ⟨progress, none⟩

/-- The calls for the items of a body, one after the other, up to the first that fails. -/
def items (label : String) (parts : List String) (base : String) :
    List Node → Progress → Outcome
  | [], progress => ⟨progress, none⟩
  | n :: rest, progress =>
    (item view run label parts base n progress).andThen (items label parts base rest)

/-- One call, where `run` answers the calls nested in it. There is no bound on how deep they go. -/
def step : Call → Outcome
  | .file path parts progress =>
    match view.canonical path with
    | .error fault => ⟨progress, some (.notCanonical path fault)⟩
    | .ok label =>
      if label ∈ progress.seen then ⟨progress, none⟩
      else
        match (openSource allowFaults label (view.read label)).2 with
        | .error error => ⟨progress.opening label, some error⟩
        | .ok source =>
          run (.body label parts (moduleBase label) source.root (progress.opening label))
  | .body label parts base root progress =>
    (items view run label parts base root.namedChildren progress).andThen fun done =>
      ⟨done.closing (Module.ofBody label parts root.outline), none⟩

end Step

section Items

variable {view : FileView} {run : Call → Outcome} {label : String} {parts : List String}
  {base : String} {n : Node} {progress : Progress}

/-- An inline module is walked in the directory that has its name. -/
theorem item_of_inlineBody? {inner : Node} (found : n.inlineBody? = some inner) :
    item view run label parts base n progress =
      run (.body label (parts ++ [n.nameText]) (Path.join base n.nameText) inner progress) := by
  unfold Node.inlineBody? at found
  split at found
  · rename_i here
    rw [item, if_pos here, found]
  · cases found

/-- A declared module is walked in its file, or is unresolved without one. -/
theorem item_of_isFileModule (declared : n.IsFileModule) :
    item view run label parts base n progress =
      match moduleFile? view base n.nameText with
      | some path => run (.file path (parts ++ [n.nameText]) progress)
      | none => ⟨progress, some (.unresolved n.nameText base)⟩ := by
  have here : (n.kind == "mod_item" && n.isPublic) = true := by
    rw [declared.kind, declared.isPublic]
    rfl
  rw [item, if_pos here, declared.bodiless]

theorem item_of_passed (noBody : n.inlineBody? = none) (notDeclared : ¬ n.IsFileModule) :
    item view run label parts base n progress = ⟨progress, none⟩ := by
  rw [item]
  split
  · rename_i here
    rw [Node.inlineBody?, if_pos here] at noBody
    obtain ⟨kind, isPublic⟩ := Bool.and_eq_true_iff.mp here
    exact absurd ⟨beq_iff_eq.mp kind, isPublic, noBody⟩ notDeclared
  · rfl

end Items

end Call

/-- A visit of files puts the files that it sees behind those seen before. -/
def Extends (visitFile : String → List String → List String → Visit) : Prop :=
  ∀ path parts seen, seen <+: (visitFile path parts seen).seen

section Extension

variable {view : FileView} {visitFile : String → List String → List String → Visit}

theorem Visit.seen_prefix_andThen {first : Visit} {next : List String → Visit}
    (more : first.seen <+: (next first.seen).seen) : first.seen <+: (first.andThen next).seen := by
  cases failed : first.failure with
  | none => rwa [andThen_of_success failed]
  | some error => rw [andThen_of_failure failed]

theorem Extends.visitBody_of_entries {label base : String} {parts seen : List String}
    {body : List Entry}
    (entries : seen <+: (visitEntries view visitFile label parts base body seen).seen) :
    seen <+: (visitBody view visitFile label parts base body seen).seen :=
  entries.trans (Visit.seen_prefix_andThen (List.prefix_refl _))

theorem Extends.visitEntries (more : Extends visitFile) (label : String) (body : List Entry) :
    ∀ parts base seen, seen <+: (visitEntries view visitFile label parts base body seen).seen := by
  induction body using Entry.bodyInduction with
  | nil => intro parts base seen; rw [visitEntries_nil]; exact List.prefix_refl _
  | item contribution rest ih =>
    intro parts base seen
    rw [visitEntries_item]
    exact ih parts base seen
  | inlineModule name body rest inner ih =>
    intro parts base seen
    rw [visitEntries_inlineModule]
    exact (visitBody_of_entries (inner _ _ seen)).trans (Visit.seen_prefix_andThen (ih _ _ _))
  | fileModule name rest ih =>
    intro parts base seen
    rw [visitEntries_fileModule]
    refine List.IsPrefix.trans ?_ (Visit.seen_prefix_andThen (ih _ _ _))
    split
    · exact more _ _ _
    · exact List.prefix_refl _

theorem Extends.visitPath (more : Extends visitFile) (allowFaults : Bool) :
    Extends (visitPath view visitFile allowFaults) := by
  intro path parts seen
  have step := visitPath_spec view visitFile allowFaults path parts seen
  generalize CrateSurface.visitPath view visitFile allowFaults path parts seen = visit at step ⊢
  cases step with
  | lost => exact List.prefix_refl _
  | known => exact List.prefix_refl _
  | refused => exact List.prefix_append _ _
  | opened =>
    exact (List.prefix_append _ _).trans (visitBody_of_entries (more.visitEntries _ _ _ _ _))

theorem walk_extends (view : FileView) (allowFaults : Bool) : Extends (walk view allowFaults) := by
  have within : ∀ depth, Extends (walkWithin view allowFaults depth) := by
    intro depth
    induction depth with
    | zero => intro path parts seen; exact List.prefix_refl _
    | succ depth ih => exact ih.visitPath allowFaults
  exact within _

end Extension

/-- An item that declares no module is no entry, or contributes to the record. -/
theorem Node.entry?_of_passed {n : Node} (noBody : n.inlineBody? = none)
    (notDeclared : ¬ n.IsFileModule) (earlier : List Node) :
    n.entry? earlier = none ∨ ∃ contribution, n.entry? earlier = some (.item contribution) := by
  cases found : n.entry? earlier with
  | none => exact Or.inl rfl
  | some entry =>
    cases entry with
    | item contribution => exact Or.inr ⟨contribution, rfl⟩
    | fileModule name => exact absurd (entry?_eq_fileModule_iff.mp found).1 notDeclared
    | inlineModule name body =>
      obtain ⟨inner, some, _⟩ := entry?_eq_inlineModule_iff.mp found
      rw [noBody] at some
      cases some

/-- The outcome of a call whose visit is known. A file is given to the parser when it is marked, and
at no other time. -/
def Progress.after (progress : Progress) (visit : Visit) : Outcome :=
  ⟨⟨progress.out ++ visit.records, visit.seen,
    progress.parsed ++ visit.seen.drop progress.seen.length⟩, visit.failure⟩

theorem Progress.after_remarking (progress : Progress) (notes : List Log.Note) :
    progress.after (.remarking notes progress.seen) = ⟨progress, none⟩ := by
  simp [after, Visit.remarking]

theorem Progress.after_marking (progress : Progress) (notes : List Log.Note) (label : String) :
    progress.after (.remarking notes (progress.seen ++ [label])) =
      ⟨progress.opening label, none⟩ := by
  simp [after, opening, Visit.remarking]

theorem Progress.after_failing (progress : Progress) (error : WalkError) (notes : List Log.Note) :
    progress.after (.failing error notes progress.seen) = ⟨progress, some error⟩ := by
  simp [after, Visit.failing]

/-- The progress after two visits is that after the second from that after the first. -/
theorem Progress.after_andThen {progress : Progress} {visit : Visit} {next : List String → Visit}
    (first : progress.seen <+: visit.seen) (rest : visit.seen <+: (next visit.seen).seen) :
    progress.after (visit.andThen next) =
      (progress.after visit).andThen fun done => done.after (next done.seen) := by
  cases failed : visit.failure with
  | some error => simp only [Visit.andThen_of_failure failed, after, Outcome.andThen, failed]
  | none =>
    have parted : (next visit.seen).seen.drop progress.seen.length =
        visit.seen.drop progress.seen.length ++ (next visit.seen).seen.drop visit.seen.length := by
      obtain ⟨new, seen⟩ := first
      obtain ⟨more, later⟩ := rest
      rw [← later, List.drop_left, List.drop_append_of_le_length]
      rw [← seen, List.length_append]
      omega
    simp only [Visit.andThen_of_success failed, after, Outcome.andThen, failed, parted,
      List.append_assoc]

section Collect

variable (view : FileView) (allowFaults : Bool)

/-- What the walk makes of each call. -/
def collect : Call → Outcome
  | .file path parts progress => progress.after (walk view allowFaults path parts progress.seen)
  | .body label parts base root progress =>
    progress.after (walkBody view allowFaults label parts base root.outline progress.seen)

variable {view allowFaults}

/-- The way through the items of a body goes through the entries that stand for them. -/
theorem items_collect (label base : String) (parts : List String) (earlier items : List Node)
    (named : ∀ n ∈ items, n.named = true) (progress : Progress) :
    Call.items view (collect view allowFaults) label parts base items progress =
      progress.after (visitEntries view (walk view allowFaults) label parts base
        (Node.entriesAfter earlier items) progress.seen) := by
  induction items generalizing earlier progress with
  | nil => rw [Node.entriesAfter, visitEntries_nil, progress.after_remarking, Call.items]
  | cons n rest ih =>
    have later := ih (n :: earlier) (fun m member => named m (List.mem_cons_of_mem _ member))
    have more := walk_extends view allowFaults
    rw [Node.entriesAfter, if_pos (named n (List.mem_cons_self ..)), Call.items, funext later]
    cases found : n.inlineBody? with
    | some inner =>
      rw [Node.entry?_of_inlineBody? found, Option.toList_some, List.singleton_append,
        visitEntries_inlineModule, Call.item_of_inlineBody? found]
      exact (Progress.after_andThen
        (Extends.visitBody_of_entries (more.visitEntries _ _ _ _ _))
        (more.visitEntries _ _ _ _ _)).symm
    | none =>
      by_cases declared : n.IsFileModule
      · rw [declared.entry?, Option.toList_some, List.singleton_append, visitEntries_fileModule,
          Call.item_of_isFileModule declared]
        cases moduleFile? view base n.nameText with
        | none =>
          have stays : progress.seen <+:
              (Visit.failing (.unresolved n.nameText base) [] progress.seen).seen :=
            List.prefix_refl _
          rw [Progress.after_andThen stays (more.visitEntries _ _ _ _ _), progress.after_failing]
        | some path =>
          exact (Progress.after_andThen (more _ _ _) (more.visitEntries _ _ _ _ _)).symm
      · rw [Call.item_of_passed found declared]
        rcases Node.entry?_of_passed found declared earlier with none | ⟨contribution, some⟩
        · -- A private module is no entry at all.
          rw [none]
          rfl
        · have passed : progress.seen <+:
              (Visit.remarking (contribution.remarks.map (Remark.note label)) progress.seen).seen :=
            List.prefix_refl _
          rw [some, Option.toList_some, List.singleton_append, visitEntries_item,
            Progress.after_andThen passed (more.visitEntries _ _ _ _ _), progress.after_remarking]

/-- The walk answers every call as the call's own step does with the walk's answers to the nested
calls. -/
theorem collect_eq_step (call : Call) :
    collect view allowFaults call = call.step view allowFaults (collect view allowFaults) := by
  have more := walk_extends view allowFaults
  cases call with
  | body label parts base root progress =>
    have named : ∀ n ∈ root.namedChildren, n.named = true :=
      fun n member => (List.mem_filter.mp member).2
    have closed : ∀ done : Progress,
        done.after (closeModule (Module.ofBody label parts root.outline) done.seen) =
          ⟨done.closing (Module.ofBody label parts root.outline), none⟩ := by
      intro done
      simp [Progress.after, Progress.closing, closeModule]
    rw [collect, walkBody, visitBody,
      Progress.after_andThen (more.visitEntries _ _ _ _ _) (List.prefix_refl _), funext closed,
      Call.step, items_collect label base parts [] _ named, ← root.outline_eq]
  | file path parts progress =>
    rw [collect, walk_eq, Call.step]
    cases canonical : view.canonical path with
    | error fault => simp only [visitPath, canonical, Progress.after_failing]
    | ok label =>
      by_cases known : label ∈ progress.seen
      · simp only [visitPath, canonical, if_pos known, Progress.after_remarking]
      · simp only [if_neg known]
        cases opening : openSource allowFaults label (view.read label) with
        | mk notes result =>
          cases result with
          | error error =>
            simp [visitPath, canonical, known, opening, Progress.after, Visit.failing,
              Progress.opening]
          | ok source =>
            have marked : progress.seen <+: progress.seen ++ [label] := List.prefix_append _ _
            simp only [visitPath, canonical, if_neg known, opening]
            rw [Progress.after_andThen marked (Extends.visitBody_of_entries
              (more.visitEntries _ _ _ _ _)), progress.after_marking]
            rfl

section Files

variable {path label : String} {parts : List String} {progress : Progress}

theorem collect_lost {fault : PathFault} (lost : view.canonical path = .error fault) :
    collect view allowFaults (.file path parts progress) =
      ⟨progress, some (.notCanonical path fault)⟩ := by
  rw [collect_eq_step, Call.step, lost]

theorem collect_known (canonical : view.canonical path = .ok label)
    (known : label ∈ progress.seen) :
    collect view allowFaults (.file path parts progress) = ⟨progress, none⟩ := by
  rw [collect_eq_step, Call.step, canonical]
  exact if_pos known

/-- A file that cannot be opened is seen, and fails the walk. -/
theorem collect_refused {error : WalkError} (canonical : view.canonical path = .ok label)
    (new : label ∉ progress.seen)
    (refused : (openSource allowFaults label (view.read label)).2 = .error error) :
    collect view allowFaults (.file path parts progress) =
      ⟨progress.opening label, some error⟩ := by
  rw [collect_eq_step, Call.step, canonical]
  simp only [if_neg new, refused]

/-- A file that is opened is seen, and its root is walked in its directory. -/
theorem collect_opened {source : Source} (canonical : view.canonical path = .ok label)
    (new : label ∉ progress.seen)
    (opened : (openSource allowFaults label (view.read label)).2 = .ok source) :
    collect view allowFaults (.file path parts progress) =
      collect view allowFaults
        (.body label parts (moduleBase label) source.root (progress.opening label)) := by
  rw [collect_eq_step, Call.step, canonical]
  simp only [if_neg new, opened]

end Files

end Collect

section Nesting

variable (view : FileView) (allowFaults : Bool)

/-- In the course of a call the walk makes another one: a file that was opened has its body gone
through, and a body has its public modules visited, with the progress that the items before the
module have left. -/
inductive Calls : Call → Call → Prop
  | opened {path label : String} {parts : List String} {progress : Progress} {source : Source} :
      view.canonical path = .ok label → label ∉ progress.seen →
      (openSource allowFaults label (view.read label)).2 = .ok source →
      Calls (.file path parts progress)
        (.body label parts (moduleBase label) source.root (progress.opening label))
  | inline {label base : String} {parts : List String} {root n inner : Node}
      {before after : List Node} {progress reached : Progress} :
      root.namedChildren = before ++ n :: after →
      Call.items view (collect view allowFaults) label parts base before progress =
        ⟨reached, none⟩ →
      n.inlineBody? = some inner →
      Calls (.body label parts base root progress)
        (.body label (parts ++ [n.nameText]) (Path.join base n.nameText) inner reached)
  | declared {label base path : String} {parts : List String} {root n : Node}
      {before after : List Node} {progress reached : Progress} :
      root.namedChildren = before ++ n :: after →
      Call.items view (collect view allowFaults) label parts base before progress =
        ⟨reached, none⟩ →
      n.IsFileModule → moduleFile? view base n.nameText = some path →
      Calls (.body label parts base root progress) (.file path (parts ++ [n.nameText]) reached)

open Classical in
/-- The number of files that are not seen yet, each counted under its canonical path. -/
noncomputable def FileView.unopened (view : FileView) (seen : List String) : Nat :=
  (view.files.toFinset.filter fun file =>
    (∃ path, view.canonical path = .ok file) ∧ file ∉ seen).card

/-- The files that a call may still open, and the size of the tree that is left to it. -/
noncomputable def Call.measure (view : FileView) : Call → Nat × Nat
  | .file _ _ progress => (view.unopened progress.seen, 0)
  | .body _ _ _ root progress => (view.unopened progress.seen, root.size)

variable {view allowFaults}

theorem FileView.unopened_antitone {seen later : List String} (more : seen ⊆ later) :
    view.unopened later ≤ view.unopened seen := by
  classical
  refine Finset.card_le_card ?_
  intro file member
  obtain ⟨known, canonical, new⟩ := Finset.mem_filter.mp member
  exact Finset.mem_filter.mpr ⟨known, canonical, fun early => new (more early)⟩

/-- A new file that can be read is one less to open. -/
theorem FileView.unopened_lt {path file : String} {source : Source} {seen : List String}
    (canonical : view.canonical path = .ok file) (read : view.read file = .ok source)
    (new : file ∉ seen) : view.unopened (seen ++ [file]) < view.unopened seen := by
  classical
  refine Finset.card_lt_card (Finset.ssubset_iff_of_subset ?_ |>.mpr ⟨file, ?_, ?_⟩)
  · intro other member
    obtain ⟨known, canonical, later⟩ := Finset.mem_filter.mp member
    exact Finset.mem_filter.mpr
      ⟨known, canonical, fun early => later (List.mem_append_left _ early)⟩
  · have known := List.mem_toFinset.mpr (view.read_mem file source read)
    exact Finset.mem_filter.mpr ⟨known, ⟨path, canonical⟩, new⟩
  · intro member
    exact (Finset.mem_filter.mp member).2.2 (by simp)

theorem items_append (run : Call → Outcome) (label base : String) (parts : List String)
    (xs ys : List Node) (progress : Progress) :
    Call.items view run label parts base (xs ++ ys) progress =
      (Call.items view run label parts base xs progress).andThen
        (Call.items view run label parts base ys) := by
  induction xs generalizing progress with
  | nil => rfl
  | cons n rest ih =>
    rw [List.cons_append, Call.items, Call.items, funext ih, Outcome.andThen_assoc]

theorem items_collect_seen {label base : String} {parts : List String} {items : List Node}
    {progress reached : Progress} (named : ∀ n ∈ items, n.named = true)
    (run : Call.items view (collect view allowFaults) label parts base items progress =
      ⟨reached, none⟩) : progress.seen ⊆ reached.seen := by
  rw [items_collect label base parts [] items named] at run
  have seen := congrArg (·.progress.seen) run
  change _ = reached.seen at seen
  rw [← seen]
  exact ((walk_extends view allowFaults).visitEntries _ _ _ _ _).subset

/-- A nested call has fewer files left to open, or as many and a smaller tree. -/
theorem Calls.decreases {outer inner : Call} (nested : Calls view allowFaults outer inner) :
    Prod.Lex (· < ·) (· < ·) (inner.measure view) (outer.measure view) := by
  have within {root n : Node} {before after : List Node}
      (split : root.namedChildren = before ++ n :: after) :
      (∀ m ∈ before, m.named = true) ∧ n.size < root.size := by
    have member {m : Node} (inside : m ∈ before ++ n :: after) : m ∈ root.namedChildren :=
      split ▸ inside
    refine ⟨fun m early => (List.mem_filter.mp (member (List.mem_append_left _ early))).2, ?_⟩
    have here : n ∈ root.namedChildren := member (by simp)
    exact Node.size_lt_of_mem_children (Node.mem_children_of_mem_namedChildren here)
  cases nested with
  | opened canonical new opened =>
    -- The body may be larger than anything before it, but the file no longer counts as unseen.
    exact .left _ _ (FileView.unopened_lt canonical (openSource_eq_ok opened).1 new)
  | inline split run found =>
    -- The items before the module may have marked files and can have unmarked none.
    obtain ⟨named, smaller⟩ := within split
    have fewer : view.unopened _ ≤ view.unopened _ :=
      FileView.unopened_antitone (items_collect_seen named run)
    have size := Node.size_lt_of_inlineBody? found
    exact Prod.Lex.right' _ fewer (size.trans smaller)
  | declared split run _ _ =>
    obtain ⟨named, smaller⟩ := within split
    have fewer : view.unopened _ ≤ view.unopened _ :=
      FileView.unopened_antitone (items_collect_seen named run)
    exact Prod.Lex.right' _ fewer (Nat.zero_lt_of_lt smaller)

/-- No chain of nested calls goes on forever. -/
theorem calls_wellFounded (view : FileView) (allowFaults : Bool) :
    WellFounded fun inner outer => Calls view allowFaults outer inner :=
  Subrelation.wf Calls.decreases
    (InvImage.wf (Call.measure view) (Prod.lex Nat.lt_wfRel Nat.lt_wfRel).wf)

/-- All that an item of a body can come to, when the items before it have left the progress
`reached`. -/
inductive ItemVisit (view : FileView) (allowFaults : Bool) (label : String) (parts : List String)
    (base : String) (root : Node) (progress : Progress) (n : Node) (reached : Progress) :
    Outcome → Prop
  | passed : n.inlineBody? = none → ¬ n.IsFileModule →
      ItemVisit view allowFaults label parts base root progress n reached ⟨reached, none⟩
  | inline {inner : Node} : n.inlineBody? = some inner →
      Calls view allowFaults (.body label parts base root progress)
        (.body label (parts ++ [n.nameText]) (Path.join base n.nameText) inner reached) →
      ItemVisit view allowFaults label parts base root progress n reached
        (collect view allowFaults
          (.body label (parts ++ [n.nameText]) (Path.join base n.nameText) inner reached))
  | unresolved : n.IsFileModule → moduleFile? view base n.nameText = none →
      ItemVisit view allowFaults label parts base root progress n reached
        ⟨reached, some (.unresolved n.nameText base)⟩
  | declared {path : String} : n.IsFileModule → moduleFile? view base n.nameText = some path →
      Calls view allowFaults (.body label parts base root progress)
        (.file path (parts ++ [n.nameText]) reached) →
      ItemVisit view allowFaults label parts base root progress n reached
        (collect view allowFaults (.file path (parts ++ [n.nameText]) reached))

/-- What the call for an item does, from where the items before it have led. -/
theorem item_spec {label base : String} {parts : List String} {root n : Node}
    {before after : List Node} {progress reached : Progress}
    (split : root.namedChildren = before ++ n :: after)
    (done : Call.items view (collect view allowFaults) label parts base before progress =
      ⟨reached, none⟩) :
    ItemVisit view allowFaults label parts base root progress n reached
      (Call.item view (collect view allowFaults) label parts base n reached) := by
  cases found : n.inlineBody? with
  | some inner =>
    rw [Call.item_of_inlineBody? found]
    exact .inline found (.inline split done found)
  | none =>
    by_cases declared : n.IsFileModule
    · rw [Call.item_of_isFileModule declared]
      cases resolved : moduleFile? view base n.nameText with
      | none => exact .unresolved declared resolved
      | some path => exact .declared declared resolved (.declared split done declared resolved)
    · rw [Call.item_of_passed found declared]
      exact .passed found declared

/-- The induction that every way through the items of a body follows: what the items from `n` on
bring follows from what `n` comes to and, unless `n` ends in an error, from what the items after it
bring. -/
theorem items_induction (label : String) (parts : List String) (base : String) (root : Node)
    (progress : Progress) {motive : List Node → Progress → Outcome → Prop}
    (nil : ∀ reached, motive [] reached ⟨reached, none⟩)
    (cons : ∀ n rest reached outcome,
      ItemVisit view allowFaults label parts base root progress n reached outcome →
      (outcome.failure = none → motive rest outcome.progress
        (Call.items view (collect view allowFaults) label parts base rest outcome.progress)) →
      motive (n :: rest) reached (outcome.andThen
        (Call.items view (collect view allowFaults) label parts base rest))) :
    motive root.namedChildren progress
      (Call.items view (collect view allowFaults) label parts base root.namedChildren
        progress) := by
  -- `before` are the items that have been gone through without an error.
  have loop : ∀ rest before reached, root.namedChildren = before ++ rest →
      Call.items view (collect view allowFaults) label parts base before progress =
        ⟨reached, none⟩ →
      motive rest reached
        (Call.items view (collect view allowFaults) label parts base rest reached) := by
    intro rest
    induction rest with
    | nil => intro before reached _ _; exact nil reached
    | cons n rest ih =>
      intro before reached split done
      rw [Call.items]
      refine cons n rest reached _ (item_spec split done) ?_
      intro success
      refine ih (before ++ [n]) _ (by rw [split, List.append_assoc]; rfl) ?_
      rw [items_append, done]
      cases result : Call.item view (collect view allowFaults) label parts base n reached with
      | mk next failure =>
        rw [result] at success
        cases success
        simp only [Outcome.andThen, Call.items, result]
  exact loop root.namedChildren [] progress rfl rfl

end Nesting

end CrateSurface
