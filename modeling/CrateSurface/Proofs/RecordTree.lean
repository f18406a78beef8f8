import CrateSurface.Proofs.PrivateContent

namespace CrateSurface

mutual

/-- The names of the public modules of a body, those inside one another included. -/
def moduleNames : List Entry → List String
  | [] => []
  | entry :: rest => entry.moduleNames ++ moduleNames rest

/-- The names of the modules that a body declares, those of inline modules included. -/
def Entry.moduleNames : Entry → List String
  | .item _ => []
  | .inlineModule name body => name :: CrateSurface.moduleNames body
  | .fileModule name => [name]

end

section

variable (name : String) (body rest : List Entry)

theorem moduleNames_item (contribution : Contribution) :
    moduleNames (.item contribution :: rest) = moduleNames rest := by
  rw [moduleNames, Entry.moduleNames, List.nil_append]

theorem moduleNames_inlineModule :
    moduleNames (.inlineModule name body :: rest) =
      name :: (moduleNames body ++ moduleNames rest) := by
  rw [moduleNames, Entry.moduleNames, List.cons_append]

theorem moduleNames_fileModule :
    moduleNames (.fileModule name :: rest) = name :: moduleNames rest := by
  rw [moduleNames, Entry.moduleNames, List.singleton_append]

end

/-- A name is that of a declared module, or stands in the body of an inline one or over it. -/
theorem mem_moduleNames {body : List Entry} {name : String} :
    name ∈ moduleNames body ↔ .fileModule name ∈ body ∨
      ∃ outer inner, .inlineModule outer inner ∈ body ∧
        (outer = name ∨ name ∈ moduleNames inner) := by
  induction body using Entry.bodyInduction with
  | nil => simp [moduleNames]
  | item contribution rest ih => simp [moduleNames_item, ih]
  | inlineModule outer body rest _ ih =>
    rw [moduleNames_inlineModule, List.mem_cons, List.mem_append, ih]
    constructor
    · rintro (rfl | inside | declared | ⟨other, inner, among, named⟩)
      · exact Or.inr ⟨name, body, List.mem_cons_self .., Or.inl rfl⟩
      · exact Or.inr ⟨outer, body, List.mem_cons_self .., Or.inr inside⟩
      · exact Or.inl (List.mem_cons_of_mem _ declared)
      · exact Or.inr ⟨other, inner, List.mem_cons_of_mem _ among, named⟩
    · rintro (declared | ⟨other, inner, among, named⟩)
      · exact Or.inr (Or.inr (Or.inl (by simpa using declared)))
      · rcases List.mem_cons.mp among with same | later
        · cases same
          exact named.elim (fun own => Or.inl own.symm) fun inside => Or.inr (Or.inl inside)
        · exact Or.inr (Or.inr (Or.inr ⟨other, inner, later, named⟩))
  | fileModule declared rest ih =>
    simp only [moduleNames_fileModule, List.mem_cons, ih, Entry.fileModule.injEq, reduceCtorEq, false_or,
      or_assoc]

/-- A public module, in a file of its own or not. -/
structure Node.IsPublicModule (n : Node) : Prop where
  kind : n.kind = "mod_item"
  isPublic : n.isPublic = true

/-- A public module is declared with a body or without one. -/
theorem Node.isPublicModule_iff {n : Node} :
    n.IsPublicModule ↔ n.IsFileModule ∨ ∃ body, n.inlineBody? = some body := by
  constructor
  · intro declared
    cases found : n.childByField? "body" with
    | none => exact Or.inl ⟨declared.kind, declared.isPublic, found⟩
    | some body =>
      refine Or.inr ⟨body, ?_⟩
      rw [inlineBody?, declared.kind, declared.isPublic, found]
      rfl
  · rintro (declared | ⟨body, found⟩)
    · exact ⟨declared.kind, declared.isPublic⟩
    · unfold inlineBody? at found
      split at found
      · rename_i here
        obtain ⟨kind, isPublic⟩ := Bool.and_eq_true_iff.mp here
        exact ⟨beq_iff_eq.mp kind, isPublic⟩
      · cases found

/-- The outline of a body has the names of all its public modules. -/
theorem nameText_mem_moduleNames {items : List Node} {names : List String} {n : Node}
    (nested : Node.Nested items names n) (declared : n.IsPublicModule) :
    ∀ body : Node, body.namedChildren = items → n.nameText ∈ moduleNames body.outline := by
  induction nested with
  | here member =>
    rintro body rfl
    rw [mem_moduleNames]
    rcases Node.isPublicModule_iff.mp declared with isFile | ⟨inner, found⟩
    · exact Or.inl (Node.fileModule_mem_outline.mpr ⟨_, member, isFile, rfl⟩)
    · exact Or.inr ⟨_, _, Node.inlineModule_mem_outline.mpr ⟨_, member, inner, found, rfl, rfl⟩,
        Or.inl rfl⟩
  | @inside _ outer inner _ _ member found _ ih =>
    rintro body rfl
    rw [mem_moduleNames]
    exact Or.inr ⟨_, _, Node.inlineModule_mem_outline.mpr ⟨outer, member, inner, found, rfl, rfl⟩,
      Or.inr (ih declared inner rfl)⟩

/-- The module names of an outline are the names of the public modules of its tree. -/
theorem mem_moduleNames_outline {body : Node} {name : String} :
    name ∈ moduleNames body.outline ↔ ∃ names n,
      Node.Nested body.namedChildren names n ∧ n.IsPublicModule ∧ n.nameText = name := by
  constructor
  · intro member
    induction size : body.size using Nat.strong_induction_on generalizing body with
    | _ size ih =>
      subst size
      rcases mem_moduleNames.mp member with declared | ⟨outer, inner, among, named⟩
      · obtain ⟨n, member, isFile, same⟩ := Node.fileModule_mem_outline.mp declared
        exact ⟨[], n, .here member, Node.isPublicModule_iff.mpr (Or.inl isFile), same⟩
      · obtain ⟨n, member, written, found, rfl, rfl⟩ := Node.inlineModule_mem_outline.mp among
        rcases named with same | inside
        · exact ⟨[], n, .here member, Node.isPublicModule_iff.mpr (Or.inr ⟨_, found⟩), same⟩
        · have smaller : written.size < body.size :=
            (Node.size_lt_of_inlineBody? found).trans
              (Node.size_lt_of_mem_children (Node.mem_children_of_mem_namedChildren member))
          obtain ⟨names, m, nested, isPublic, same⟩ := ih _ smaller inside rfl
          exact ⟨_, m, .inside member found nested, isPublic, same⟩
  · rintro ⟨names, n, nested, declared, rfl⟩
    exact nameText_mem_moduleNames nested declared body rfl

/-- The path of a record goes on from `parts` by one or more names with a property. -/
def Module.Below (Q : String → Prop) (parts : List String) (record : Module String) : Prop :=
  ∃ names, names ≠ [] ∧ (∀ name ∈ names, Q name) ∧ record.parts = parts ++ names

/-- What is below a module is below the one around it. -/
theorem Module.Below.outer {Q : String → Prop} {parts : List String} {name : String}
    {record : Module String} (below : record.Below Q (parts ++ [name])) (named : Q name) :
    record.Below Q parts := by
  obtain ⟨names, _, all, same⟩ := below
  refine ⟨name :: names, List.cons_ne_nil _ _, ?_, by rw [same, List.append_assoc]; rfl⟩
  intro other member
  rcases List.mem_cons.mp member with rfl | later
  · exact named
  · exact all other later

theorem Module.Below.ne {Q : String → Prop} {parts : List String} {record : Module String}
    (below : record.Below Q parts) : record.parts ≠ parts := by
  obtain ⟨names, some, _, same⟩ := below
  rw [same]
  simpa using some

/-- Records in the order of a walk: the parent of each is the record of a later one, or else the
module with the path `parts` that all of them are in. -/
def ParentsLater (parts : List String) : List (Module String) → Prop
  | [] => True
  | record :: rest =>
    (record.parts.dropLast = parts ∨ ∃ later ∈ rest, later.parts = record.parts.dropLast) ∧
      ParentsLater parts rest

namespace ParentsLater

variable {parts : List String} {records others : List (Module String)}

theorem append (first : ParentsLater parts records) (second : ParentsLater parts others) :
    ParentsLater parts (records ++ others) := by
  induction records with
  | nil => exact second
  | cons record rest ih =>
    obtain ⟨parent, remaining⟩ := first
    refine ⟨?_, ih remaining⟩
    rcases parent with outer | ⟨later, member, same⟩
    · exact Or.inl outer
    · exact Or.inr ⟨later, List.mem_append_left _ member, same⟩

/-- The record of a module closes those of the modules in it. -/
theorem close {name : String} {record : Module String}
    (inner : ParentsLater (parts ++ [name]) records) (own : record.parts = parts ++ [name]) :
    ParentsLater parts (records ++ [record]) := by
  induction records with
  | nil => exact ⟨Or.inl (by rw [own, List.dropLast_concat]), trivial⟩
  | cons first rest ih =>
    obtain ⟨parent, remaining⟩ := inner
    refine ⟨Or.inr ?_, ih remaining⟩
    rcases parent with outer | ⟨later, member, same⟩
    · exact ⟨record, List.mem_append_right _ (List.mem_singleton_self _), own.trans outer.symm⟩
    · exact ⟨later, List.mem_append_left _ member, same⟩

/-- A record hangs on the module itself, or on a later record. -/
theorem parent {before after : List (Module String)} {record : Module String}
    (hang : ParentsLater parts (before ++ record :: after)) :
    record.parts.dropLast = parts ∨ ∃ later ∈ after, later.parts = record.parts.dropLast := by
  induction before with
  | nil => exact hang.1
  | cons first rest ih => exact ih hang.2

end ParentsLater

namespace Visit

variable {Q : String → Prop} {parts : List String} {first visit : Visit} {next : List String → Visit}

/-- What a visit of some of the entries of a module brings: records below the module's path, and on
success all the records between each of them and the module itself. -/
structure Nests (Q : String → Prop) (parts : List String) (visit : Visit) : Prop where
  below : ∀ record ∈ visit.records, record.Below Q parts
  parents : visit.failure = none → ParentsLater parts visit.records

/-- What a visit of a whole module brings: on success the module's own record comes last, after
what is nested in it; after a failure it is missing. -/
structure Completes (Q : String → Prop) (parts : List String) (visit : Visit) : Prop where
  partial_below : visit.failure ≠ none → ∀ record ∈ visit.records, record.Below Q parts
  closed : visit.failure = none → ∃ inner root, visit.records = inner ++ [root] ∧
    root.parts = parts ∧ (∀ record ∈ inner, record.Below Q parts) ∧ ParentsLater parts inner

theorem Nests.andThen (start : first.Nests Q parts)
    (rest : first.failure = none → (next first.seen).Nests Q parts) :
    (first.andThen next).Nests Q parts := by
  cases failed : first.failure with
  | some error => rwa [andThen_of_failure failed]
  | none =>
    rw [andThen_of_success failed]
    refine ⟨?_, fun success => (start.parents failed).append ((rest failed).parents success)⟩
    intro record member
    rcases List.mem_append.mp member with early | late
    · exact start.below record early
    · exact (rest failed).below record late

theorem Nests.of_records (none : visit.records = []) : visit.Nests Q parts := by
  refine ⟨?_, fun _ => ?_⟩
  · intro record member
    rw [none] at member
    cases member
  · rw [none]
    trivial

/-- What nests under a module is complete with the record of the module. -/
theorem Nests.completes {record : Module String} (entries : visit.Nests Q parts)
    (own : record.parts = parts) : (visit.andThen (closeModule record)).Completes Q parts := by
  cases failed : visit.failure with
  | some error =>
    rw [andThen_of_failure failed]
    exact ⟨fun _ => entries.below, fun success => by rw [failed] at success; cases success⟩
  | none =>
    rw [andThen_of_success failed]
    refine ⟨fun failure => absurd rfl failure, fun _ => ?_⟩
    exact ⟨visit.records, record, rfl, own, entries.below, entries.parents failed⟩

/-- A module that was gone through is nested in its parent. -/
theorem Completes.nests {name : String} (inner : visit.Completes Q (parts ++ [name]))
    (named : Q name) : visit.Nests Q parts := by
  cases failed : visit.failure with
  | some error =>
    refine ⟨?_, fun success => by rw [failed] at success; cases success⟩
    intro record member
    exact (inner.partial_below (by simp [failed]) record member).outer named
  | none =>
    obtain ⟨nested, root, records, own, below, parents⟩ := inner.closed failed
    refine ⟨?_, fun _ => by rw [records]; exact parents.close own⟩
    intro record member
    rw [records] at member
    rcases List.mem_append.mp member with inside | last
    · exact (below record inside).outer named
    · rw [List.mem_singleton.mp last]
      refine ⟨[name], List.cons_ne_nil _ _, ?_, own⟩
      intro other among
      rwa [List.mem_singleton.mp among]

theorem Completes.failing (error : WalkError) (notes : List Log.Note) (seen : List String) :
    (Visit.failing error notes seen).Completes Q parts := by
  refine ⟨fun _ record member => ?_, fun success => ?_⟩
  · cases member
  · cases success

theorem SameOutcome.completes {other : Visit} (same : visit.SameOutcome other)
    (whole : other.Completes Q parts) : visit.Completes Q parts := by
  obtain ⟨before, after⟩ := whole
  rw [← same.failure, ← same.records] at before after
  exact ⟨before, after⟩

end Visit

section Walks

variable {view : FileView} {f : String → List String → List String → Visit}
  {P Q : String → Prop} {allowFaults : Bool}

/-- Once the files of `seen` have been seen, what is visited of a module file is nested in the
module that declares it, as far as the files that are added have a property. -/
def NestsFrom (P Q : String → Prop) (seen : List String)
    (f : String → List String → List String → Visit) : Prop :=
  ∀ path parts name later, seen ⊆ later → (f path (parts ++ [name]) later).AddsOnly P later →
    Q name → (f path (parts ++ [name]) later).Nests Q parts

theorem NestsFrom.mono {seen later : List String} (nests : NestsFrom P Q seen f)
    (more : seen ⊆ later) : NestsFrom P Q later f :=
  fun path parts name last after => nests path parts name last (List.Subset.trans more after)

/-- The entries of a body nest under it, if the visits of their files complete. -/
theorem visitEntries_nests (grows : Grows f) (file : String) (body : List Entry) :
    ∀ parts base seen, NestsFrom P Q seen f → (∀ name ∈ moduleNames body, Q name) →
      (visitEntries view f file parts base body seen).AddsOnly P seen →
      (visitEntries view f file parts base body seen).Nests Q parts := by
  induction body using Entry.bodyInduction with
  | nil =>
    intro parts base seen _ _ _
    rw [visitEntries_nil]
    exact .of_records rfl
  | item contribution rest ih =>
    intro parts base seen nests names adds
    rw [moduleNames_item] at names
    rw [visitEntries_item] at adds ⊢
    exact (Visit.Nests.of_records rfl).andThen fun _ =>
      ih parts base seen nests names (adds.rest (List.Subset.refl _) rfl)
  | inlineModule name body rest inner ih =>
    intro parts base seen nests names adds
    rw [moduleNames_inlineModule] at names
    rw [visitEntries_inlineModule] at adds ⊢
    have started : seen ⊆
        (visitBody view f file (parts ++ [name]) (Path.join base name) body seen).seen :=
      grows.visitBody _ _ _ _ _
    have own := adds.start (grows.visitEntries file rest parts base _)
    have inside : ∀ other ∈ moduleNames body, Q other := fun other member =>
      names other (List.mem_cons_of_mem _ (List.mem_append_left _ member))
    -- The record of the module comes behind those of its entries, which therefore find it later.
    have whole : (visitBody view f file (parts ++ [name]) (Path.join base name) body seen).Completes
        Q (parts ++ [name]) := by
      rw [visitBody] at own ⊢
      exact (inner _ _ seen nests inside (own.start (List.Subset.refl _))).completes rfl
    refine (whole.nests (names name (List.mem_cons_self ..))).andThen fun success => ?_
    refine ih parts base _ (nests.mono started) ?_ (adds.rest started success)
    intro other member
    exact names other (List.mem_cons_of_mem _ (List.mem_append_right _ member))
  | fileModule name rest ih =>
    intro parts base seen nests names adds
    rw [moduleNames_fileModule] at names
    rw [visitEntries_fileModule] at adds ⊢
    cases found : moduleFile? view base name with
    | none =>
      exact (Visit.Nests.of_records rfl).andThen fun success => by cases success
    | some path =>
      rw [found] at adds
      have started := grows path (parts ++ [name]) seen
      have own := adds.start (grows.visitEntries file rest parts base _)
      refine (nests path parts name seen (List.Subset.refl _) own
        (names name (List.mem_cons_self ..))).andThen fun success => ?_
      refine ih parts base _ (nests.mono started) ?_ (adds.rest started success)
      intro other member
      exact names other (List.mem_cons_of_mem _ member)

/-- The visit of a body completes with its own record last. -/
theorem visitBody_completes (grows : Grows f) {file : String} {parts : List String} {base : String}
    {body : List Entry} {seen : List String} (nests : NestsFrom P Q seen f)
    (names : ∀ name ∈ moduleNames body, Q name)
    (adds : (visitBody view f file parts base body seen).AddsOnly P seen) :
    (visitBody view f file parts base body seen).Completes Q parts := by
  rw [visitBody] at adds ⊢
  exact (visitEntries_nests grows file body parts base seen nests names
    (adds.start (List.Subset.refl _))).completes rfl

/-- The public modules of a file have names with a property. -/
def FileView.Names (view : FileView) (Q : String → Prop) (file : String) : Prop :=
  ∀ source, view.read file = .ok source → ∀ name ∈ moduleNames source.root.outline, Q name

/-- A visit of a path brings a whole module, unless its file was seen before. -/
theorem visitPath_completes {path : String} {parts seen : List String} (grows : Grows f)
    (nests : ∀ file source, file ∉ seen → view.read file = .ok source →
      NestsFrom (view.Names Q) Q (seen ++ [file]) f)
    (adds : (visitPath view f allowFaults path parts seen).AddsOnly (view.Names Q) seen) :
    (∃ file ∈ seen, view.canonical path = .ok file ∧
      (visitPath view f allowFaults path parts seen).records = []) ∨
    (visitPath view f allowFaults path parts seen).Completes Q parts := by
  cases here : view.canonical path with
  | error fault =>
    right
    simp only [visitPath, here]
    exact .failing _ _ _
  | ok file =>
    by_cases old : file ∈ seen
    · left
      refine ⟨file, old, rfl, ?_⟩
      simp only [visitPath, here, if_pos old]
      rfl
    · right
      have named : view.Names Q file := adds file (visitPath_marks grows here old) old
      cases opening : (openSource allowFaults file (view.read file)).2 with
      | error error => exact (visitPath_refused here old opening).completes (.failing _ _ _)
      | ok source =>
        have same : (visitPath view f allowFaults path parts seen).SameOutcome
            (visitBody view f file parts (moduleBase file) source.root.outline (seen ++ [file])) :=
          visitPath_opened here old opening
        have read := (openSource_eq_ok opening).1
        refine same.completes (visitBody_completes grows (nests file source old read)
          (named source read) ?_)
        intro added member new
        rw [← same.seen] at member
        exact adds added member fun known => new (List.mem_append_left _ known)

/-- A walk opens nothing that was seen before, or completes the module of its file. -/
theorem walk_completes (path : String) (parts seen : List String) :
    (walk view allowFaults path parts seen).AddsOnly (view.Names Q) seen →
      (∃ file ∈ seen, view.canonical path = .ok file ∧
        (walk view allowFaults path parts seen).records = []) ∨
      (walk view allowFaults path parts seen).Completes Q parts := by
  induction path, parts, seen using walk_induction view with
  | step path parts seen nested =>
    intro adds
    rw [walk_eq] at adds ⊢
    refine visitPath_completes (walk_grows view allowFaults) ?_ adds
    intro file source new read path' parts' name later more added named
    rcases nested file source new read path' (parts' ++ [name]) later more added with
      ⟨_, _, _, none⟩ | whole
    · exact .of_records none
    · exact whole.nests named

end Walks

end CrateSurface
