import CrateSurface.Proofs.Calls

namespace CrateSurface

namespace Node

/-- No public module in a file of its own is declared among the items or inside their public inline
modules. -/
def DeclaresNothing (items : List Node) : Prop :=
  ∀ names n, Nested items names n → ¬ n.IsFileModule

/-- The first declaration of a public module in a file of its own, where the items are gone through
in source order and each public inline module is gone through before what follows it. -/
inductive FirstFileModule : List Node → List String → Node → Prop
  | here {n : Node} {rest : List Node} : n.IsFileModule → FirstFileModule (n :: rest) [] n
  | inside {outer body n : Node} {rest : List Node} {names : List String} :
      outer.inlineBody? = some body → FirstFileModule body.namedChildren names n →
      FirstFileModule (outer :: rest) (outer.nameText :: names) n
  | later {first n : Node} {rest : List Node} {names : List String} :
      DeclaresNothing [first] → FirstFileModule rest names n →
      FirstFileModule (first :: rest) names n

section Nesting

variable {n m outer body : Node} {rest : List Node} {names : List String}

theorem nested_cons_iff :
    Nested (n :: rest) names m ↔ Nested [n] names m ∨ Nested rest names m := by
  constructor
  · rintro (member | ⟨member, found, nested⟩)
    · rcases List.mem_cons.mp member with rfl | later
      · exact Or.inl (.here (List.mem_singleton_self _))
      · exact Or.inr (.here later)
    · rcases List.mem_cons.mp member with rfl | later
      · exact Or.inl (.inside (List.mem_singleton_self _) found nested)
      · exact Or.inr (.inside later found nested)
  · rintro (nested | nested)
    · rcases nested with member | ⟨member, found, nested⟩
      · exact .here (List.mem_cons.mpr (Or.inl (List.mem_singleton.mp member)))
      · exact .inside (List.mem_cons.mpr (Or.inl (List.mem_singleton.mp member))) found nested
    · rcases nested with member | ⟨member, found, nested⟩
      · exact .here (List.mem_cons_of_mem _ member)
      · exact .inside (List.mem_cons_of_mem _ member) found nested

theorem declaresNothing_cons :
    DeclaresNothing (n :: rest) ↔ DeclaresNothing [n] ∧ DeclaresNothing rest := by
  constructor
  · intro nothing
    exact ⟨fun names m nested => nothing names m (nested_cons_iff.mpr (Or.inl nested)),
      fun names m nested => nothing names m (nested_cons_iff.mpr (Or.inr nested))⟩
  · rintro ⟨here, later⟩ names m nested
    exact (nested_cons_iff.mp nested).elim (here names m) (later names m)

theorem declaresNothing_of_passed (noBody : n.inlineBody? = none) (notDeclared : ¬ n.IsFileModule) :
    DeclaresNothing [n] := by
  intro names m nested
  cases nested with
  | here member => rwa [List.mem_singleton.mp member]
  | inside member found =>
    rw [List.mem_singleton.mp member, noBody] at found
    cases found

/-- An inline module declares nothing if its body does not. -/
theorem declaresNothing_inline (found : n.inlineBody? = some body) :
    DeclaresNothing [n] ↔ DeclaresNothing body.namedChildren := by
  constructor
  · intro nothing names m nested
    exact nothing _ m (.inside (List.mem_singleton_self _) found nested)
  · intro nothing names m nested declared
    cases nested with
    | here member =>
      rw [List.mem_singleton.mp member] at declared
      rw [declared.inlineBody?] at found
      cases found
    | inside member same nested =>
      rw [List.mem_singleton.mp member, found] at same
      cases same
      exact nothing _ m nested declared

theorem FirstFileModule.not_declaresNothing (first : FirstFileModule rest names n) :
    ¬ DeclaresNothing rest := by
  induction first with
  | here declared => exact fun nothing => nothing [] _ (.here (List.mem_cons_self ..)) declared
  | inside found _ ih =>
    exact fun nothing => ih ((declaresNothing_inline found).mp (declaresNothing_cons.mp nothing).1)
  | later _ _ ih => exact fun nothing => ih (declaresNothing_cons.mp nothing).2

/-- There is one first declaration. -/
theorem FirstFileModule.unique {others : List String} (first : FirstFileModule rest names n)
    (other : FirstFileModule rest others m) : names = others ∧ n = m := by
  induction first generalizing others m with
  | here declared =>
    cases other with
    | here => exact ⟨rfl, rfl⟩
    | inside found =>
      rw [declared.inlineBody?] at found
      cases found
    | later nothing => exact absurd declared (nothing [] _ (.here (List.mem_singleton_self _)))
  | inside found inner ih =>
    cases other with
    | here declared =>
      rw [declared.inlineBody?] at found
      cases found
    | inside same others =>
      rw [found] at same
      cases same
      obtain ⟨rfl, rfl⟩ := ih others
      exact ⟨rfl, rfl⟩
    | later nothing =>
      exact absurd ((declaresNothing_inline found).mp nothing) inner.not_declaresNothing
  | later nothing _ ih =>
    cases other with
    | here declared => exact absurd declared (nothing [] _ (.here (List.mem_singleton_self _)))
    | inside found inner =>
      exact absurd ((declaresNothing_inline found).mp nothing) inner.not_declaresNothing
    | later _ other => exact ih other

end Nesting

end Node

section Failure

variable {view : FileView} {allowFaults : Bool}

/-- How a way through items ends of which no declared module has a file: without an error if
nothing is declared, and else at the first declaration. -/
inductive FailsAtFirst (base : String) (items : List Node) : Option WalkError → Prop
  | nothing : Node.DeclaresNothing items → FailsAtFirst base items none
  | first {names : List String} {n : Node} : Node.FirstFileModule items names n →
      FailsAtFirst base items (some (.unresolved n.nameText (names.foldl Path.join base)))

/-- No module that the items declare has a file. -/
def FileView.Lacks (view : FileView) (base : String) (items : List Node) : Prop :=
  ∀ names n, Node.Nested items names n → n.IsFileModule →
    moduleFile? view (names.foldl Path.join base) n.nameText = none

/-- Where the files of modules are missing, those of the modules inside are missing too. -/
theorem FileView.Lacks.inside {base : String} {items : List Node} {n inner : Node}
    (lacks : view.Lacks base items) (member : n ∈ items) (found : n.inlineBody? = some inner) :
    view.Lacks (Path.join base n.nameText) inner.namedChildren :=
  fun names m nested => lacks (n.nameText :: names) m (.inside member found nested)

theorem FailsAtFirst.cons_of_nothing {base : String} {n : Node} {rest : List Node}
    {failure : Option WalkError} (nothing : Node.DeclaresNothing [n])
    (fails : FailsAtFirst base rest failure) : FailsAtFirst base (n :: rest) failure := by
  cases fails with
  | nothing later => exact .nothing (Node.declaresNothing_cons.mpr ⟨nothing, later⟩)
  | first first => exact .first (.later nothing first)

/-- The items of a body end at the first one that declares something, if the bodies nested in them
do. -/
theorem items_failsAtFirst {label base : String} {parts : List String} {root : Node}
    {progress : Progress} (lacks : view.Lacks base root.namedChildren)
    (nested : ∀ n ∈ root.namedChildren, ∀ inner, n.inlineBody? = some inner → ∀ reached,
      FailsAtFirst (Path.join base n.nameText) inner.namedChildren (collect view allowFaults
        (.body label (parts ++ [n.nameText]) (Path.join base n.nameText) inner reached)).failure) :
    FailsAtFirst base root.namedChildren (Call.items view (collect view allowFaults) label parts
      base root.namedChildren progress).failure := by
  refine items_induction label parts base root progress (motive := fun rest _ outcome =>
    rest ⊆ root.namedChildren → FailsAtFirst base rest outcome.failure) ?_ ?_ (List.Subset.refl _)
  · intro reached _
    refine .nothing fun names n inside => ?_
    rcases inside with member | ⟨member, _, _⟩ <;> cases member
  · intro n rest reached outcome visit later among
    have member : n ∈ root.namedChildren := among (List.mem_cons_self ..)
    have others := fun success => later success (List.subset_of_cons_subset among)
    cases visit with
    | passed noBody notDeclared =>
      exact (others rfl).cons_of_nothing (Node.declaresNothing_of_passed noBody notDeclared)
    | unresolved declared _ => exact .first (.here declared)
    | declared declared found _ =>
      have none : moduleFile? view base n.nameText = none := lacks [] n (.here member) declared
      rw [none] at found
      cases found
    | @inline inner found _ =>
      have fails := nested n member inner found reached
      unfold Outcome.andThen
      generalize collect view allowFaults (.body label (parts ++ [n.nameText])
        (Path.join base n.nameText) inner reached) = outcome at fails others ⊢
      obtain ⟨done, failure⟩ := outcome
      cases fails with
      | nothing nothing =>
        exact (others rfl).cons_of_nothing ((Node.declaresNothing_inline found).mpr nothing)
      | first first => exact .first (.inside found first)

/-- The walk of a body fails at its first declaration, if the files of its modules are missing. -/
theorem collect_failsAtFirst (root : Node) (label : String) (parts : List String) (base : String)
    (progress : Progress) (lacks : view.Lacks base root.namedChildren) :
    FailsAtFirst base root.namedChildren
      (collect view allowFaults (.body label parts base root progress)).failure := by
  induction size : root.size using Nat.strong_induction_on
    generalizing root parts base progress with
  | _ bound nested =>
    subst size
    have items : FailsAtFirst base root.namedChildren (Call.items view (collect view allowFaults)
        label parts base root.namedChildren progress).failure := by
      refine items_failsAtFirst lacks ?_
      intro n member inner found reached
      have smaller := (Node.size_lt_of_inlineBody? found).trans
        (Node.size_lt_of_mem_children (Node.mem_children_of_mem_namedChildren member))
      exact nested _ smaller inner _ _ reached (lacks.inside member found) rfl
    rw [collect_eq_step, Call.step]
    unfold Outcome.andThen
    split
    · exact items
    · rename_i success
      rwa [success] at items

/-- A module has no file if neither of its two paths exists. -/
theorem moduleFile?_eq_none_iff {base name : String} :
    moduleFile? view base name = none ↔
      view.pathExists (Path.join base (name ++ ".rs")) = false ∧
        view.pathExists (Path.join (Path.join base name) "mod.rs") = false := by
  simp only [moduleFile?]
  split
  · simp_all
  · split <;> simp_all

end Failure

namespace Node

theorem ownTokens_ne_empty {text : Option String} {token : String}
    (member : token ∈ ownTokens text) : token ≠ "" := by
  simp only [ownTokens] at member
  split at member
  · cases member
  · rename_i full
    rw [List.mem_singleton.mp member]
    simpa using full

mutual

/-- Every token of a tree is the text of one of its leaves. -/
theorem exists_of_mem_tokens (token : String) :
    ∀ n : Node, token ∈ n.tokens → ∃ text, token ∈ ownTokens text
  | ⟨kind, text, _, _, _, _, children⟩, member => by
    rw [tokens] at member
    split at member
    · cases member
    · split at member
      · exact ⟨text, member⟩
      · exact exists_of_mem_tokensOf token children member

theorem exists_of_mem_tokensOf (token : String) :
    ∀ trees : List Node, token ∈ tokensOf trees → ∃ text, token ∈ ownTokens text
  | [], member => by rw [tokensOf] at member; cases member
  | n :: rest, member => by
    rw [tokensOf] at member
    rcases List.mem_append.mp member with here | later
    · exact exists_of_mem_tokens token n here
    · exact exists_of_mem_tokensOf token rest later

end

/-- No token of a tree is empty. -/
theorem tokens_ne_empty (token : String) (n : Node) (member : token ∈ n.tokens) : token ≠ "" := by
  obtain ⟨text, own⟩ := exists_of_mem_tokens token n member
  exact ownTokens_ne_empty own

end Node

namespace Spelling

/-- The spelling does not look into an empty token where there is none. -/
theorem looksIntoEmpty_of_ne_empty (tokens : List String) (full : ∀ token ∈ tokens, token ≠ "") :
    looksIntoEmpty tokens = false := by
  fun_induction looksIntoEmpty tokens with
  | case1 before token rest ih =>
    have here : (before == "") = false := by simp [full before (List.mem_cons_self ..)]
    rw [here, Bool.false_and, Bool.false_or]
    exact ih fun other member => full other (List.mem_cons_of_mem _ member)
  | case2 => rfl

/-- The canonical text of a tree never hangs on the last character of an empty token. -/
theorem join?_tokens (n : Node) : join? n.tokens = some n.render := by
  rw [join?, looksIntoEmpty_of_ne_empty _ fun token => n.tokens_ne_empty token]
  rfl

end Spelling

/-- Where no declared module has a file, the way through a module body fails exactly if a public
module without a body is declared at its top level or inside public inline modules. The error names
the first such declaration and the directory of the inline modules around it, and there is no other
way to fail: the tokens of every tree have a spelling. -/
theorem walkBody_fails_at_first {view : FileView} {base : String} {root : Node} (allowFaults : Bool)
    (label : String) (parts seen : List String)
    (absent : ∀ names n, Node.Nested root.namedChildren names n → n.IsFileModule →
      view.pathExists (Path.join (names.foldl Path.join base) (n.nameText ++ ".rs")) = false ∧
        view.pathExists
          (Path.join (Path.join (names.foldl Path.join base) n.nameText) "mod.rs") = false) :
    let visit := walkBody view allowFaults label parts base root.outline seen
    (visit.failure.isSome = true ↔
      ∃ names n, Node.Nested root.namedChildren names n ∧ n.IsFileModule) ∧
    (∀ error, visit.failure = some error ↔
      ∃ names n, Node.FirstFileModule root.namedChildren names n ∧
        error = .unresolved n.nameText (names.foldl Path.join base)) ∧
    ∀ n : Node, (∀ token ∈ n.tokens, token ≠ "") ∧ Spelling.join? n.tokens = some n.render := by
  intro visit
  have lacks : view.Lacks base root.namedChildren := fun names n nested declared =>
    moduleFile?_eq_none_iff.mpr (absent names n nested declared)
  have fails : FailsAtFirst base root.namedChildren visit.failure :=
    collect_failsAtFirst root label parts base ⟨[], seen, []⟩ lacks
  generalize visit.failure = failure at fails ⊢
  refine ⟨?_, ?_, fun n => ⟨fun token => n.tokens_ne_empty token, Spelling.join?_tokens n⟩⟩
  · cases fails with
    | nothing nothing =>
      refine ⟨(by intro failed; cases failed), ?_⟩
      rintro ⟨names, n, nested, declared⟩
      exact absurd declared (nothing names n nested)
    | first first =>
      refine ⟨fun _ => ?_, fun _ => rfl⟩
      by_contra nothing
      exact first.not_declaresNothing fun names n nested declared =>
        nothing ⟨names, n, nested, declared⟩
  · intro error
    constructor
    · rintro rfl
      cases fails with
      | first first => exact ⟨_, _, first, rfl⟩
    · rintro ⟨names, n, first, rfl⟩
      cases fails with
      | nothing nothing => exact absurd nothing first.not_declaresNothing
      | first other =>
        obtain ⟨rfl, rfl⟩ := other.unique first
        rfl

namespace NestedDeclaration

open Node (branch nameLeaf leaf)

/-- A private declaration. -/
def hidden : Node :=
  branch "mod_item" none [nameLeaf "hidden"]

/-- A body with a declaration. -/
def body : Node :=
  branch "declaration_list" (some "body") [.declaring "inner"]

/-- An inline module with a declaration inside. -/
def outer : Node :=
  branch "mod_item" none [leaf "visibility_modifier" "pub", nameLeaf "outer", body]

/-- A file with a private declaration, one inside a module, and one behind it. -/
def root : Node :=
  branch "source_file" none [hidden, outer, .declaring "last"]

theorem nothing_read (path : String) (source : Source)
    (read : (.error (.path (.system .notFound path)) : Except ReadFault Source) = .ok source) :
    path ∈ ([] : List String) := by
  cases read

/-- A file system without any files. -/
def view : FileView where
  workdir := "/"
  files := []
  pathExists _ := false
  isFile _ := false
  canonical path := .error (.system .notFound path)
  read path := .error (.path (.system .notFound path))
  read_mem := nothing_read

theorem hidden_declaresNothing : Node.DeclaresNothing [hidden] :=
  Node.declaresNothing_of_passed rfl fun declared => by cases declared.isPublic

theorem outer_inlineBody? : outer.inlineBody? = some body := by
  have here : (outer.kind == "mod_item" && outer.isPublic) = true := by decide +kernel
  rw [Node.inlineBody?, if_pos here]
  simp [outer, branch, Node.childByField?, leaf, nameLeaf, body]

end NestedDeclaration

section

open NestedDeclaration

/-- A declaration inside an inline module fails before a later one outside of it. -/
theorem nested_declaration_fails_first :
    (walkBody view false "lib.rs" [] "/src" root.outline []).failure =
      some (.unresolved "inner" "/src/outer") := by
  have absent : ∀ names n, Node.Nested root.namedChildren names n → n.IsFileModule →
      view.pathExists (Path.join (names.foldl Path.join "/src") (n.nameText ++ ".rs")) = false ∧
        view.pathExists
          (Path.join (Path.join (names.foldl Path.join "/src") n.nameText) "mod.rs") = false :=
    fun _ _ _ _ => ⟨rfl, rfl⟩
  have first : Node.FirstFileModule root.namedChildren [outer.nameText]
      (.declaring "inner") :=
    .later hidden_declaresNothing
      (.inside outer_inlineBody? (.here (Node.declaring_isFileModule "inner")))
  have fails := (walkBody_fails_at_first false "lib.rs" [] [] absent).2.1
  exact (fails _).mpr ⟨_, _, first, by decide +kernel⟩

end

end CrateSurface
