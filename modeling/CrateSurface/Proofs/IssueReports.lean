import CrateSurface.Proofs.IssueCensus
import Mathlib.Data.List.Nodup
import Mathlib.Data.List.Perm.Subperm

namespace CrateSurface

/-- What messages call the items that own generic parameters. -/
def ownerLabels : List (Owner × String) :=
  [(.function, "Function"), (.struct, "Struct"), (.enum, "Enum"), (.trait, "Trait")]

/-- An issue states a finding: it stands in the file of the construct, under the kind and with the
reason that belong to the cause, and shows the construct. -/
inductive States (file : String) : Issue String → Finding → Prop
  | lifetime {owner : Owner} {label : String} (name snippet : String) : (owner, label) ∈ ownerLabels →
      States file ⟨file, "generic", snippet,
        label ++ " '" ++ name ++ "' lifetime generic parameters are not representable in " ++
          "generated facades and were skipped."⟩ ⟨.lifetimeParameter owner name, snippet⟩
  | const {owner : Owner} {label : String} (name snippet : String) : (owner, label) ∈ ownerLabels →
      States file ⟨file, "generic", snippet,
        label ++ " '" ++ name ++ "' const generic parameters are not representable in " ++
          "generated facades and were skipped."⟩ ⟨.constParameter owner name, snippet⟩
  | pattern (snippet : String) :
      States file ⟨file, "param", snippet,
        "Non-identifier function parameters are not representable in generated facades and were " ++
          "replaced by an 'unsupported' name."⟩ ⟨.parameterPattern, snippet⟩
  | tuple (snippet : String) :
      States file ⟨file, "struct", snippet,
        "Tuple structs are not representable as facade class fields and were emitted without fields."⟩
        ⟨.tupleStruct, snippet⟩
  | payload (snippet : String) :
      States file ⟨file, "enum", snippet,
        "Enum variants with payload fields are currently represented as unit variants in generated " ++
          "facades."⟩ ⟨.variantPayload, snippet⟩
  | member (snippet : String) :
      States file ⟨file, "trait", snippet, "Unsupported trait member kind was skipped."⟩
        ⟨.traitMember, snippet⟩
  | target (snippet : String) :
      States file ⟨file, "impl", snippet,
        "Unsupported impl target (expected a nominal path type)."⟩ ⟨.implTarget, snippet⟩
  | nameless (snippet : String) :
      States file ⟨file, "macro", snippet,
        "Encountered #[macro_export] macro without a stable name."⟩ ⟨.namelessMacro, snippet⟩

/-- The issues of a record state one finding for each pair of a relation, in source order. -/
def Reports (file : String) (issues : List (Issue String)) (R : Place → Finding → Prop) : Prop :=
  ∃ findings, Enumerates findings R ∧ List.Forall₂ (States file) issues findings

theorem label_mem_ownerLabels (owner : Owner) : (owner, owner.label) ∈ ownerLabels := by
  cases owner <;> decide

theorem label_of_mem {owner : Owner} {label : String} (member : (owner, label) ∈ ownerLabels) :
    owner.label = label := by
  cases owner <;> simpa [ownerLabels, Owner.label, eq_comm] using member

/-- The issue that is made for a finding states it. -/
theorem states_issue (file : String) (f : Finding) : States file (f.issue file) f := by
  obtain ⟨cause, snippet⟩ := f
  cases cause with
  | lifetimeParameter owner name => exact .lifetime name snippet (label_mem_ownerLabels owner)
  | constParameter owner name => exact .const name snippet (label_mem_ownerLabels owner)
  | parameterPattern => exact .pattern snippet
  | tupleStruct => exact .tuple snippet
  | variantPayload => exact .payload snippet
  | traitMember => exact .member snippet
  | implTarget => exact .target snippet
  | namelessMacro => exact .nameless snippet

/-- One issue at most states a finding. -/
theorem States.unique {file : String} {first second : Issue String} {f : Finding}
    (one : States file first f) (other : States file second f) : first = second := by
  cases one with
  | lifetime name snippet labelled =>
    cases other with
    | lifetime _ _ labelledToo => rw [← label_of_mem labelled, ← label_of_mem labelledToo]
  | const name snippet labelled =>
    cases other with
    | const _ _ labelledToo => rw [← label_of_mem labelled, ← label_of_mem labelledToo]
  | _ =>
    cases other
    rfl

/-- An issue states a finding if and only if it is the one that is made of it. -/
theorem states_iff {file : String} {issue : Issue String} {f : Finding} :
    States file issue f ↔ issue = f.issue file :=
  ⟨fun states => states.unique (states_issue file f), fun same => same ▸ states_issue file f⟩

/-- The issues that state findings are those that are made for them. -/
theorem forall₂_states_iff {file : String} {issues : List (Issue String)} {findings : List Finding} :
    List.Forall₂ (States file) issues findings ↔ issues = findings.map (Finding.issue file) := by
  have same : States file = fun issue f => issue = f.issue file :=
    funext fun issue => funext fun f => propext states_iff
  rw [same, ← List.forall₂_eq_eq_eq, List.forall₂_map_right_iff]

theorem Census.nodup {R : Place → Finding → Prop} (census : Census R) : census.entries.Nodup :=
  List.Nodup.of_map Prod.fst (census.ordered.imp fun less => ne_of_lt less)

/-- Of two relations that the same issues report, one has no more findings of a kind than the
other. -/
theorem Reports.of_kind {file : String} {issues : List (Issue String)}
    {R S : Place → Finding → Prop} (first : Reports file issues R) (second : Reports file issues S)
    {kind : String} (within : ∀ place f, f.cause.kind = kind → S place f → R place f) :
    ∀ place f, f.cause.kind = kind → R place f → S place f := by
  obtain ⟨_, ⟨r, rfl⟩, left⟩ := first
  obtain ⟨_, ⟨s, rfl⟩, right⟩ := second
  rw [forall₂_states_iff] at left right
  let ofKind : Place × Finding → Bool := fun entry => entry.2.cause.kind == kind
  have counted : ∀ entries : List (Place × Finding),
      (entries.filter ofKind).length =
        (((entries.map Prod.snd).map (Finding.issue file)).filter (·.kind == kind)).length := by
    intro entries
    rw [List.map_map, List.filter_map, List.length_map]
    rfl
  have inside : s.entries.filter ofKind ⊆ r.entries.filter ofKind := by
    rintro ⟨place, f⟩ member
    obtain ⟨among, own⟩ := List.mem_filter.mp member
    exact List.mem_filter.mpr ⟨(r.mem_iff place f).mpr
      (within place f (beq_iff_eq.mp own) ((s.mem_iff place f).mp among)), own⟩
  have same : (s.entries.filter ofKind).length = (r.entries.filter ofKind).length := by
    rw [counted, counted, ← left, ← right]
  -- No entry is there twice, so that a part of the same length is the whole.
  have perm := (List.subperm_of_subset (s.nodup.filter _) inside).perm_of_length_le same.ge
  intro place f own holds
  have member : (place, f) ∈ r.entries.filter ofKind :=
    List.mem_filter.mpr ⟨(r.mem_iff place f).mpr holds, beq_iff_eq.mpr own⟩
  exact (s.mem_iff place f).mp (List.mem_filter.mp (perm.mem_iff.mpr member)).1

namespace Node

/-- The reading in which comments do not count. -/
def apartFromComments : Node → Bool :=
  fun n => !n.isComment

/-- The functions and methods that a module body shows. -/
inductive Surfaced (items : List Node) : Node → Prop
  | function {n : Node} : n ∈ items → n.kind = "function_item" → n.isPublic = true →
      Surfaced items n
  | traitMethod {item member : Node} : item ∈ items → item.kind = "trait_item" →
      item.isPublic = true → member ∈ item.members →
      member.kind = "function_item" ∨ member.kind = "function_signature_item" →
      Surfaced items member
  | implMethod {item type member : Node} : item ∈ items → item.kind = "impl_item" →
      item.childByField? "trait" = none → item.childByField? "type" = some type → NamesType type →
      member ∈ item.members → member.kind = "function_item" → member.isPublic = true →
      Surfaced items member

/-- A comment that changes what is reported: it stands in a wrapper around a plain name of a
parameter, or in a statement beside an exported call of a macro. -/
inductive CommentMisleads (items : List Node) : Prop
  | param {callable list param pattern : Node} : Surfaced items callable →
      callable.childByField? "parameters" = some list → param ∈ list.namedChildren →
      param.kind = "parameter" → param.childByField? "pattern" = some pattern →
      PlainBinding apartFromComments pattern → ¬ PlainBinding everything pattern →
      CommentMisleads items
  | statement {i : Nat} {item inner : Node} : items[i]? = some item →
      MacroExport (items.take i).reverse → item.kind = "expression_statement" →
      item.namedChildren.filter apartFromComments = [inner] → inner.kind = "macro_invocation" →
      item.namedChildren ≠ [inner] → CommentMisleads items

section Readings

variable {n item param : Node} {f : Finding}

theorem PlainBinding.kind {counts : Node → Bool} (plain : PlainBinding counts n) :
    n.kind = "identifier" ∨ n.kind = "mut_pattern" ∨ n.kind = "ref_pattern" := by
  cases plain with
  | identifier kind => exact Or.inl kind
  | wrapped kind _ _ => exact Or.inr kind

theorem PlainBinding.apart (plain : PlainBinding everything n) : PlainBinding apartFromComments n := by
  induction plain with
  | identifier kind => exact .identifier kind
  | @wrapped n inner kind only plain ih =>
    refine .wrapped kind ?_ ih
    have counted : apartFromComments inner = true := by
      rcases plain.kind with kind | kind | kind <;> simp [apartFromComments, isComment, kind]
    have all : (n.namedChildren.filter fun child => child.kind != "mutable_specifier") = [inner] := by
      simpa [everything] using only
    have order : (fun child : Node => child.kind != "mutable_specifier" && apartFromComments child) =
        fun child => apartFromComments child && child.kind != "mutable_specifier" :=
      funext fun child => Bool.and_comm ..
    rw [order, ← List.filter_filter, all, List.filter_cons, counted]
    rfl

theorem NamelessMacro.apart {m : Node} (nameless : NamelessMacro everything item m) :
    NamelessMacro apartFromComments item m := by
  cases nameless with
  | definition kind name => exact .definition kind name
  | call kind => exact .call kind
  | statement kind only call =>
    rw [filter_everything] at only
    refine .statement kind ?_ call
    have counted : apartFromComments m = true := by simp [apartFromComments, isComment, call]
    rw [only, List.filter_cons, counted]
    rfl

/-- What is unsupported where comments do not count is so where they do. -/
theorem UnsupportedParam.strict (unsupported : UnsupportedParam apartFromComments param f) :
    UnsupportedParam everything param f := by
  cases unsupported with
  | pattern kind plain =>
    exact .pattern kind fun p found => ⟨(plain p found).1, fun own => (plain p found).2 own.apart⟩
  | bare other => exact .bare other

variable {items : List Node} {c d : Node → Bool} {place : Place}

/-- One reading leads to another where it does so for the parameters of surfaced functions and for
exported macros. -/
theorem UnsupportedIn.imp
    (params : ∀ callable list param, Surfaced items callable →
      callable.childByField? "parameters" = some list → param ∈ list.namedChildren →
      UnsupportedParam c param f → UnsupportedParam d param f)
    (macros : ∀ (i : Nat) item m, items[i]? = some item → MacroExport (items.take i).reverse →
      NamelessMacro c item m → f = ⟨.namelessMacro, m.render⟩ → NamelessMacro d item m)
    (unsupported : UnsupportedIn c items place f) : UnsupportedIn d items place f := by
  obtain ⟨i, item, rest, there, rfl, unsupported⟩ := unsupported
  have among : item ∈ items := List.mem_of_getElem? there
  have inCallable : ∀ {callable : Node} {place : Place}, Surfaced items callable →
      UnsupportedInCallable c callable place f → UnsupportedInCallable d callable place f := by
    intro callable place surfaced own
    cases own with
    | generic generic => exact .generic generic
    | param list found own =>
      exact .param list found (params _ _ _ surfaced list (List.mem_of_getElem? found) own)
  refine ⟨i, item, rest, there, rfl, ?_⟩
  cases unsupported with
  | function kind shown own => exact .function kind shown (inCallable (.function among kind shown) own)
  | struct kind shown own => exact .struct kind shown own
  | enum kind shown own => exact .enum kind shown own
  | trait kind shown own =>
    refine .trait kind shown ?_
    cases own with
    | generic generic => exact .generic generic
    | method found method own =>
      exact .method found method
        (inCallable (.traitMethod among kind shown (List.mem_of_getElem? found) method) own)
    | member found other => exact .member found other
  | impl kind inherent own =>
    refine .impl kind inherent ?_
    cases own with
    | target nameless => exact .target nameless
    | method type names found method shown own =>
      exact .method type names found method shown
        (inCallable (.implMethod among kind inherent type names (List.mem_of_getElem? found) method shown)
          own)
  | exported exported nameless => exact .exported exported (macros i item _ there exported nameless rfl)

/-- A surfaced function has a place of its own. -/
theorem Surfaced.exists_place {callable : Node} (surfaced : Surfaced items callable) :
    ∃ place : Place, ∀ counts rest f,
      UnsupportedIn counts items (place ++ rest) f ↔ UnsupportedInCallable counts callable rest f := by
  -- A place that begins with the index of an item speaks of that item only.
  have atItem : ∀ {item : Node} {i : Nat}, items[i]? = some item → ∀ counts rest f,
      UnsupportedIn counts items (i :: rest) f ↔
        Unsupported counts (items.take i).reverse item rest f := by
    intro item i there counts rest f
    constructor
    · rintro ⟨j, other, rest', found, same, unsupported⟩
      cases same
      rw [there] at found
      cases found
      exact unsupported
    · intro unsupported
      exact ⟨i, item, rest, there, rfl, unsupported⟩
  cases surfaced with
  | function among kind shown =>
    obtain ⟨i, there⟩ := List.getElem?_of_mem among
    refine ⟨[i], fun counts rest f => (atItem there counts rest f).trans ?_⟩
    simp [unsupported_iff, namelessMacro_iff, kind, shown]
  | @traitMethod item _ among kind shown own method =>
    obtain ⟨i, there⟩ := List.getElem?_of_mem among
    obtain ⟨k, found⟩ := List.getElem?_of_mem own
    refine ⟨[i, 1, k], fun counts rest f => (atItem there counts (1 :: k :: rest) f).trans ?_⟩
    have inTrait : Unsupported counts (items.take i).reverse item (1 :: k :: rest) f ↔
        UnsupportedInTrait counts item (1 :: k :: rest) f := by
      simp [unsupported_iff, namelessMacro_iff, kind, shown]
    rw [inTrait]
    constructor
    · intro unsupported
      cases unsupported with
      | method there _ own =>
        rw [found] at there
        cases there
        exact own
      | member there other =>
        rw [found] at there
        cases there
        rcases method with method | method <;> simp [method] at other
    · exact fun own => .method found method own
  | @implMethod item type _ among kind inherent target names own method isPublic =>
    obtain ⟨i, there⟩ := List.getElem?_of_mem among
    obtain ⟨k, found⟩ := List.getElem?_of_mem own
    refine ⟨[i, k], fun counts rest f => (atItem there counts (k :: rest) f).trans ?_⟩
    have inImpl : Unsupported counts (items.take i).reverse item (k :: rest) f ↔
        UnsupportedInImpl counts item (k :: rest) f := by
      simp [unsupported_iff, namelessMacro_iff, kind, inherent]
    rw [inImpl]
    constructor
    · intro unsupported
      cases unsupported with
      | method _ _ there _ _ own =>
        rw [found] at there
        cases there
        exact own
    · exact fun own => .method target names found method isPublic own

theorem UnsupportedInCallable.unsupportedParam {callable list : Node} {k : Nat}
    (unsupported : UnsupportedInCallable c callable [1, k] f)
    (there : callable.childByField? "parameters" = some list)
    (atParam : list.namedChildren[k]? = some param) : UnsupportedParam c param f := by
  cases unsupported with
  | param there' atParam' unsupported =>
    rw [there] at there'
    cases there'
    rw [atParam] at atParam'
    cases atParam'
    exact unsupported

theorem UnsupportedParam.not_plainBinding {pattern : Node} (unsupported : UnsupportedParam c param f)
    (kind : param.kind = "parameter") (found : param.childByField? "pattern" = some pattern) :
    ¬ PlainBinding c pattern := by
  cases unsupported with
  | pattern _ none => exact (none pattern found).2
  | bare other => simp [kind] at other

theorem UnsupportedParam.kind (unsupported : UnsupportedParam c param f) : f.cause.kind = "param" := by
  cases unsupported <;> rfl

/-- Where comments mislead, the two readings differ in a parameter or in a macro. -/
theorem CommentMisleads.differ (misleads : CommentMisleads items) :
    (∃ place f, f.cause.kind = "param" ∧ UnsupportedIn everything items place f ∧
      ¬ UnsupportedIn apartFromComments items place f) ∨
    ∃ place f, f.cause.kind = "macro" ∧ UnsupportedIn apartFromComments items place f ∧
      ¬ UnsupportedIn everything items place f := by
  cases misleads with
  | @param callable list param pattern surfaced there among kind found plain wrapped =>
    left
    obtain ⟨k, atParam⟩ := List.getElem?_of_mem among
    obtain ⟨place, atPlace⟩ := surfaced.exists_place
    have named : pattern.kind ≠ "self" := by
      rcases plain.kind with kind | kind | kind <;> simp [kind]
    refine ⟨place ++ [1, k], ⟨.parameterPattern, renderOption (param.childByField? "pattern")⟩, rfl,
      ?_, ?_⟩
    · rw [atPlace]
      refine .param there atParam (.pattern kind ?_)
      intro p same
      rw [found] at same
      cases same
      exact ⟨named, wrapped⟩
    · rw [atPlace]
      intro unsupported
      exact (unsupported.unsupportedParam there atParam).not_plainBinding kind found plain
  | @statement i item inner there exported kind only call more =>
    right
    refine ⟨[i], ⟨.namelessMacro, inner.render⟩, rfl, ?_, ?_⟩
    · exact ⟨i, item, [], there, rfl, .exported exported (.statement kind only call)⟩
    · rintro ⟨j, other, rest, found, same, unsupported⟩
      cases same
      rw [there] at found
      cases found
      simp [unsupported_iff, namelessMacro_iff, filter_everything, kind] at unsupported
      obtain ⟨_, m, ⟨alone, call'⟩, _⟩ := unsupported
      have counted : apartFromComments m = true := by simp [apartFromComments, isComment, call']
      rw [alone, List.filter_cons, counted] at only
      cases only
      exact more alone

/-- Where no comment misleads, the two readings are the same. -/
theorem unsupportedIn_iff (clear : ¬ CommentMisleads items) (place : Place) (f : Finding) :
    UnsupportedIn everything items place f ↔ UnsupportedIn apartFromComments items place f := by
  constructor
  · refine UnsupportedIn.imp ?_ fun i item m _ _ nameless _ => nameless.apart
    intro callable list param surfaced there among unsupported
    cases unsupported with
    | pattern kind none =>
      refine .pattern kind fun p found => ⟨(none p found).1, fun plain => ?_⟩
      exact clear (.param surfaced there among kind found plain (none p found).2)
    | bare other => exact .bare other
  · refine UnsupportedIn.imp (fun _ _ _ _ _ _ unsupported => unsupported.strict) ?_
    intro i item m there exported nameless _
    cases nameless with
    | definition kind name => exact .definition kind name
    | call kind => exact .call kind
    | statement kind only call =>
      by_cases alone : item.namedChildren = [m]
      · exact .statement kind (by rw [filter_everything, alone]) call
      · exact absurd (.statement there exported kind only call alone) clear

end Readings

end Node

section Records

open Node

/-- The issues of a record are exactly its unsupported constructs, each once and in source order,
where every child of a binding and of a statement counts. They are also exactly those where comments
do not count, if and only if no comment misleads. -/
theorem issues_report (file : String) (parts : List String) (body : Node) :
    Reports file (Module.ofBody file parts body.outline).issues
      (UnsupportedIn everything body.namedChildren) ∧
    (Reports file (Module.ofBody file parts body.outline).issues
        (UnsupportedIn apartFromComments body.namedChildren) ↔
      ¬ CommentMisleads body.namedChildren) := by
  have strict : Reports file (Module.ofBody file parts body.outline).issues
      (UnsupportedIn everything body.namedChildren) := ⟨_, outline_enumerates body, forall₂_states_iff.mpr rfl⟩
  refine ⟨strict, ?_, ?_⟩
  · intro lenient misleads
    rcases misleads.differ with ⟨place, f, kind, holds, fails⟩ | ⟨place, f, kind, holds, fails⟩
    · refine fails (strict.of_kind lenient ?_ place f kind holds)
      intro place f kind
      refine UnsupportedIn.imp (fun _ _ _ _ _ _ unsupported => unsupported.strict) ?_
      rintro i item m _ _ _ rfl
      change "macro" = "param" at kind
      exact absurd kind (by decide)
    · refine fails (lenient.of_kind strict ?_ place f kind holds)
      intro place f kind
      refine UnsupportedIn.imp ?_ fun i item m _ _ nameless _ => nameless.apart
      intro callable list param _ _ _ unsupported
      rw [unsupported.kind] at kind
      exact absurd kind (by decide)
  · intro clear
    obtain ⟨findings, enumerates, listed⟩ := strict
    exact ⟨findings, enumerates.congr (unsupportedIn_iff clear), listed⟩

namespace CommentedBinding

/-- The name of a parameter under `ref`, with a comment between the two. -/
def pattern : Node :=
  branch "ref_pattern" (some "pattern")
    [.token "ref", .leaf "block_comment" "/* c */", .leaf "identifier" "x"]

/-- The parameter, with its type. -/
def param : Node :=
  branch "parameter" none [pattern, .token ":", { Node.leaf "primitive_type" "u8" with field := some "type" }]

/-- The parameter in brackets. -/
def list : Node :=
  branch "parameters" (some "parameters") [.token "(", param, .token ")"]

/-- A public function with the parameter. -/
def function : Node :=
  branch "function_item" none [.leaf "visibility_modifier" "pub", .token "fn",
    nameLeaf "f", list, branch "block" (some "body") []]

/-- A file with the function. -/
def body : Node :=
  branch "source_file" none [function]

theorem not_plainBinding : ¬ PlainBinding everything pattern := by
  rw [← bindingName?_isSome_iff]
  decide

theorem commentMisleads : CommentMisleads body.namedChildren := by
  have surfaced : Surfaced body.namedChildren function :=
    .function (List.mem_singleton_self function) rfl rfl
  have there : function.childByField? "parameters" = some list := rfl
  have plain : PlainBinding apartFromComments pattern := .wrapped (Or.inr rfl) rfl (.identifier rfl)
  exact .param surfaced there (List.mem_singleton_self param) rfl rfl plain not_plainBinding

end CommentedBinding

theorem commented_binding_misreported :
    CommentMisleads CommentedBinding.body.namedChildren ∧
      ¬ Reports "lib.rs" (Module.ofBody "lib.rs" [] CommentedBinding.body.outline).issues
        (UnsupportedIn apartFromComments CommentedBinding.body.namedChildren) :=
  ⟨CommentedBinding.commentMisleads,
    fun reports => (issues_report "lib.rs" [] CommentedBinding.body).2.mp reports
      CommentedBinding.commentMisleads⟩

end Records

end CrateSurface
