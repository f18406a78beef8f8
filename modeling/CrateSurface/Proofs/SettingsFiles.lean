import CrateSurface.Proofs.ExtractionResults
import CrateSurface.Proofs.SortingTies
import CrateSurface.Settings

namespace CrateSurface.Settings

section Problems

variable {α β : Type}

/-- A session after problems were noted in it. -/
def noted (session : Log.Session) (problems : List Problem) : Log.Session :=
  problems.foldl (fun session problem => session.add problem.note) session

/-- What a task ends with if its first problem ends it. -/
def ended (problems : List Problem) (result : Except Failure α) : Except Failure α :=
  match problems with
  | [] => result
  | problem :: _ => .error (.invalid problem)

/-- A task meets problems. If they do not end it, it notes them and has a result; if settings have
to be right, the first of them ends it. -/
structure Meets (task : Bool → Log.Task Failure α) (problems : List Problem)
    (result : Except Failure α) : Prop where
  lenient (session : Log.Session) : (task false).run.run session = (result, noted session problems)
  strict (session : Log.Session) : (task true).run.run session = (ended problems result, session)

/-- A strict run ends over its first problem. -/
theorem ended_ok_eq_invalid_iff {problems : List Problem} {problem : Problem} {a : α} :
    ended problems (.ok a) = .error (.invalid problem) ↔ problems.head? = some problem := by
  cases problems with
  | nil => exact iff_of_false nofun nofun
  | cons first more => simp [ended]

theorem meets_pure (a : α) : Meets (fun _ => pure a) [] (.ok a) :=
  ⟨fun _ => rfl, fun _ => rfl⟩

theorem meets_throw (failure : Failure) : Meets (α := α) (fun _ => throw failure) [] (.error failure) :=
  ⟨fun _ => rfl, fun _ => rfl⟩

theorem meets_settle (problem : Problem) :
    Meets (fun strict => settle strict problem) [problem] (.ok ()) :=
  ⟨fun _ => rfl, fun _ => rfl⟩

variable {task : Bool → Log.Task Failure α} {next : Bool → α → Log.Task Failure β}
  {problems others : List Problem} {result : Except Failure β}

/-- Two tasks meet their problems one after the other. -/
theorem Meets.andThen {a : α} (first : Meets task problems (.ok a))
    (rest : Meets (fun strict => next strict a) others result) :
    Meets (fun strict => task strict >>= next strict) (problems ++ others) result where
  lenient session := by
    rw [Log.Task.run_bind, first.lenient]
    dsimp only
    rw [rest.lenient, noted, noted, noted, List.foldl_append]
  strict session := by
    rw [Log.Task.run_bind, first.strict]
    cases problems with
    | nil => exact rest.strict session
    | cons problem more => rfl

/-- What meets no further problem adds none. -/
theorem Meets.andThenQuietly {a : α} (first : Meets task problems (.ok a))
    (rest : Meets (fun strict => next strict a) [] result) :
    Meets (fun strict => task strict >>= next strict) problems result := by
  have whole := first.andThen rest
  rwa [List.append_nil] at whole

theorem Meets.stops {failure : Failure} (first : Meets task problems (.error failure))
    (next : Bool → α → Log.Task Failure β) :
    Meets (fun strict => task strict >>= next strict) problems (.error failure) where
  lenient session := by
    rw [Log.Task.run_bind, first.lenient]
  strict session := by
    rw [Log.Task.run_bind, first.strict]
    cases problems with
    | nil => rfl
    | cons problem more => rfl

end Problems

section Keys

variable {keys : List Value} {entries : List (Value × Value)}

/-- Whether a value is a text, with or without surrogates in it. -/
def isText : Value → Bool
  | .str _ => true
  | .illFormed _ => true
  | _ => false

/-- Whether all keys of a value are texts, if it is a mapping. -/
def hasTextKeys : Value → Bool
  | .map entries => entries.all fun entry => isText entry.1
  | _ => true

theorem isText_iff {value : Value} : isText value = true ↔
    (∃ name, value = .str name) ∨ ∃ text, value = .illFormed text := by
  constructor
  · intro text
    unfold isText at text
    split at text
    · exact Or.inl ⟨_, rfl⟩
    · exact Or.inr ⟨_, rfl⟩
    · cases text
  · rintro (⟨name, rfl⟩ | ⟨text, rfl⟩) <;> rfl

theorem ofName?_eq_some_iff {name : String} {key : Key} : Key.ofName? name = some key ↔ name = key.name := by
  constructor
  · intro found
    have passed : (key.name == name) = true :=
      List.find?_some (p := fun key : Key => key.name == name) found
    exact (beq_iff_eq.mp passed).symm
  · rintro rfl
    cases key <;> rfl

theorem ofValue?_eq_some_iff {value : Value} {key : Key} :
    Key.ofValue? value = some key ↔ value = .str key.name := by
  constructor
  · intro found
    unfold Key.ofValue? at found
    split at found
    · rw [ofName?_eq_some_iff.mp found]
    · cases found
  · rintro rfl
    exact ofName?_eq_some_iff.mpr rfl

/-- The known entries are those under the names of keys. -/
theorem mem_knownEntries {key : Key} {value : Value} :
    (key, value) ∈ knownEntries entries ↔ (.str key.name, value) ∈ entries := by
  unfold knownEntries
  rw [List.mem_filterMap]
  constructor
  · rintro ⟨⟨name, own⟩, member, found⟩
    obtain ⟨other, known, same⟩ := Option.map_eq_some_iff.mp found
    cases same
    rw [← ofValue?_eq_some_iff.mp known]
    exact member
  · intro member
    have known : Key.ofValue? (.str key.name) = some key := ofValue?_eq_some_iff.mpr rfl
    exact ⟨_, member, Option.map_eq_some_iff.mpr ⟨key, known, rfl⟩⟩

theorem hasTextKeys_of_notMap {value : Value} (notMap : ∀ entries, value ≠ .map entries) :
    hasTextKeys value = true := by
  unfold hasTextKeys
  split
  · exact absurd rfl (notMap _)
  · rfl

theorem keyText_succeeds_iff {key : Value} {index : Nat} :
    Succeeds (keyText key index) ↔ isText key = true := by
  rw [isText_iff]
  constructor
  · rintro ⟨name, found⟩
    unfold keyText at found
    split at found
    · exact Or.inl ⟨_, rfl⟩
    · exact Or.inr ⟨_, rfl⟩
    · cases found
  · rintro (⟨name, rfl⟩ | ⟨text, rfl⟩)
    · exact ⟨name, rfl⟩
    · exact ⟨Text.shown text.points, rfl⟩

/-- Keys can be gone through if all of them are texts. -/
theorem keyTexts_succeed_iff :
    Succeeds (keys.zipIdx.mapM fun (key, index) => keyText key index) ↔
      ∀ key ∈ keys, isText key = true := by
  rw [succeeds_mapM]
  constructor
  · intro all key member
    obtain ⟨index, found⟩ := List.mem_iff_getElem?.mp member
    exact keyText_succeeds_iff.mp (all (key, index) (List.mem_zipIdx_iff_getElem?.mpr found))
  · rintro all ⟨key, index⟩ member
    exact keyText_succeeds_iff.mpr (all key (List.fst_mem_of_mem_zipIdx member))

/-- Keys can be listed if and only if they are texts. -/
theorem listKeys_succeeds_iff :
    Succeeds (listKeys keys) ↔ ∀ key ∈ keys, isText key = true := by
  have same : ∀ key, key ∈ (Sorting.sort Value.less keys).items ↔ key ∈ keys :=
    fun key => (Sorting.sort_perm Value.less keys).mem_iff
  constructor
  · rintro ⟨names, listed⟩ key member
    unfold listKeys at listed
    dsimp only at listed
    split at listed
    · cases listed
    · exact keyTexts_succeed_iff.mp ⟨names, listed⟩ key ((same key).mpr member)
  · intro texts
    -- Texts have an order, so that sorting them cannot fail.
    have decides : Sorting.DecidesAmong Value.less
        (fun a b => (Value.less a b).toOption.getD false) keys := by
      intro a member b memberToo
      rcases isText_iff.mp (texts a member) with ⟨s, rfl⟩ | ⟨s, rfl⟩ <;>
        rcases isText_iff.mp (texts b memberToo) with ⟨t, rfl⟩ | ⟨t, rfl⟩ <;> rfl
    have sorted : (Sorting.sort Value.less keys).failure = none := by rw [decides.sort]
    unfold listKeys
    dsimp only
    rw [sorted]
    exact keyTexts_succeed_iff.mpr fun key member => texts key ((same key).mp member)

/-- The keys that set nothing can be listed if and only if all keys are texts: those that set
something are texts anyway. -/
theorem unknownKeys_listed_iff :
    Succeeds (listKeys (unknownKeys entries)) ↔ hasTextKeys (.map entries) = true := by
  rw [listKeys_succeeds_iff, hasTextKeys, List.all_eq_true]
  constructor
  · intro texts entry member
    cases known : Key.ofValue? entry.1 with
    | some key => exact isText_iff.mpr (Or.inl ⟨key.name, ofValue?_eq_some_iff.mp known⟩)
    | none =>
      refine texts entry.1 (List.mem_filter.mpr ⟨List.mem_map_of_mem member, ?_⟩)
      rw [known]
      rfl
  · intro texts key member
    obtain ⟨entry, among, rfl⟩ := List.mem_map.mp (List.mem_filter.mp member).1
    exact texts entry among

end Keys

section Reading

variable {tree : FileTree} {path : String}

/-- A path leads to a file of a text. -/
def HasText (tree : FileTree) (path : String) (text : List Char) : Prop :=
  ∃ bytes, tree.readBytes path = .ok bytes ∧ Utf8.decode bytes = .ok text

/-- A path leads to a file of a value. -/
def HasValue (tree : FileTree) (path : String) (value : Value) : Prop :=
  ∃ text, HasText tree path text ∧ Yaml.load text = .ok value

/-- What can be wrong with a settings file, and the entries that are read from it all the same or
why none are. -/
inductive Reads (tree : FileTree) (path : String) : List Problem → Except Failure Entries → Prop
  | missing {asked : String} : tree.readBytes path = .error (.system .notFound asked) →
      Reads tree path [.missingFile path] (.ok [])
  | refused {fault : PathFault} : tree.readBytes path = .error fault →
      (∀ asked, fault ≠ .system .notFound asked) → Reads tree path [] (.error (.path fault))
  | notUtf8 {bytes : List UInt8} {fault : Utf8.Fault} : tree.readBytes path = .ok bytes →
      Utf8.decode bytes = .error fault → Reads tree path [] (.error (.notUtf8 fault))
  | malformed {text : List Char} {fault : Yaml.Fault} : HasText tree path text →
      Yaml.load text = .error (.yaml fault) →
      Reads tree path [.malformedFile path fault] (.ok [])
  | badScalar {text : List Char} {fault : Yaml.ValueFault} : HasText tree path text →
      Yaml.load text = .error (.value fault) → Reads tree path [] (.error (.scalar fault))
  | empty : HasValue tree path .null → Reads tree path [] (.ok [])
  | notMapping {value : Value} : HasValue tree path value → value ≠ .null →
      (∀ entries, value ≠ .map entries) → Reads tree path [.notMapping value.typeName] (.ok [])
  | mapping {entries : List (Value × Value)} : HasValue tree path (.map entries) →
      listKeys (unknownKeys entries) = .ok [] → Reads tree path [] (.ok (knownEntries entries))
  | unknown {entries : List (Value × Value)} {name : String} {names : List String} :
      HasValue tree path (.map entries) → listKeys (unknownKeys entries) = .ok (name :: names) →
      Reads tree path [.unknownKeys path (name :: names)] (.ok (knownEntries entries))
  | badKeys {entries : List (Value × Value)} {failure : Failure} :
      HasValue tree path (.map entries) → listKeys (unknownKeys entries) = .error failure →
      Reads tree path [] (.error failure)

/-- A value in a settings file is judged with the same problems, strict or not. -/
theorem entriesOf_meets {value : Value} (held : HasValue tree path value) :
    ∃ problems result, Reads tree path problems result ∧
      Meets (fun strict => entriesOf path strict value) problems result := by
  unfold entriesOf
  split
  · exact ⟨_, _, .empty held, meets_pure []⟩
  · rename_i entries
    cases listed : listKeys (unknownKeys entries) with
    | error failure => exact ⟨_, _, .badKeys held listed, (meets_throw failure).stops _⟩
    | ok names =>
      cases names with
      | nil => exact ⟨_, _, .mapping held listed, meets_pure _⟩
      | cons name names =>
        exact ⟨_, _, .unknown held listed, (meets_settle _).andThen (meets_pure _)⟩
  · rename_i notNull notMap
    exact ⟨_, _, .notMapping held notNull notMap, (meets_settle _).andThen (meets_pure [])⟩

theorem fileBytes_refused {fault : PathFault} (refused : tree.readBytes path = .error fault)
    (other : ∀ asked, fault ≠ .system .notFound asked) :
    fileBytes tree path = .error (.path fault) := by
  unfold fileBytes
  rw [refused]
  split
  · cases ‹Except.error _ = Except.ok _›
  · rename_i same
    exact absurd (Except.error.inj same) (other _)
  · rename_i same
    rw [Except.error.inj same]

/-- A settings file is read with the same problems, strict or not. -/
theorem ofFile_meets (tree : FileTree) (path : String) :
    ∃ problems result, Reads tree path problems result ∧
      Meets (ofFile tree path) problems result := by
  unfold ofFile
  cases read : tree.readBytes path with
  | error fault =>
    by_cases missing : ∃ asked, fault = .system .notFound asked
    · obtain ⟨asked, rfl⟩ := missing
      have absent : fileBytes tree path = .ok none := by
        rw [fileBytes, read]
      rw [absent]
      exact ⟨_, _, .missing read, (meets_settle _).andThen (meets_pure [])⟩
    · have other : ∀ asked, fault ≠ .system .notFound asked := fun asked same => missing ⟨asked, same⟩
      rw [fileBytes_refused read other]
      exact ⟨_, _, .refused read other, meets_throw _⟩
  | ok bytes =>
    have present : fileBytes tree path = .ok (some bytes) := by
      rw [fileBytes, read]
    rw [present]
    dsimp only
    cases decoded : Utf8.decode bytes with
    | error fault => exact ⟨_, _, .notUtf8 read decoded, meets_throw _⟩
    | ok text =>
      have held : HasText tree path text := ⟨bytes, read, decoded⟩
      dsimp only
      cases loaded : Yaml.load text with
      | ok value => exact entriesOf_meets ⟨text, held, loaded⟩
      | error fault =>
        cases fault with
        | value fault => exact ⟨_, _, .badScalar held loaded, meets_throw _⟩
        | yaml fault =>
          exact ⟨_, _, .malformed held loaded, (meets_settle _).andThen (meets_pure [])⟩

end Reading

section Legible

variable {tree : FileTree} {path : String} {problems : List Problem}

/-- A settings file that can be read: none at all, one that is no document, or one whose value has
texts for keys if it is a mapping. -/
inductive Legible (tree : FileTree) (path : String) : Prop
  | missing {asked : String} : tree.readBytes path = .error (.system .notFound asked) →
      Legible tree path
  | malformed {text : List Char} {fault : Yaml.Fault} : HasText tree path text →
      Yaml.load text = .error (.yaml fault) → Legible tree path
  | value {value : Value} : HasValue tree path value → hasTextKeys value = true →
      Legible tree path

theorem HasText.unique {text other : List Char} (first : HasText tree path text)
    (second : HasText tree path other) : text = other := by
  obtain ⟨bytes, read, decoded⟩ := first
  obtain ⟨_, readToo, decodedToo⟩ := second
  cases read.symm.trans readToo
  exact Except.ok.inj (decoded.symm.trans decodedToo)

theorem HasText.not_refused {text : List Char} {fault : PathFault} (held : HasText tree path text) :
    tree.readBytes path ≠ .error fault := by
  intro refused
  obtain ⟨bytes, read, _⟩ := held
  cases read.symm.trans refused

theorem HasValue.unique {value other : Value} (first : HasValue tree path value)
    (second : HasValue tree path other) : value = other := by
  obtain ⟨text, held, loaded⟩ := first
  obtain ⟨_, heldToo, loadedToo⟩ := second
  cases held.unique heldToo
  exact Except.ok.inj (loaded.symm.trans loadedToo)

/-- A file whose entries are read is legible. -/
theorem Reads.legible {entries : Entries} (reads : Reads tree path problems (.ok entries)) :
    Legible tree path := by
  cases reads with
  | missing absent => exact .missing absent
  | malformed held failed => exact .malformed held failed
  | empty held => exact .value held rfl
  | notMapping held _ notMap => exact .value held (hasTextKeys_of_notMap notMap)
  | mapping held listed => exact .value held (unknownKeys_listed_iff.mp ⟨_, listed⟩)
  | unknown held listed => exact .value held (unknownKeys_listed_iff.mp ⟨_, listed⟩)

theorem Legible.exists_text (legible : Legible tree path) :
    (∃ asked, tree.readBytes path = .error (.system .notFound asked)) ∨ ∃ text, HasText tree path text := by
  cases legible with
  | missing absent => exact Or.inl ⟨_, absent⟩
  | malformed held _ => exact Or.inr ⟨_, held⟩
  | value held _ =>
    obtain ⟨text, held, _⟩ := held
    exact Or.inr ⟨text, held⟩

theorem Legible.texts {value : Value} (legible : Legible tree path)
    (held : HasValue tree path value) : hasTextKeys value = true := by
  obtain ⟨text, textHeld, loaded⟩ := held
  cases legible with
  | missing absent => exact absurd absent textHeld.not_refused
  | malformed heldToo failed =>
    cases textHeld.unique heldToo
    cases loaded.symm.trans failed
  | value heldToo texts =>
    rw [HasValue.unique ⟨text, textHeld, loaded⟩ heldToo]
    exact texts

/-- The entries of a file are those of its map; any other value has none. -/
theorem Reads.entries_eq {entries : Entries} (reads : Reads tree path problems (.ok entries)) :
    (∃ all, HasValue tree path (.map all) ∧ entries = knownEntries all) ∨
      entries = [] ∧ ∀ all, ¬ HasValue tree path (.map all) := by
  cases reads with
  | missing absent =>
    exact Or.inr ⟨rfl, fun all ⟨_, held, _⟩ => held.not_refused absent⟩
  | malformed held failed =>
    refine Or.inr ⟨rfl, fun all ⟨_, heldToo, loaded⟩ => ?_⟩
    cases held.unique heldToo
    cases failed.symm.trans loaded
  | empty held => exact Or.inr ⟨rfl, fun all other => Value.noConfusion (held.unique other)⟩
  | notMapping held _ notMap => exact Or.inr ⟨rfl, fun all other => notMap all (held.unique other)⟩
  | mapping held _ => exact Or.inl ⟨_, held, rfl⟩
  | unknown held _ => exact Or.inl ⟨_, held, rfl⟩

/-- The entries that are read are those of the file's mapping whose keys set something. -/
theorem Reads.mem_iff {entries : Entries} (reads : Reads tree path problems (.ok entries)) {key : Key}
    {value : Value} : (key, value) ∈ entries ↔
      ∃ all, HasValue tree path (.map all) ∧ (.str key.name, value) ∈ all := by
  rcases reads.entries_eq with ⟨all, held, rfl⟩ | ⟨rfl, none⟩
  · rw [mem_knownEntries]
    constructor
    · exact fun member => ⟨all, held, member⟩
    · rintro ⟨other, heldToo, member⟩
      cases held.unique heldToo
      exact member
  · constructor
    · intro member
      cases member
    · rintro ⟨all, held, _⟩
      exact absurd held (none all)

end Legible

end CrateSurface.Settings
