import CrateSurface.Files.Tree
import CrateSurface.Proofs.Attempt
import CrateSurface.Walk
import Mathlib.Data.List.Induction

namespace CrateSurface

/-- A name that leads one step down from a directory. -/
structure Path.IsStep (name : String) : Prop where
  full : name ≠ ""
  notSelf : name ≠ "."
  notParent : name ≠ ".."
  noSlash : '/' ∉ name.toList

namespace Location

/-- Each name of the place leads one step down. -/
def Proper (place : Location) : Prop :=
  ∀ name ∈ place, Path.IsStep name

/-- The absolute path of a place, without anything that could be left out of it. -/
def path (place : Location) : String :=
  "/" ++ "/".intercalate place

variable {place more : Location} {name : String}

theorem Proper.left (proper : Proper (place ++ more)) : place.Proper :=
  fun name member => proper name (List.mem_append_left _ member)

theorem Proper.snoc (proper : place.Proper) (step : Path.IsStep name) :
    Proper (place ++ [name]) := by
  intro other member
  rcases List.mem_append.mp member with inside | last
  · exact proper other inside
  · rw [List.mem_singleton.mp last]
    exact step

/-- The path of a place is its names with a slash before each. -/
theorem path_toList (inside : place ≠ []) :
    (path place).toList = place.flatMap fun name => '/' :: name.toList := by
  have slashed : ∀ (first : String) (rest : List String),
      '/' :: ['/'].intercalate ((first :: rest).map String.toList) =
        (first :: rest).flatMap fun name => '/' :: name.toList := by
    intro first rest
    induction rest generalizing first with
    | nil => simp
    | cons second rest ih =>
      rw [List.flatMap_cons, ← ih, List.map_cons, List.map_cons, List.intercalate_cons_cons]
      simp
  cases place with
  | nil => exact absurd rfl inside
  | cons first rest =>
    rw [← slashed, path, String.toList_append, String.toList_intercalate]
    rfl

/-- The characters of the path before its last slash. -/
theorem path_snoc_toList (place : Location) (name : String) :
    (path (place ++ [name])).toList =
      (place.flatMap fun name => '/' :: name.toList) ++ '/' :: name.toList := by
  rw [path_toList (by simp), List.flatMap_append]
  simp

theorem getLast?_flatMap (proper : place.Proper) :
    (place.flatMap fun name => '/' :: name.toList).getLast? ≠ some '/' := by
  rcases List.eq_nil_or_concat place with rfl | ⟨front, last, rfl⟩
  · simp
  · have step := proper last (by simp)
    rw [List.concat_eq_append, List.flatMap_append, List.flatMap_singleton]
    rcases List.eq_nil_or_concat last.toList with none | ⟨chars, final, some⟩
    · exact absurd (by simpa using none) step.full
    · have slash := step.noSlash
      rw [some, List.concat_eq_append] at slash
      rw [some, List.concat_eq_append, ← List.cons_append, ← List.append_assoc,
        List.getLast?_concat]
      intro same
      cases same
      exact slash (List.mem_append_right _ (List.mem_singleton_self _))

theorem path_snoc (proper : place.Proper) (step : Path.IsStep name) :
    path (place ++ [name]) = Path.join (path place) name := by
  have relative : Path.startsAtRoot '/' name.toList = false := by
    unfold Path.startsAtRoot
    refine beq_eq_false_iff_ne.mpr fun starts => ?_
    exact step.noSlash (List.mem_of_mem_head? starts)
  apply String.toList_inj.mp
  rw [path_snoc_toList, Path.join, String.toList_ofList, Path.under, if_neg (by simp [relative])]
  by_cases inside : place = []
  · subst inside
    simp [path]
  · have chars := path_toList inside
    have last := getLast?_flatMap proper
    rw [← chars] at last ⊢
    have full : (path place).toList ≠ [] := by simp [path]
    simp [full, last]

theorem names_path (inside : place ≠ []) (proper : place.Proper) :
    Path.names (path place) = "" :: place := by
  have joined : (path place).toList = ['/'].intercalate ([] :: place.map String.toList) := by
    cases place with
    | nil => exact absurd rfl inside
    | cons first rest =>
      rw [path, String.toList_append, String.toList_intercalate, List.map_cons,
        List.intercalate_cons_cons]
      rfl
  have apart : ∀ chars ∈ [] :: place.map String.toList, '/' ∉ chars := by
    intro chars member
    rcases List.mem_cons.mp member with rfl | member
    · simp
    · obtain ⟨name, inside, rfl⟩ := List.mem_map.mp member
      exact (proper name inside).noSlash
  rw [Path.names, joined, List.splitOn_intercalate '/' apart (by simp), List.map_cons, List.map_map]
  simp [Function.comp_def]

theorem steps_path (inside : place ≠ []) (proper : place.Proper) :
    FileTree.steps (path place) = place := by
  have last : ((path place).toList.getLast? == some '/') = false := by
    rw [path_toList inside]
    simpa using getLast?_flatMap proper
  have full : place.filter (· != "") = place :=
    List.filter_eq_self.mpr fun name member => by simpa using (proper name member).full
  rw [FileTree.steps, last, names_path inside proper, FileTree.stepsOf, List.filter_cons, full]
  rfl

theorem normalNames_steps (absolute : Bool) (proper : place.Proper) :
    Path.normalNames absolute ("" :: place) = place.reverse := by
  induction place using List.reverseRecOn with
  | nil => rfl
  | append_singleton front name ih =>
    have before := ih proper.left
    have step := proper name (by simp)
    simp only [Path.normalNames] at before ⊢
    rw [← List.cons_append, List.foldl_append, before]
    simp [step.full, step.notSelf, step.notParent]

theorem rootSlashes_path (inside : place ≠ []) (proper : place.Proper) :
    Path.rootSlashes (path place) = 1 := by
  cases place with
  | nil => exact absurd rfl inside
  | cons first rest =>
    have step := proper first (List.mem_cons_self ..)
    have one : ((path (first :: rest)).toList.takeWhile (· == '/')).length = 1 := by
      rw [path_toList inside, List.flatMap_cons, List.cons_append]
      cases chars : first.toList with
      | nil => exact absurd (by simpa using chars) step.full
      | cons char more =>
        have slash := step.noSlash
        rw [chars, List.mem_cons, not_or] at slash
        simp [Ne.symm slash.1]
    rw [Path.rootSlashes, one]
    rfl

/-- The path of a proper place is normal. -/
theorem normal_path (inside : place ≠ []) (proper : place.Proper) :
    Path.normal (path place) = path place := by
  have whole : String.ofList (List.replicate 1 '/') ++ "/".intercalate place = path place := rfl
  have full : path place ≠ "" := by simp [path]
  simp only [Path.normal, rootSlashes_path inside proper, names_path inside proper,
    normalNames_steps _ proper, List.reverse_reverse, whole]
  rw [if_neg (by simpa using full)]

theorem isAbsolute_path (place : Location) : Path.isAbsolute (path place) = true := by
  simp [Path.isAbsolute, Path.startsAtRoot, path]

/-- A path that starts from the root does not hang on the directory it is read from. -/
theorem absolute_path (workdir : String) (inside : place ≠ [])
    (proper : place.Proper) :
    Path.absolute workdir (path place) = path place := by
  rw [Path.absolute, if_pos (isAbsolute_path place), normal_path inside proper]

theorem cutAtLast_path (place : Location) (noSlash : '/' ∉ name.toList) :
    Path.cutAtLast '/' (path (place ++ [name])).toList =
      ((place.flatMap fun name => '/' :: name.toList) ++ ['/'], name.toList) := by
  have plain : ∀ char ∈ name.toList.reverse, (char != '/') = true := by
    intro char member
    have inside := List.mem_reverse.mp member
    exact bne_iff_ne.mpr fun same => noSlash (same ▸ inside)
  simp only [Path.cutAtLast, path_snoc_toList, List.reverse_append, List.reverse_cons,
    List.append_assoc]
  rw [List.dropWhile_append_of_pos plain, List.takeWhile_append_of_pos plain]
  simp

theorem name_path (place : Location) (noSlash : '/' ∉ name.toList) :
    Path.name (path (place ++ [name])) = name := by
  rw [Path.name, cutAtLast_path place noSlash, String.ofList_toList]

/-- The parent of the path of a place is the path of the place above. -/
theorem parent_path (proper : place.Proper) (noSlash : '/' ∉ name.toList) :
    Path.parent (path (place ++ [name])) = path place := by
  simp only [Path.parent, Path.beforeLast, cutAtLast_path place noSlash]
  by_cases inside : place = []
  · subst inside
    rfl
  · have last := getLast?_flatMap proper
    rw [← path_toList inside] at last ⊢
    rcases List.eq_nil_or_concat (path place).toList with none | ⟨chars, final, some⟩
    · simp [path] at none
    · rw [some, List.concat_eq_append] at last ⊢
      have slash : final ≠ '/' := by simpa using last
      have whole : String.ofList (chars ++ [final]) = path place := by
        rw [← List.concat_eq_append, ← some, String.ofList_toList]
      simp [slash, whole]

end Location

theorem Path.noSlash_of_mem_names {path name : String} (member : name ∈ Path.names path) :
    '/' ∉ name.toList := by
  have pieces : ∀ chars : List Char, ∀ piece ∈ chars.splitOn '/', '/' ∉ piece := by
    intro chars
    induction chars with
    | nil => simp
    | cons char rest ih =>
      rw [List.splitOn_cons_eq_if_modifyHead]
      split
      · simpa using ih
      · rename_i other
        have apart : char ≠ '/' := by simpa using other
        cases found : rest.splitOn '/' with
        | nil => simp
        | cons first more =>
          rw [found] at ih
          intro piece inside
          rcases List.mem_cons.mp inside with rfl | later
          · simp [Ne.symm apart, ih first (List.mem_cons_self ..)]
          · exact ih piece (List.mem_cons_of_mem _ later)
  obtain ⟨piece, inside, rfl⟩ := List.mem_map.mp member
  rw [String.toList_ofList]
  exact pieces path.toList piece inside

theorem Path.isStep_of_mem_normalNames {names : List String}
    (apart : ∀ name ∈ names, '/' ∉ name.toList) :
    ∀ name ∈ Path.normalNames true names, Path.IsStep name := by
  induction names using List.reverseRecOn with
  | nil => simp [normalNames]
  | append_singleton front last ih =>
    have before := ih fun name member => apart name (List.mem_append_left _ member)
    have slash := apart last (by simp)
    simp only [normalNames] at before ⊢
    rw [List.foldl_append, List.foldl_cons, List.foldl_nil]
    generalize front.foldl _ [] = done at before ⊢
    intro name member
    split at member
    · exact before name member
    · rename_i kept
      obtain ⟨full, notSelf⟩ : last ≠ "" ∧ last ≠ "." := by simpa using kept
      split at member
      · rename_i notParent
        rcases List.mem_cons.mp member with rfl | earlier
        · exact ⟨full, notSelf, by simpa using notParent, slash⟩
        · exact before name earlier
      · split at member
        · simp at member
        · exact absurd rfl (before ".." (by simp)).notParent
        · exact before name (List.mem_cons_of_mem _ member)

/-- An absolute path in normal form. Two slashes at its start would name a root of another kind. -/
structure Path.IsNormal (path : String) : Prop where
  root : Path.rootSlashes path = 1
  normal : Path.normal path = path

/-- A normal path is that of a proper place. -/
theorem Path.IsNormal.exists_place {path : String} (normal : Path.IsNormal path) :
    ∃ place : Location, place.Proper ∧ path = place.path := by
  refine ⟨(Path.normalNames true (Path.names path)).reverse, ?_, ?_⟩
  · intro name member
    exact isStep_of_mem_normalNames (fun _ => noSlash_of_mem_names) name
      (List.mem_reverse.mp member)
  · have whole := normal.normal
    simp only [Path.normal, normal.root] at whole
    split at whole
    · rename_i empty
      simp at empty
    · exact whole.symm

/-- A file name is its stem and what follows its last dot. -/
theorem Path.stem_rs {name : String} (full : name ≠ "") (noDot : '.' ∉ name.toList) :
    Path.stem (name ++ ".rs") = name := by
  have chars : (name ++ ".rs").toList = name.toList ++ ['.', 'r', 's'] := by
    rw [String.toList_append]
    rfl
  have begun : (name ++ ".rs").toList.dropWhile (· == '.') = (name ++ ".rs").toList := by
    rw [chars]
    cases first : name.toList with
    | nil => exact absurd (by simpa using first) full
    | cons char rest =>
      rw [first, List.mem_cons, not_or] at noDot
      simp [Ne.symm noDot.1]
  have cut : ((name ++ ".rs").toList.reverse.dropWhile (· != '.')).drop 1 =
      name.toList.reverse := by
    rw [chars, List.reverse_append]
    rfl
  have dotted : (name ++ ".rs").toList.contains '.' = true := by simp [chars]
  simp only [stem, begun, dotted, if_true, cut, List.reverse_reverse, String.ofList_toList]

/-- A name that a module may have in the source: one that does not stand for the file of a
directory. -/
structure IsModuleName (name : String) : Prop where
  full : name ≠ ""
  noSlash : '/' ∉ name.toList
  noDot : '.' ∉ name.toList
  notRoot : name ≠ "mod" ∧ name ≠ "lib" ∧ name ≠ "main"

namespace IsModuleName

variable {name : String} {place : Location}

theorem isStep (legal : IsModuleName name) : Path.IsStep name where
  full := legal.full
  notSelf := by rintro rfl; exact legal.noDot (by decide)
  notParent := by rintro rfl; exact legal.noDot (by decide)
  noSlash := legal.noSlash

theorem isStep_file (legal : IsModuleName name) : Path.IsStep (name ++ ".rs") where
  full := by simp
  notSelf same := by
    have last : 's' ∈ (name ++ ".rs").toList := by simp
    rw [same] at last
    exact absurd last (by decide)
  notParent same := by
    have last : 's' ∈ (name ++ ".rs").toList := by simp
    rw [same] at last
    exact absurd last (by decide)
  noSlash := by simp [legal.noSlash]

theorem moduleBase_file (legal : IsModuleName name) (proper : place.Proper) :
    moduleBase (Location.path (place ++ [name ++ ".rs"])) = Path.join place.path name := by
  have slash := legal.isStep_file.noSlash
  have other : ∀ root, name ≠ root → (name ++ ".rs" == root ++ ".rs") = false := by
    intro root apart
    simpa using apart
  have mod : (name ++ ".rs" == "mod.rs") = false := other "mod" legal.notRoot.1
  have lib : (name ++ ".rs" == "lib.rs") = false := other "lib" legal.notRoot.2.1
  have main : (name ++ ".rs" == "main.rs") = false := other "main" legal.notRoot.2.2
  simp only [moduleBase, Location.name_path place slash, Location.parent_path proper slash,
    Path.stem_rs legal.full legal.noDot, mod, lib, main]
  simp [legal.full]

/-- The modules of a `mod.rs` are in its own directory. -/
theorem moduleBase_directory (legal : IsModuleName name)
    (proper : place.Proper) :
    moduleBase (Location.path (place ++ [name] ++ ["mod.rs"])) = Path.join place.path name := by
  have below := proper.snoc legal.isStep
  have slash : '/' ∉ "mod.rs".toList := by decide
  simp only [moduleBase, Location.name_path _ slash, Location.parent_path below slash,
    ← Location.path_snoc proper legal.isStep]
  rfl

end IsModuleName

namespace FileTree

/-- Nothing in the tree is a symbolic link. -/
def LinkFree (tree : FileTree) : Prop :=
  ∀ place target, tree.inode? place ≠ some (.link target)

/-- The names lead from a directory down to something that is there. -/
inductive Leads (tree : FileTree) : Location → List String → Prop
  | here (place : Location) : Leads tree place []
  | down {place : Location} {name : String} {rest : List String} :
      tree.isDirectoryAt place = true → (tree.inode? (place ++ [name])).isSome = true →
      Leads tree (place ++ [name]) rest → Leads tree place (name :: rest)

variable {tree : FileTree}

theorem Leads.of_append {place : Location} {names more : List String}
    (leads : tree.Leads place (names ++ more)) : tree.Leads place names := by
  induction names generalizing place with
  | nil => exact .here place
  | cons name rest ih =>
    cases leads with
    | down directory present below => exact .down directory present (ih below)

/-- Without links, a path is resolved name by name. -/
theorem descend_eq_ok_iff (linkFree : tree.LinkFree) {ending : Ending} (known : ending ≠ .mayBeNew)
    {enter : Location → String → List String → Except OsFault Location} {names : List String}
    (proper : ∀ name ∈ names, Path.IsStep name) {place found : Location} :
    tree.descend ending enter place names = .ok found ↔
      tree.Leads place names ∧ found = place ++ names := by
  induction names generalizing place with
  | nil =>
    rw [descend, List.append_nil]
    constructor
    · rintro ⟨⟩
      exact ⟨.here _, rfl⟩
    · rintro ⟨_, rfl⟩
      rfl
  | cons name rest ih =>
    have step := proper name (List.mem_cons_self ..)
    have later : tree.descend ending enter (place ++ [name]) rest = .ok found ↔
        tree.Leads (place ++ [name]) rest ∧ found = (place ++ [name]) ++ rest :=
      ih fun other member => proper other (List.mem_cons_of_mem _ member)
    rw [List.append_assoc, List.singleton_append] at later
    have down : tree.Leads place (name :: rest) ↔ tree.isDirectoryAt place = true ∧
        (tree.inode? (place ++ [name])).isSome = true ∧ tree.Leads (place ++ [name]) rest :=
      ⟨fun | .down directory present below => ⟨directory, present, below⟩,
        fun ⟨directory, present, below⟩ => .down directory present below⟩
    -- A step of a proper path is neither empty nor `.` nor `..`, so that it goes down by its name.
    rw [descend, down]
    cases directory : tree.isDirectoryAt place with
    | false => simp [step.full]
    | true =>
      cases present : tree.inode? (place ++ [name]) with
      | none =>
        simp only [step.full, step.notSelf, step.notParent, known, beq_iff_eq, Bool.and_eq_true,
          false_and, and_false, if_false, Bool.or_eq_true, or_self, Bool.not_true,
          Bool.false_eq_true, Option.isSome_none]
        split <;> simp
      | some inode =>
        cases inode with
        | link target => exact absurd present (linkFree _ target)
        | file bytes => simp [step.full, step.notSelf, step.notParent, later]
        | directory => simp [step.full, step.notSelf, step.notParent, later]
        | locked isDirectory => simp [step.full, step.notSelf, step.notParent, later]

theorem Leads.isSome_inode? {place : Location} {names : List String}
    (leads : tree.Leads place names) (present : (tree.inode? place).isSome = true) :
    (tree.inode? (place ++ names)).isSome = true := by
  induction leads with
  | here place => rwa [List.append_nil]
  | @down place name rest _ inside _ ih =>
    have found := ih inside
    rwa [List.append_assoc, List.singleton_append] at found

/-- The names of a place can be asked for. -/
def Legal (place : Location) : Prop :=
  ∀ name ∈ place, '\x00' ∉ name.toList

/-- The path of a place is free of NUL if and only if its names are. -/
theorem legal_iff {place : Location} (inside : place ≠ []) :
    place.path.toList.contains '\x00' = false ↔ Legal place := by
  rw [Location.path_toList inside, Legal]
  simp

/-- Without links the path of a place leads to it, if the way is there. -/
theorem resolve_path (linkFree : tree.LinkFree) {ending : Ending} (known : ending ≠ .mayBeNew)
    {place found : Location} (inside : place ≠ []) (proper : place.Proper) :
    tree.resolve ending place.path = .ok found ↔
      Legal place ∧ tree.Leads [] place ∧ found = place := by
  have full : (place.path == "") = false := by simp [Location.path]
  have root := Location.isAbsolute_path place
  rw [resolve, full, root, Location.steps_path inside proper, ← legal_iff inside]
  cases place.path.toList.contains '\x00' with
  | true => simp
  | false =>
    simp only [Bool.false_eq_true, if_false, if_true, mapError_eq_ok, resolveWithin,
      descend_eq_ok_iff linkFree known proper, List.nil_append, true_and]

theorem stat_path (linkFree : tree.LinkFree) {ending : Ending} (known : ending ≠ .mayBeNew)
    {place : Location} {inode : Inode} (inside : place ≠ [])
    (proper : place.Proper) :
    tree.stat ending place.path = .ok inode ↔
      Legal place ∧ tree.Leads [] place ∧ tree.inode? place = some inode := by
  rw [stat, bind_eq_ok]
  constructor
  · rintro ⟨found, resolved, read⟩
    obtain ⟨legal, leads, rfl⟩ := (resolve_path linkFree known inside proper).mp resolved
    refine ⟨legal, leads, ?_⟩
    split at read
    · rename_i there
      cases read
      exact there
    · cases read
  · rintro ⟨legal, leads, there⟩
    refine ⟨place, (resolve_path linkFree known inside proper).mpr ⟨legal, leads, rfl⟩, ?_⟩
    rw [there]

/-- A path without links leads somewhere exactly if its names do. -/
theorem pathExists_path (linkFree : tree.LinkFree) {place : Location} (inside : place ≠ [])
    (proper : place.Proper) :
    tree.pathExists place.path = true ↔ Legal place ∧ tree.Leads [] place := by
  have known : Ending.follow ≠ .mayBeNew := by decide
  constructor
  · intro there
    cases found : tree.stat .follow place.path with
    | error fault =>
      rw [pathExists, found] at there
      cases there
    | ok inode =>
      obtain ⟨legal, leads, _⟩ := (stat_path linkFree known inside proper).mp found
      exact ⟨legal, leads⟩
  · rintro ⟨legal, leads⟩
    obtain ⟨inode, there⟩ := Option.isSome_iff_exists.mp (leads.isSome_inode? rfl)
    rw [pathExists, (stat_path linkFree known inside proper).mpr ⟨legal, leads, there⟩]
    rfl

/-- Without links, each name of a path that leads somewhere is put behind the names before it. -/
theorem canonicalSteps_path (linkFree : tree.LinkFree)
    (enter : String → String → MetLinks → Except PathFault (String × MetLinks)) (met : MetLinks)
    (names : List String) (done : Location) (proper : Location.Proper (done ++ names))
    (legal : Legal (done ++ names)) (leads : tree.Leads [] (done ++ names)) :
    tree.canonicalSteps enter done.path names met = .ok (Location.path (done ++ names), met) := by
  induction names generalizing done with
  | nil => rw [canonicalSteps, List.append_nil]
  | cons name rest ih =>
    have regroup : done ++ name :: rest = (done ++ [name]) ++ rest := by simp
    rw [regroup] at proper legal leads ⊢
    have below := ih (done ++ [name]) proper legal leads
    have front : Location.Proper (done ++ [name]) := proper.left
    have step := front name (by simp)
    have next : Path.join done.path name = Location.path (done ++ [name]) :=
      (Location.path_snoc front.left step).symm
    obtain ⟨inode, there⟩ := Option.isSome_iff_exists.mp (leads.of_append.isSome_inode? rfl)
    rw [List.nil_append] at there
    have stat : tree.stat .keepLink (Location.path (done ++ [name])) = .ok inode :=
      (stat_path linkFree (by decide) (by simp) front).mpr
        ⟨fun other member => legal other (List.mem_append_left _ member), leads.of_append, there⟩
    rw [canonicalSteps]
    simp only [step.full, step.notSelf, step.notParent, next, stat, beq_iff_eq, Bool.or_eq_true,
      or_self, if_false]
    cases inode with
    | link target => exact absurd there (linkFree _ target)
    | file bytes => exact below
    | directory => exact below
    | locked isDirectory => exact below

/-- Without links, a path from the root to something that is there is canonical as it stands. -/
theorem canonical_path (linkFree : tree.LinkFree) {place : Location} (inside : place ≠ [])
    (proper : place.Proper) (there : tree.pathExists place.path = true) :
    tree.canonical place.path = .ok place.path := by
  obtain ⟨legal, leads⟩ := (pathExists_path linkFree inside proper).mp there
  have root := Location.isAbsolute_path place
  obtain ⟨depth, deep⟩ : ∃ depth, tree.linkDepth place.path = depth + 1 :=
    ⟨_, (Nat.succ_pred_eq_of_pos (Nat.mul_pos (Nat.succ_pos _) (Nat.succ_pos _))).symm⟩
  have start : Location.path [] = "/" := by decide
  have walked :=
    canonicalSteps_path linkFree (tree.canonicalWithin depth) [] place [] proper legal leads
  rw [start, List.nil_append] at walked
  have steps : tree.canonicalWithin (depth + 1) "" place.path [] = .ok (place.path, []) := by
    rw [canonicalWithin, root, Location.names_path inside proper]
    exact walked
  rw [canonical, deep, steps]
  change Except.ok (Path.absolute tree.workdirText place.path) = _
  rw [Location.absolute_path _ inside proper]

end FileTree

/-- Without links, the file of a module is canonical as it was found, and the directory of its own
modules is named after it, in which of its two places it ever stands. -/
theorem moduleFile?_canonical {tree : FileTree} {parse : List Char → Node}
    (linkFree : tree.LinkFree) {base name found : String} (normal : Path.IsNormal base)
    (legal : IsModuleName name) (resolved : moduleFile? (tree.view parse) base name = some found) :
    tree.canonical found = .ok found ∧ moduleBase found = Path.join base name := by
  obtain ⟨place, proper, rfl⟩ := normal.exists_place
  have fixed : Path.IsStep "mod.rs" := ⟨by decide, by decide, by decide, by decide⟩
  have inner := proper.snoc legal.isStep
  simp only [moduleFile?] at resolved
  rw [← Location.path_snoc proper legal.isStep_file, ← Location.path_snoc proper legal.isStep,
    ← Location.path_snoc inner fixed] at resolved
  split at resolved
  · rename_i there
    cases resolved
    exact ⟨FileTree.canonical_path linkFree (by simp) (proper.snoc legal.isStep_file) there,
      legal.moduleBase_file proper⟩
  · split at resolved
    · rename_i there
      cases resolved
      exact ⟨FileTree.canonical_path linkFree (by simp) (inner.snoc fixed) there,
        legal.moduleBase_directory proper⟩
    · cases resolved

end CrateSurface
