import CrateSurface.Proofs.Attempt
import CrateSurface.Proofs.CanonicalPaths

namespace CrateSurface

/-- A path that the file system can be asked about: it holds no NUL. -/
def Path.IsClean (path : String) : Prop :=
  '\x00' ∉ path.toList

namespace Path

section Parts

variable {α : Type} [BEq α]

/-- A path that is cut at its last slash gives nothing new to either part. -/
theorem cutAtLast_subset (slash : α) (path : List α) :
    (cutAtLast slash path).1 ⊆ path ∧ (cutAtLast slash path).2 ⊆ path := by
  constructor
  · intro a member
    rw [cutAtLast, List.mem_reverse] at member
    exact List.mem_reverse.mp ((List.dropWhile_sublist _).subset member)
  · intro a member
    rw [cutAtLast, List.mem_reverse] at member
    exact List.mem_reverse.mp ((List.takeWhile_sublist _).subset member)

theorem beforeLast_subset (slash : α) (path : List α) : beforeLast slash path ⊆ path := by
  have head := (cutAtLast_subset slash path).1
  unfold beforeLast
  dsimp only
  split
  · exact head
  · intro a member
    have inside := (List.dropWhile_sublist _).subset (List.mem_reverse.mp member)
    exact head (List.mem_reverse.mp inside)

/-- Of two paths put together, nothing but a slash is new. -/
theorem under_subset (slash : α) (base path : List α) :
    under slash base path ⊆ base ++ slash :: path := by
  unfold under
  split
  · exact fun a member => List.mem_append_right _ (List.mem_cons_of_mem _ member)
  · split
    · exact List.append_subset.mpr ⟨List.subset_append_left _ _,
        fun a member => List.mem_append_right _ (List.mem_cons_of_mem _ member)⟩
    · exact List.Subset.refl _

end Parts

theorem subset_of_mem_splitOn {chars : List Char} :
    ∀ piece ∈ chars.splitOn '/', piece ⊆ chars := by
  induction chars with
  | nil => simp
  | cons char rest ih =>
    rw [List.splitOn_cons_eq_if_modifyHead]
    split
    · intro piece member
      rcases List.mem_cons.mp member with rfl | later
      · exact List.nil_subset _
      · exact List.Subset.trans (ih piece later) (List.subset_cons_self _ _)
    · cases found : rest.splitOn '/' with
      | nil => simp
      | cons first more =>
        rw [found] at ih
        intro piece member
        rcases List.mem_cons.mp member with rfl | later
        · exact List.cons_subset_cons _ (ih first (List.mem_cons_self ..))
        · exact List.Subset.trans (ih piece (List.mem_cons_of_mem _ later))
            (List.subset_cons_self _ _)

/-- A normal path has only names of the path, or goes up. -/
theorem mem_normalNames {absolute : Bool} {names : List String} {name : String}
    (member : name ∈ normalNames absolute names) : name = ".." ∨ name ∈ names := by
  induction names using List.reverseRecOn generalizing name with
  | nil => simp [normalNames] at member
  | append_singleton front last ih =>
    simp only [normalNames] at ih member
    rw [List.foldl_append, List.foldl_cons, List.foldl_nil] at member
    generalize front.foldl _ [] = done at ih member
    have earlier (other : String) (among : other ∈ done) : other = ".." ∨ other ∈ front ++ [last] :=
      (ih among).imp id (List.mem_append_left _)
    split at member
    · exact earlier name member
    · split at member
      · rcases List.mem_cons.mp member with rfl | among
        · exact Or.inr (by simp)
        · exact earlier name among
      · split at member
        · split at member
          · cases member
          · exact Or.inl (List.mem_singleton.mp member)
        · rcases List.mem_cons.mp member with rfl | among
          · exact Or.inl rfl
          · exact earlier name among
        · exact earlier name (List.mem_cons_of_mem _ member)

end Path

namespace Path.IsClean

variable {path base : String}

theorem of_subset {cs : List Char} (clean : IsClean path) (among : cs ⊆ path.toList) :
    IsClean (String.ofList cs) := by
  intro member
  rw [String.toList_ofList] at member
  exact clean (among member)

theorem append (first : IsClean base) (second : IsClean path) : IsClean (base ++ path) := by
  intro member
  rw [String.toList_append] at member
  rcases List.mem_append.mp member with early | late
  · exact first early
  · exact second late

theorem empty : IsClean "" := by
  unfold IsClean
  decide

theorem slash : IsClean "/" := by
  unfold IsClean
  decide

theorem join (first : IsClean base) (second : IsClean path) : IsClean (Path.join base path) := by
  intro member
  rw [Path.join, String.toList_ofList] at member
  rcases List.mem_append.mp (under_subset _ _ _ member) with early | late
  · exact first early
  · exact second ((List.mem_cons.mp late).resolve_left (by decide))

theorem parent (clean : IsClean path) : IsClean (Path.parent path) :=
  clean.of_subset (beforeLast_subset _ _)

/-- The names of a clean path are clean. -/
theorem names (clean : IsClean path) : ∀ name ∈ Path.names path, IsClean name := by
  intro name member
  obtain ⟨cs, among, rfl⟩ := List.mem_map.mp member
  exact clean.of_subset (subset_of_mem_splitOn cs among)

theorem intercalate {names : List String} (clean : ∀ name ∈ names, IsClean name) :
    IsClean ("/".intercalate names) := by
  induction names with
  | nil => exact empty
  | cons name rest ih =>
    have own := clean name (List.mem_cons_self ..)
    have others := ih fun other member => clean other (List.mem_cons_of_mem _ member)
    cases rest with
    | nil => simpa using own
    | cons next rest =>
      rw [String.intercalate_cons_cons]
      exact (own.append slash).append others

theorem normal (clean : IsClean path) : IsClean (Path.normal path) := by
  have body : IsClean ("/".intercalate
      (normalNames (rootSlashes path != 0) (Path.names path)).reverse) := by
    refine intercalate fun name member => ?_
    rcases mem_normalNames (List.mem_reverse.mp member) with rfl | among
    · unfold IsClean
      decide
    · exact clean.names name among
  have root : IsClean (String.ofList (List.replicate (rootSlashes path) '/')) := by
    intro member
    rw [String.toList_ofList, List.mem_replicate] at member
    exact absurd member.2 (by decide)
  unfold Path.normal
  dsimp only
  split
  · unfold IsClean
    decide
  · exact root.append body

/-- A clean path stays clean when it is made absolute from a clean place. -/
theorem absolute (first : IsClean base) (second : IsClean path) :
    IsClean (Path.absolute base path) := by
  unfold Path.absolute
  split
  · exact second.normal
  · exact (first.join second).normal

end Path.IsClean

/-- No link leads to a text with a NUL, and none stands in the path of the working directory: no file
system holds such names. -/
structure FileTree.IsClean (tree : FileTree) : Prop where
  targets : ∀ place target, tree.inode? place = some (.link target) → Path.IsClean target
  workdir : ∀ name ∈ tree.workdir, Path.IsClean name

namespace FileTree

variable {tree : FileTree} {path : String}

/-- Only a clean path leads anywhere. -/
theorem isClean_of_resolve {ending : Ending} {place : Location}
    (found : tree.resolve ending path = .ok place) : Path.IsClean path := by
  intro member
  rw [resolve, if_pos (by simpa using member)] at found
  cases found

theorem resolve_ne_embeddedNul (clean : Path.IsClean path) (ending : Ending) :
    tree.resolve ending path ≠ .error .embeddedNul := by
  intro refused
  have sound : (path.toList.contains '\x00') = false := by
    simpa [Path.IsClean] using clean
  rw [resolve, sound] at refused
  simp only [Bool.false_eq_true, if_false] at refused
  split at refused
  · cases refused
  · generalize tree.resolveWithin _ _ _ _ = result at refused
    cases result <;> cases refused

theorem stat_ne_embeddedNul (clean : Path.IsClean path) (ending : Ending) :
    tree.stat ending path ≠ .error .embeddedNul := by
  intro refused
  unfold stat at refused
  cases found : tree.resolve ending path with
  | error fault =>
    rw [found] at refused
    cases refused
    exact resolve_ne_embeddedNul clean ending found
  | ok place =>
    simp only [found, bind, Except.bind] at refused
    split at refused <;> cases refused

/-- What is found at a path is what stands at its place. -/
theorem inode?_of_stat {ending : Ending} {inode : Inode} (found : tree.stat ending path = .ok inode) :
    ∃ place, tree.resolve ending path = .ok place ∧ tree.inode? place = some inode := by
  obtain ⟨place, resolved, found⟩ := bind_eq_ok.mp found
  refine ⟨place, resolved, ?_⟩
  split at found
  · rename_i inode present
    cases found
    exact present
  · cases found

/-- A path that leads to something holds no NUL. -/
theorem isClean_of_known (known : tree.pathExists path = true ∨ tree.isFile path = true) :
    Path.IsClean path := by
  have found : ∃ inode, tree.stat .follow path = .ok inode := by
    rcases known with present | file
    · unfold pathExists at present
      cases stated : tree.stat .follow path with
      | error fault =>
        rw [stated] at present
        cases present
      | ok inode => exact ⟨inode, rfl⟩
    · unfold isFile at file
      split at file
      · exact ⟨_, ‹_›⟩
      · exact ⟨_, ‹_›⟩
      · cases file
  obtain ⟨inode, stated⟩ := found
  obtain ⟨place, resolved, _⟩ := inode?_of_stat stated
  exact isClean_of_resolve resolved

section Canonical

/-- The links met so far have canonical paths without NUL. -/
def CleanLinks (met : MetLinks) : Prop :=
  ∀ link resolved, (link, some resolved) ∈ met → Path.IsClean resolved

/-- A path was followed to a path without NUL, or refused, but not for a NUL. -/
def Follows : Except PathFault (String × MetLinks) → Prop
  | .ok (path, met) => Path.IsClean path ∧ CleanLinks met
  | .error fault => fault ≠ .embeddedNul

theorem stepUp_isClean (clean : Path.IsClean path) : Path.IsClean (stepUp path) := by
  have up : Path.IsClean ".." := by
    unfold Path.IsClean
    decide
  unfold stepUp
  split
  · exact up
  · split
    · exact (clean.parent.join up).join up
    · exact clean.parent

theorem CleanLinks.lookup {met : MetLinks} (links : CleanLinks met) {link resolved : String}
    (found : met.lookup link = some (some resolved)) : Path.IsClean resolved := by
  obtain ⟨before, after, parted, _⟩ := List.lookup_eq_some_iff.mp found
  exact links link resolved (by rw [parted]; simp)

/-- The names of a clean path are followed to a clean path, if the links on the way are. -/
theorem canonicalSteps_follows (clean : tree.IsClean)
    {enter : String → String → MetLinks → Except PathFault (String × MetLinks)}
    (enters : ∀ path target met, Path.IsClean path → Path.IsClean target → CleanLinks met →
      Follows (enter path target met)) (names : List String) :
    ∀ path met, Path.IsClean path → (∀ name ∈ names, Path.IsClean name) → CleanLinks met →
      Follows (tree.canonicalSteps enter path names met) := by
  induction names with
  | nil =>
    intro path met own _ links
    exact ⟨own, links⟩
  | cons name rest ih =>
    intro path met own all links
    have others : ∀ other ∈ rest, Path.IsClean other :=
      fun other member => all other (List.mem_cons_of_mem _ member)
    have next : Path.IsClean (Path.join path name) := own.join (all name (List.mem_cons_self ..))
    rw [canonicalSteps]
    split
    · exact ih path met own others links
    · split
      · exact ih _ met (stepUp_isClean own) others links
      · dsimp only
        cases found : tree.stat .keepLink (Path.join path name) with
        | error fault =>
          rintro rfl
          exact stat_ne_embeddedNul next _ found
        | ok inode =>
          cases inode with
          | file bytes => exact ih _ met next others links
          | directory => exact ih _ met next others links
          | locked isDirectory => exact ih _ met next others links
          | link target =>
            -- A link on the way is listed without a path, and promises nothing until it has one.
            obtain ⟨place, _, present⟩ := inode?_of_stat found
            have target_clean := clean.targets place target present
            dsimp only
            split
            · rename_i resolved known
              exact ih _ met (links.lookup known) others links
            · intro refused
              cases refused
            · have entered := enters path target ((Path.join path name, none) :: met) own
                target_clean (by
                  intro link resolved member
                  rcases List.mem_cons.mp member with same | later
                  · cases same
                  · exact links link resolved later)
              split
              · rename_i fault refused
                rw [refused] at entered
                exact entered
              · rename_i resolved after followed
                rw [followed] at entered
                refine ih resolved _ entered.1 others ?_
                intro link other member
                rcases List.mem_cons.mp member with same | later
                · cases same
                  exact entered.1
                · exact entered.2 link other later

/-- A link is followed to a clean path at every depth of links. -/
theorem canonicalWithin_follows (clean : tree.IsClean) (depth : Nat) :
    ∀ path target met, Path.IsClean path → Path.IsClean target → CleanLinks met →
      Follows (tree.canonicalWithin depth path target met) := by
  induction depth with
  | zero =>
    intro path target met _ _ _ refused
    cases refused
  | succ depth ih =>
    intro path target met own aim links
    rw [canonicalWithin]
    refine canonicalSteps_follows clean ih _ _ _ ?_ aim.names links
    split
    · exact .slash
    · exact own

theorem workdirText_isClean (clean : tree.IsClean) : Path.IsClean tree.workdirText :=
  Path.IsClean.slash.append (.intercalate clean.workdir)

/-- The canonical form of a path without NUL has none either, and is not refused for one. -/
theorem canonical_isClean (clean : tree.IsClean) (own : Path.IsClean path) :
    tree.canonical path ≠ .error .embeddedNul ∧
      ∀ file, tree.canonical path = .ok file → Path.IsClean file := by
  have followed := canonicalWithin_follows clean (tree.linkDepth path) "" path [] .empty own
    (fun _ _ member => by cases member)
  unfold canonical
  generalize tree.canonicalWithin (tree.linkDepth path) "" path [] = result at followed ⊢
  cases result with
  | error fault =>
    refine ⟨?_, fun file found => by cases found⟩
    intro refused
    cases refused
    exact followed rfl
  | ok result =>
    obtain ⟨reached, met⟩ := result
    refine ⟨?_, ?_⟩
    · intro refused
      cases refused
    · intro file found
      obtain rfl : Path.absolute tree.workdirText reached = file := Except.ok.inj found
      exact (workdirText_isClean clean).absolute followed.1

end Canonical

end FileTree

end CrateSurface
