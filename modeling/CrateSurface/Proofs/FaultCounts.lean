import CrateSurface.Proofs.CommentedTrees
import CrateSurface.Walk
import Mathlib.Algebra.GroupWithZero.Nat
import Mathlib.Logic.Function.Iterate

namespace CrateSurface

namespace Node

/-- The node or one of its descendants is a fault. -/
def HoldsFault (n : Node) : Prop :=
  ∃ fault ∈ n.subtrees, fault.isFault = true

/-- Whether flags tell which nodes of a tree are faults or have one below them. -/
def FlagsFaults (flagged : Node → Bool) (root : Node) : Prop :=
  ∀ n ∈ root.subtrees, flagged n = true ↔ n.HoldsFault

/-- The number of faults among all nodes of some trees. -/
def faultsAmong (trees : List Node) : Nat :=
  (trees.flatMap subtrees).countP isFault

theorem self_mem_subtrees (n : Node) : n ∈ n.subtrees := by
  rw [subtrees_eq]
  exact List.mem_cons_self ..

theorem subtrees_subset_of_mem_children {n child : Node} (member : child ∈ n.children) :
    child.subtrees ⊆ n.subtrees := by
  intro m below
  rw [n.subtrees_eq]
  exact List.mem_cons_of_mem _ (List.mem_flatMap_of_mem member below)

theorem holdsFault_iff (n : Node) :
    n.HoldsFault ↔ n.isFault = true ∨ ∃ child ∈ n.children, child.HoldsFault := by
  rw [HoldsFault, subtrees_eq, List.exists_mem_cons_iff]
  refine or_congr_right ?_
  constructor
  · rintro ⟨fault, among, isFault⟩
    obtain ⟨child, member, below⟩ := List.mem_flatMap.mp among
    exact ⟨child, member, fault, below, isFault⟩
  · rintro ⟨child, member, fault, below, isFault⟩
    exact ⟨fault, List.mem_flatMap_of_mem member below, isFault⟩

theorem anyFault_iff (trees : List Node) :
    anyFault trees = true ↔ ∃ n ∈ trees, n.hasFault = true := by
  induction trees with
  | nil => simp [anyFault]
  | cons n rest ih => rw [anyFault, Bool.or_eq_true, ih, List.exists_mem_cons_iff]

/-- The flag of a node says whether it holds a fault. -/
theorem hasFault_iff (n : Node) : n.hasFault = true ↔ n.HoldsFault := by
  have own : n.hasFault = (n.isFault || anyFault n.children) := by
    cases n
    rw [hasFault, isFault]
  have below : (∃ child ∈ n.children, child.hasFault = true) ↔
      ∃ child ∈ n.children, child.HoldsFault :=
    exists_congr fun child => and_congr_right fun member => hasFault_iff child
  rw [own, Bool.or_eq_true, anyFault_iff, below, holdsFault_iff]
termination_by n.size
decreasing_by exact size_lt_of_mem_children member

theorem faultsAmong_nil : faultsAmong [] = 0 :=
  rfl

theorem faultsAmong_cons (n : Node) (rest : List Node) :
    faultsAmong (n :: rest) =
      (if n.isFault then 1 else 0) + faultsAmong n.children + faultsAmong rest := by
  rw [faultsAmong, List.flatMap_cons, List.countP_append, subtrees_eq, List.countP_cons]
  rw [faultsAmong, faultsAmong]
  omega

theorem faultsAmong_append (xs ys : List Node) :
    faultsAmong (xs ++ ys) = faultsAmong xs + faultsAmong ys := by
  rw [faultsAmong, List.flatMap_append, List.countP_append, faultsAmong, faultsAmong]

theorem faultsAmong_reverse (trees : List Node) :
    faultsAmong trees.reverse = faultsAmong trees :=
  ((List.reverse_perm trees).flatMap_right subtrees).countP_eq isFault

theorem faultsAmong_single (n : Node) : faultsAmong [n] = n.subtrees.countP isFault := by
  rw [faultsAmong, List.flatMap_cons, List.flatMap_nil, List.append_nil]

/-- A tree without faults adds nothing, so that it need not be entered. -/
theorem faultsAmong_of_not_holdsFault {n : Node} (sound : ¬ n.HoldsFault) :
    n.isFault = false ∧ faultsAmong n.children = 0 := by
  have none : faultsAmong [n] = 0 := by
    rw [faultsAmong_single, List.countP_eq_zero]
    exact fun fault among isFault => sound ⟨fault, among, isFault⟩
  rw [faultsAmong_cons] at none
  cases own : n.isFault with
  | false => exact ⟨rfl, by omega⟩
  | true => simp [own] at none

end Node

open Node

/-- A search for faults between two rounds: the trees that it has still to look at, the next one
first, and the number of faults found. -/
structure FaultSearch where
  stack : List Node
  count : Nat

namespace FaultSearch

/-- One round: the next node is counted if it is a fault and, if it is flagged, its children come
next, the last one first. -/
def round (flagged : Node → Bool) : FaultSearch → FaultSearch
  | ⟨[], count⟩ => ⟨[], count⟩
  | ⟨n :: rest, count⟩ =>
    ⟨(if flagged n then n.children.reverse else []) ++ rest,
      if n.isFault then count + 1 else count⟩

variable {flagged : Node → Bool} {n : Node} {rest : List Node} {count : Nat}

/-- Each round leaves fewer nodes to look at. -/
theorem size_round_lt :
    sizeAll (round flagged ⟨n :: rest, count⟩).stack < sizeAll (n :: rest) := by
  have entered : sizeAll (if flagged n then n.children.reverse else []) < n.size := by
    rw [n.size_eq]
    split
    · rw [sizeAll_reverse]
      exact Nat.lt_succ_self _
    · exact Nat.succ_pos _
  rw [round, sizeAll_append, sizeAll]
  omega

/-- What a round counts and what it leaves to count are what there was to count, if the flag on the
node that it takes is right. -/
theorem round_balance (right : flagged n = true ↔ n.HoldsFault) :
    (round flagged ⟨n :: rest, count⟩).count +
        faultsAmong (round flagged ⟨n :: rest, count⟩).stack =
      count + faultsAmong (n :: rest) := by
  rw [round, faultsAmong_append, faultsAmong_cons]
  cases entered : flagged n with
  | true =>
    simp only [if_true, faultsAmong_reverse]
    split <;> omega
  | false =>
    have sound : ¬ n.HoldsFault := by
      rw [← right, entered]
      exact Bool.false_ne_true
    obtain ⟨own, below⟩ := faultsAmong_of_not_holdsFault sound
    simp [own, below, faultsAmong_nil]

theorem flags_round (right : ∀ root ∈ n :: rest, FlagsFaults flagged root) :
    ∀ root ∈ (round flagged ⟨n :: rest, count⟩).stack, FlagsFaults flagged root := by
  intro root member
  rw [round] at member
  rcases List.mem_append.mp member with below | later
  · have child : root ∈ n.children := by
      split at below
      · exact List.mem_reverse.mp below
      · cases below
    intro m inside
    exact right n (List.mem_cons_self ..) m (subtrees_subset_of_mem_children child inside)
  · exact right root (List.mem_cons_of_mem n later)

/-- A search ends within as many rounds as there are nodes to look at, and has then counted all
faults among them. -/
theorem rounds_finish (rounds : Nat) (search : FaultSearch)
    (enough : sizeAll search.stack ≤ rounds)
    (right : ∀ root ∈ search.stack, FlagsFaults flagged root) :
    (round flagged)^[rounds] search = ⟨[], search.count + faultsAmong search.stack⟩ := by
  induction rounds generalizing search with
  | zero =>
    obtain ⟨stack, count⟩ := search
    cases stack with
    | nil => rfl
    | cons n rest =>
      simp only [sizeAll, n.size_eq] at enough
      omega
  | succ rounds ih =>
    rw [Function.iterate_succ_apply]
    obtain ⟨stack, count⟩ := search
    cases stack with
    | nil => exact ih ⟨[], count⟩ (Nat.zero_le rounds) right
    | cons n rest =>
      have fewer : sizeAll (round flagged ⟨n :: rest, count⟩).stack ≤ rounds :=
        Nat.le_of_lt_succ (size_round_lt.trans_le enough)
      have first := right n (List.mem_cons_self ..) n n.self_mem_subtrees
      rw [ih _ fewer (flags_round right), round_balance first]

end FaultSearch

namespace Node

/-- The search that is guided by the faults themselves is made of these rounds, and its flags are
right. -/
theorem faultsOnStack_eq (stack : List Node) (count : Nat) :
    faultsOnStack stack count = count + faultsAmong stack := by
  induction stack, count using faultsOnStack.induct with
  | case1 count => rw [faultsOnStack, faultsAmong_nil, Nat.add_zero]
  | case2 count n rest ih =>
    simp only [dite_eq_ite] at ih
    rw [faultsOnStack, ih]
    exact FaultSearch.round_balance n.hasFault_iff

/-- The faults of a tree are counted over all its subtrees. -/
theorem faults_eq (root : Node) : root.faults = root.subtrees.countP isFault := by
  rw [faults, faultsOnStack_eq, Nat.zero_add, faultsAmong_single]

/-- The faults of a tree are those of its children, and itself if it is one. -/
theorem faults_eq_add_sum (root : Node) :
    root.faults = (if root.isFault then 1 else 0) + (root.children.map faults).sum := by
  have below : (root.children.map faults).sum = faultsAmong root.children := by
    rw [faultsAmong, List.countP_flatMap]
    exact congrArg List.sum (List.map_congr_left fun child _ => child.faults_eq)
  rw [below, faults_eq, ← faultsAmong_single, faultsAmong_cons, faultsAmong_nil, Nat.add_zero]

theorem hasFault_iff_faults_pos (root : Node) : root.hasFault = true ↔ 0 < root.faults := by
  rw [hasFault_iff, HoldsFault, faults_eq, List.countP_pos_iff]

end Node

section Opening

variable (allowFaults : Bool) (path : String) (source : Source)

/-- A file with faults is refused with their number, unless faults are allowed. -/
theorem openSource_eq :
    (openSource allowFaults path (.ok source)).2 =
      if source.root.hasFault = true ∧ allowFaults = false then
        .error (.unparsable path source.root.faults)
      else .ok source := by
  rw [openSource, acceptSource]
  cases source.root.hasFault with
  | false => rfl
  | true => cases allowFaults <;> rfl

/-- The one warning of opening a file is about the number of its faults. -/
theorem openSource_warnings :
    (openSource allowFaults path (.ok source)).1.filter (·.level == Log.warning) =
      if source.root.hasFault = true ∧ allowFaults = true then
        [⟨Log.warning, .parsing, "File " ++ path ++ " contains syntax errors (" ++
          toString source.root.faults ++ " error nodes); extracting partial tree"⟩]
      else [] := by
  rw [openSource, acceptSource]
  cases source.root.hasFault with
  | false => rfl
  | true => cases allowFaults <;> rfl

end Opening

/-- The search for faults ends, at the latest after as many rounds as the tree has nodes, if the
flags that it is guided by tell which nodes are faults or have one below them. Its count is then the
number of faults among all nodes of the tree, which the plain recursion gives as well. It is
positive if and only if the root is flagged, and then a file with this tree is refused for its
faults, or else, where they are allowed, warned of. -/
theorem faults_counted (root : Node) (flagged : Node → Bool) (right : FlagsFaults flagged root) :
    (FaultSearch.round flagged)^[root.size] ⟨[root], 0⟩ = ⟨[], root.faults⟩ ∧
    root.faults = root.subtrees.countP isFault ∧
    root.faults = (if root.isFault then 1 else 0) + (root.children.map faults).sum ∧
    (0 < root.faults ↔ flagged root = true) ∧
    ∀ allowFaults path size,
      (openSource allowFaults path (.ok ⟨size, root⟩)).2 =
        (if flagged root = true ∧ allowFaults = false then
          .error (.unparsable path root.faults)
        else .ok ⟨size, root⟩) ∧
      (openSource allowFaults path (.ok ⟨size, root⟩)).1.filter (·.level == Log.warning) =
        if flagged root = true ∧ allowFaults = true then
          [⟨Log.warning, .parsing, "File " ++ path ++ " contains syntax errors (" ++
            toString root.faults ++ " error nodes); extracting partial tree"⟩]
        else [] := by
  have whole : sizeAll [root] ≤ root.size := Nat.le_refl _
  have searched := FaultSearch.rounds_finish root.size ⟨[root], 0⟩ whole
    fun n member => List.mem_singleton.mp member ▸ right
  have counted : root.faults = 0 + faultsAmong [root] := faultsOnStack_eq [root] 0
  have marked : flagged root = true ↔ root.hasFault = true :=
    (right root root.self_mem_subtrees).trans root.hasFault_iff.symm
  refine ⟨?_, root.faults_eq, root.faults_eq_add_sum, ?_, ?_⟩
  · rw [searched, counted]
  · rw [marked, root.hasFault_iff_faults_pos]
  · intro allowFaults path size
    simp only [marked]
    exact ⟨openSource_eq allowFaults path ⟨size, root⟩,
      openSource_warnings allowFaults path ⟨size, root⟩⟩

namespace PatchyTree

/-- A node without faults. -/
def sound : Node :=
  .branch "struct_item" none [.token "struct", .leaf "type_identifier" "S"]

/-- Skipped text in which a token was assumed, with skipped text before it. -/
def skipped : Node :=
  { Node.branch "ERROR" none [{ Node.leaf "ERROR" "(" with error := true },
      .leaf "identifier" "x", { Node.token ";" with missing := true }] with error := true }

/-- A tree with skipped text between two sound items. -/
def root : Node :=
  .branch "source_file" none [sound, skipped, sound]

end PatchyTree

section

open PatchyTree

/-- The search of a tree with nested faults counts all of them and ends. -/
theorem nested_faults_counted :
    FlagsFaults hasFault root ∧
    (FaultSearch.round hasFault)^[root.size] ⟨[root], 0⟩ = ⟨[], 3⟩ ∧
    root.subtrees.countP isFault = 3 ∧
    (openSource false "/lib.rs" (.ok ⟨0, root⟩)).2 = .error (.unparsable "/lib.rs" 3) := by
  have right : FlagsFaults hasFault root := fun n _ => n.hasFault_iff
  have three : root.faults = 3 := by decide +kernel
  have flagged : root.hasFault = true := by decide +kernel
  obtain ⟨searched, counted, -, -, opened⟩ := faults_counted root hasFault right
  have refused := (opened false "/lib.rs" 0).1
  rw [if_pos ⟨flagged, rfl⟩] at refused
  rw [three] at searched counted refused
  exact ⟨right, searched, counted.symm, refused⟩

end

end CrateSurface
