namespace CrateSurface

/-- A node of a concrete syntax tree. Tokens are the nodes without children; `field` is the role
that the node plays in its parent, and `named` tells nodes of the grammar from bare punctuation. -/
structure Node where
  kind : String
  text : Option String
  field : Option String
  named : Bool
  error : Bool
  missing : Bool
  children : List Node
deriving Inhabited

namespace Node

def namedChildren (n : Node) : List Node :=
  n.children.filter (·.named)

/-- The first child that plays the given role. -/
def childByField? (n : Node) (role : String) : Option Node :=
  n.children.find? fun child => child.field == some role

/-- The first child of a kind. -/
def childOfKind? (n : Node) (kind : String) : Option Node :=
  n.children.find? fun child => child.kind == kind

def textOrEmpty (n : Node) : String :=
  n.text.getD ""

def isComment (n : Node) : Bool :=
  n.kind == "line_comment" || n.kind == "block_comment"

def isAttribute (n : Node) : Bool :=
  n.kind == "attribute_item" || n.kind == "inner_attribute_item"

/-- A place where the text does not follow the grammar: skipped text or an assumed token. -/
def isFault (n : Node) : Bool :=
  n.error || n.missing

mutual

/-- Whether the node or one of its descendants is a fault. -/
def hasFault : Node → Bool
  | ⟨_, _, _, _, error, missing, children⟩ => error || missing || anyFault children

def anyFault : List Node → Bool
  | [] => false
  | n :: rest => n.hasFault || anyFault rest

end

mutual

/-- The number of nodes of the tree. -/
def size : Node → Nat
  | ⟨_, _, _, _, _, _, children⟩ => sizeAll children + 1

def sizeAll : List Node → Nat
  | [] => 0
  | n :: rest => n.size + sizeAll rest

end

theorem sizeAll_append (xs ys : List Node) : sizeAll (xs ++ ys) = sizeAll xs + sizeAll ys := by
  induction xs with
  | nil => simp [sizeAll]
  | cons x xs ih => simp only [List.cons_append, sizeAll, ih]; omega

theorem sizeAll_reverse (xs : List Node) : sizeAll xs.reverse = sizeAll xs := by
  induction xs with
  | nil => rfl
  | cons x xs ih => simp only [List.reverse_cons, sizeAll_append, sizeAll, ih]; omega

theorem size_eq (n : Node) : n.size = sizeAll n.children + 1 := by
  cases n; simp [size]

/-- What a search for faults has to look at below a node, last child first. -/
def pushed (n : Node) : List Node :=
  if n.hasFault then n.children.reverse else []

theorem sizeAll_pushed_lt (n : Node) : sizeAll n.pushed < n.size := by
  rw [size_eq, pushed]
  split
  · rw [sizeAll_reverse]; omega
  · simp [sizeAll]

/-- Counts the faults of the trees on a stack without entering trees that hold none. -/
def faultsOnStack (stack : List Node) (count : Nat) : Nat :=
  match stack with
  | [] => count
  | n :: rest => faultsOnStack (n.pushed ++ rest) (if n.isFault then count + 1 else count)
termination_by sizeAll stack
decreasing_by
  have := n.sizeAll_pushed_lt
  simp only [sizeAll, sizeAll_append]
  omega

/-- The number of faults in the tree. -/
def faults (root : Node) : Nat :=
  faultsOnStack [root] 0

/-- A leaf of the grammar, such as an identifier. -/
def leaf (kind text : String) : Node :=
  ⟨kind, some text, none, true, false, false, []⟩

/-- A bare token: its kind is its text. -/
def token (text : String) : Node :=
  ⟨text, some text, none, false, false, false, []⟩

end Node

end CrateSurface
