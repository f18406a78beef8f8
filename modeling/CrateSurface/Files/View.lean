import CrateSurface.Files.Tree
import CrateSurface.Files.Utf8
import CrateSurface.Syntax.Node

namespace CrateSurface

/-- A source file that could be read: its size in bytes and its syntax tree. -/
structure Source where
  size : Nat
  root : Node

/-- Why a source file could not be read. -/
inductive ReadFault where
  | path (fault : PathFault)
  | notUtf8 (reason : Utf8.Reason)
deriving Repr, DecidableEq

/-- What a walk through a crate sees of the file system: which paths exist, what their canonical
forms are, and what the files at canonical paths hold. Only finitely many paths hold a source. -/
structure FileView where
  workdir : String
  files : List String
  pathExists : String → Bool
  isFile : String → Bool
  canonical : String → Except PathFault String
  read : String → Except ReadFault Source
  read_mem : ∀ path source, read path = .ok source → path ∈ files

namespace FileTree

/-- The source that a path leads to. -/
def readSource (tree : FileTree) (parse : List Char → Node) (path : String) :
    Except ReadFault Source := do
  let bytes ← (tree.readBytes path).mapError .path
  let text ← (Utf8.decode bytes).mapError fun fault => .notUtf8 fault.reason
  return ⟨bytes.length, parse text⟩

/-- The absolute paths of everything in the tree. -/
def paths (tree : FileTree) : List String :=
  tree.entries.map fun entry => "/" ++ "/".intercalate entry.1

/-- The view of a file tree through a parser. -/
def view (tree : FileTree) (parse : List Char → Node) : FileView where
  workdir := tree.workdirText
  files := tree.paths
  pathExists := tree.pathExists
  isFile := tree.isFile
  canonical := tree.canonical
  read path :=
    if path ∈ tree.paths then tree.readSource parse path
    else .error (.path (.system .notFound path))
  read_mem path source h := by
    split at h
    · assumption
    · cases h

end FileTree

end CrateSurface
