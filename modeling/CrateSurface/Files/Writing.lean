import CrateSurface.Files.RawPath
import CrateSurface.Files.Tree

namespace CrateSurface

/-- Why something could not be written: a refusal, with the path that was refused; or a path that the
file system is not even asked about, because it has no bytes or holds a NUL. -/
inductive WriteFault where
  | system (fault : OsFault) (path : RawPath)
  | unencodable (position : Nat) (surrogates : List CodePoint)
  | embeddedNul
deriving Repr, DecidableEq

/-- What code points without bytes are called, by their position. -/
def unencodableText (position : Nat) : List CodePoint → String
  | [point] => "character '" ++ Text.shown [point] ++ "' in position " ++ toString position
  | points =>
    "characters in position " ++ toString position ++ "-" ++
      toString (position + points.length - 1)

/-- The text of a fault, as the run that it breaks off shows it. -/
def WriteFault.message : WriteFault → String
  | .system fault path => fault.message (Text.quotedPoints path)
  | .unencodable position surrogates =>
    "'utf-8' codec can't encode " ++ unencodableText position surrogates ++
      ": surrogates not allowed"
  | .embeddedNul => "embedded null byte"

/-- Whether the place was taken. -/
def WriteFault.isAlreadyThere : WriteFault → Bool
  | .system .alreadyThere _ => true
  | _ => false

/-- Why the file system is not asked about a path, if it is not. -/
def RawPath.fault? (path : RawPath) : Option WriteFault :=
  match path.unencodable? with
  | some (position, surrogates) => some (.unencodable position surrogates)
  | none => if path.contains (.char '\x00') then some .embeddedNul else none

namespace FileTree

/-- The directory that the names of a path lead down from. -/
def startOf (tree : FileTree) (path : RawPath) : Location :=
  if path.isAbsolute then [] else tree.workdir

/-- The place that a path leads to. -/
def resolveRaw (tree : FileTree) (ending : Ending) (path : RawPath) : Except WriteFault Location :=
  match path.fault? with
  | some fault => .error fault
  | none =>
    if path.isEmpty then .error (.system .notFound path)
    else
      (tree.resolveWithin ending (linkLimit + 1) (tree.startOf path)
        (stepsOf path.names (path.getLast? == some RawPath.slash))).mapError
        fun fault => .system fault path

/-- What a path leads to, links followed, if it leads to anything. -/
def inodeOf? (tree : FileTree) (path : RawPath) : Option Inode :=
  (tree.resolveRaw .follow path).toOption.bind tree.inode?

/-- Whether a path leads to anything. -/
def rawPathExists (tree : FileTree) (path : RawPath) : Bool :=
  (tree.inodeOf? path).isSome

/-- Whether a path leads to a directory, which may be locked. -/
def isDirectory (tree : FileTree) (path : RawPath) : Bool :=
  match tree.inodeOf? path with
  | some .directory => true
  | some (.locked true) => true
  | _ => false

/-- Makes the directory of a path that the file system can be asked about. -/
def makeNamed (tree : FileTree) (path : RawPath) : Except OsFault FileTree :=
  let names := path.names.filter (· != "")
  match names.getLast? with
  | none => .error (if path.isEmpty then .notFound else .alreadyThere)
  | some last => do
    let place ← tree.resolveWithin .follow (linkLimit + 1) (tree.startOf path) names.dropLast
    if !tree.isDirectoryAt place then .error (tree.barrierAt place)
    else if last == "." || last == ".." || (tree.inode? (place ++ [last])).isSome then
      .error .alreadyThere
    else if nameLimit < nameSize last then .error .nameTooLong
    else .ok (tree.put (place ++ [last]) .directory)

/-- Makes one directory. -/
def makeDirectory (tree : FileTree) (path : RawPath) : Except WriteFault FileTree :=
  match path.fault? with
  | some fault => .error fault
  | none => (tree.makeNamed path).mapError fun fault => .system fault path

/-- The directory that has to be there before `path` can be made, and the name it gets there. -/
def cutForMaking (path : RawPath) : RawPath × RawPath :=
  if path.name.isEmpty then (path.parent.parent, path.parent.name)
  else (path.parent, path.name)

/-- Makes one directory unless it is there already. -/
def ensureDirectory (tree : FileTree) (path : RawPath) : FileTree × Option WriteFault :=
  match tree.makeDirectory path with
  | .ok tree => (tree, none)
  | .error (.system fault refused) =>
    if tree.isDirectory path then (tree, none) else (tree, some (.system fault refused))
  | .error fault => (tree, some fault)

/-- Makes a directory and those above it that are missing; one that is already there is fine. The
tree is returned with what was made before a refusal. -/
def makeDirectories (tree : FileTree) (path : RawPath) :
    (fuel : Nat) → FileTree × Option WriteFault
  | 0 => (tree, none)
  | fuel + 1 =>
    let (above, last) := cutForMaking path
    let missing := !above.isEmpty && !last.isEmpty && !tree.rawPathExists above
    let (tree, fault) := if missing then tree.makeDirectories above fuel else (tree, none)
    match fault.filter fun fault => !fault.isAlreadyThere with
    | some fault => (tree, some fault)
    | none =>
      if missing && last == [.char '.'] then (tree, none) else tree.ensureDirectory path

/-- Writes a file, which may be new. -/
def putFile (tree : FileTree) (path : RawPath) (bytes : List UInt8) :
    Except WriteFault FileTree := do
  let place ← tree.resolveRaw .mayBeNew path
  match tree.inode? place with
  | some .directory => .error (.system .isDirectory path)
  | some (.locked true) => .error (.system .isDirectory path)
  | some (.locked false) => .error (.system .permissionDenied path)
  | _ => .ok (tree.put place (.file bytes))

end FileTree

end CrateSurface
