import CrateSurface.Files.Path
import CrateSurface.Text.Quoted

namespace CrateSurface

/-- Why the file system refuses a path. -/
inductive OsFault where
  | notFound
  | alreadyThere
  | notDirectory
  | isDirectory
  | linkLoop
  | permissionDenied
  | nameTooLong
deriving Repr, DecidableEq

/-- The number of a refusal. -/
def OsFault.number : OsFault → Nat
  | .notFound => 2
  | .alreadyThere => 17
  | .notDirectory => 20
  | .isDirectory => 21
  | .linkLoop => 40
  | .permissionDenied => 13
  | .nameTooLong => 36

/-- What a refusal is called. -/
def OsFault.text : OsFault → String
  | .notFound => "No such file or directory"
  | .alreadyThere => "File exists"
  | .notDirectory => "Not a directory"
  | .isDirectory => "Is a directory"
  | .linkLoop => "Too many levels of symbolic links"
  | .permissionDenied => "Permission denied"
  | .nameTooLong => "File name too long"

/-- The text of a refusal; the path is shown in quotes. -/
def OsFault.message (fault : OsFault) (quotedPath : String) : String :=
  "[Errno " ++ toString fault.number ++ "] " ++ fault.text ++ ": " ++ quotedPath

/-- A refusal, with the path that was refused; or a path that holds the character NUL, which the
file system is not even asked about. -/
inductive PathFault where
  | system (fault : OsFault) (path : String)
  | embeddedNul
deriving Repr, DecidableEq

/-- The text of a fault with its path. -/
def PathFault.message : PathFault → String
  | .system fault path => fault.message (Text.quoted path)
  | .embeddedNul => "embedded null byte"

/-- What stands at a place of the file system. What is locked may be looked at from outside and
nothing else: a file that cannot be opened, or a directory that no path leads through. -/
inductive Inode where
  | file (bytes : List UInt8)
  | directory
  | link (target : String)
  | locked (isDirectory : Bool)
deriving Repr

/-- A place, as the names on the way from the root. -/
abbrev Location := List String

/-- A finite file system, seen from a working directory. -/
structure FileTree where
  entries : List (Location × Inode)
  workdir : Location

namespace FileTree

/-- What stands at a place. The root is a directory. -/
def inode? (tree : FileTree) : Location → Option Inode
  | [] => some .directory
  | place => (tree.entries.find? fun entry => entry.1 == place).map (·.2)

/-- Whether paths lead on from a place. -/
def isDirectoryAt (tree : FileTree) (place : Location) : Bool :=
  match tree.inode? place with
  | some .directory => true
  | _ => false

/-- Why no path leads on from a place. -/
def barrierAt (tree : FileTree) (place : Location) : OsFault :=
  match tree.inode? place with
  | some (.locked true) => .permissionDenied
  | _ => .notDirectory

/-- Puts something at a place, in the stead of what was there. -/
def put (tree : FileTree) (place : Location) (inode : Inode) : FileTree :=
  { tree with entries := tree.entries.filter (fun entry => entry.1 != place) ++ [(place, inode)] }

/-- How the last name of a path is treated. -/
inductive Ending where
  | follow
  | keepLink
  | mayBeNew
deriving DecidableEq

/-- The most bytes that a name has. -/
def nameLimit : Nat := 255

/-- The number of bytes of a name. A name that no text has shows each of its bytes as a character,
behind a NUL. -/
def nameSize (name : String) : Nat :=
  match name.toList with
  | '\x00' :: bytes => bytes.length
  | text => (text.flatMap String.utf8EncodeChar).length

/-- The names that a path leads down, of all the names between its slashes. A slash at its end asks
for a directory and stays as an empty name. -/
def stepsOf (names : List String) (slashAtEnd : Bool) : List String :=
  let full := names.filter (· != "")
  if slashAtEnd then full ++ [""] else full

def steps (path : String) : List String :=
  stepsOf (Path.names path) (path.toList.getLast? == some '/')

/-- Goes down the names from a directory; `enter` goes on behind a link. -/
def descend (tree : FileTree) (ending : Ending)
    (enter : Location → String → List String → Except OsFault Location) :
    Location → List String → Except OsFault Location
  | place, [] => .ok place
  | place, name :: rest =>
    if name == "" && tree.barrierAt place == .permissionDenied then
      descend tree ending enter place rest
    else if !tree.isDirectoryAt place then .error (tree.barrierAt place)
    else if name == "" || name == "." then descend tree ending enter place rest
    else if name == ".." then descend tree ending enter place.dropLast rest
    else
      match tree.inode? (place ++ [name]) with
      | none =>
        if nameLimit < nameSize name then .error .nameTooLong
        else if rest.isEmpty && ending == .mayBeNew then .ok (place ++ [name])
        else .error .notFound
      | some (.link target) =>
        if rest.isEmpty && ending == .keepLink then .ok (place ++ [name])
        else enter place target rest
      | some _ => descend tree ending enter (place ++ [name]) rest

/-- Resolves names from a directory, behind fewer than `links` symbolic links. -/
def resolveWithin (tree : FileTree) (ending : Ending) :
    (links : Nat) → Location → List String → Except OsFault Location
  | 0, _, _ => .error .linkLoop
  | links + 1, place, names =>
    descend tree ending (fun place target rest =>
      if target == "" then .error .notFound
      else
        resolveWithin tree ending links (if Path.isAbsolute target then [] else place)
          (steps target ++ rest)) place names

/-- The most symbolic links that one path may lead through. -/
def linkLimit : Nat := 40

/-- The place that a path leads to. -/
def resolve (tree : FileTree) (ending : Ending) (path : String) : Except PathFault Location :=
  if path.toList.contains '\x00' then .error .embeddedNul
  else if path == "" then .error (.system .notFound path)
  else
    (tree.resolveWithin ending (linkLimit + 1)
      (if Path.isAbsolute path then [] else tree.workdir) (steps path)).mapError
      fun fault => .system fault path

/-- What a path leads to. -/
def stat (tree : FileTree) (ending : Ending) (path : String) : Except PathFault Inode := do
  let place ← tree.resolve ending path
  match tree.inode? place with
  | some inode => .ok inode
  | none => .error (.system .notFound path)

/-- Whether a path leads to anything, links followed. -/
def pathExists (tree : FileTree) (path : String) : Bool :=
  (tree.stat .follow path).isOk

def isFile (tree : FileTree) (path : String) : Bool :=
  match tree.stat .follow path with
  | .ok (.file _) => true
  | .ok (.locked false) => true
  | _ => false

/-- The bytes of the file that a path leads to. -/
def readBytes (tree : FileTree) (path : String) : Except PathFault (List UInt8) := do
  match ← tree.stat .follow path with
  | .file bytes => .ok bytes
  | .locked _ => .error (.system .permissionDenied path)
  | _ => .error (.system .isDirectory path)

/-- The text of the working directory. -/
def workdirText (tree : FileTree) : String :=
  "/" ++ "/".intercalate tree.workdir

/-- The links met while a path is made canonical: `none` while the link is being followed, its
canonical path after that. -/
abbrev MetLinks := List (String × Option String)

/-- Takes the last name off a path that is canonical so far. -/
def stepUp (path : String) : String :=
  if path == "" then ".."
  else if Path.name path == ".." then Path.join (Path.join (Path.parent path) "..") ".."
  else Path.parent path

/-- Follows the names of a path one by one from a path that is canonical so far. -/
def canonicalSteps (tree : FileTree)
    (enter : String → String → MetLinks → Except PathFault (String × MetLinks)) :
    String → List String → MetLinks → Except PathFault (String × MetLinks)
  | path, [], met => .ok (path, met)
  | path, name :: rest, met =>
    if name == "" || name == "." then canonicalSteps tree enter path rest met
    else if name == ".." then canonicalSteps tree enter (stepUp path) rest met
    else
      let next := Path.join path name
      match tree.stat .keepLink next with
      | .error fault => .error fault
      | .ok (.link target) =>
        match met.lookup next with
        | some (some resolved) => canonicalSteps tree enter resolved rest met
        | some none => .error (.system .linkLoop next)
        | none =>
          match enter path target ((next, none) :: met) with
          | .error fault => .error fault
          | .ok (resolved, met) =>
            canonicalSteps tree enter resolved rest ((next, some resolved) :: met)
      | .ok _ => canonicalSteps tree enter next rest met

/-- Follows a path whose links lead through fewer than `depth` further links. -/
def canonicalWithin (tree : FileTree) :
    (depth : Nat) → String → String → MetLinks → Except PathFault (String × MetLinks)
  | 0, path, _, _ => .error (.system .linkLoop path)
  | depth + 1, path, target, met =>
    tree.canonicalSteps (tree.canonicalWithin depth) (if Path.isAbsolute target then "/" else path)
      (Path.names target) met

/-- A bound on how many links can lead through one another. The same link may be met under several
texts, as a relative path can climb above the working directory. -/
def linkDepth (tree : FileTree) (path : String) : Nat :=
  (tree.entries.length + 1) * (path.length + 1)

/-- The canonical absolute path of something that exists. -/
def canonical (tree : FileTree) (path : String) : Except PathFault String := do
  let (path, _) ← tree.canonicalWithin (tree.linkDepth path) "" path []
  return Path.absolute tree.workdirText path

end FileTree

end CrateSurface
