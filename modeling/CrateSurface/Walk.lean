import CrateSurface.Files.View
import CrateSurface.Log.Note
import CrateSurface.Surface.Outline

namespace CrateSurface

/-- Why a crate does not form a module tree. -/
inductive WalkError where
  | missingRoot (path : String)
  | unresolved (name base : String)
  | notCanonical (path : String) (fault : PathFault)
  | unreadable (path : String) (fault : ReadFault)
  | unparsable (path : String) (faults : Nat)
deriving Repr, DecidableEq

/-- The text of an error. A path with a NUL in it is refused before anything is tried with it, so
that the refusal stands alone. -/
def WalkError.message : WalkError → String
  | .missingRoot path => "Missing library root " ++ path ++ " (expected src/lib.rs)."
  | .unresolved name base =>
    "Could not resolve pub mod '" ++ name ++ "' from base directory " ++ base ++ "."
  | .notCanonical _ .embeddedNul => PathFault.embeddedNul.message
  | .notCanonical path fault =>
    "Failed to canonicalize module path " ++ path ++ ": " ++ fault.message
  | .unreadable _ (.path .embeddedNul) => PathFault.embeddedNul.message
  | .unreadable path (.path fault) =>
    "Failed to read module file " ++ path ++ ": " ++ fault.message
  | .unreadable path (.notUtf8 reason) =>
    "Failed to read module file " ++ path ++ ": not valid UTF-8 (" ++ reason.text ++ ")"
  | .unparsable path faults =>
    "Failed to parse Rust module " ++ path ++ ": " ++ toString faults ++ " syntax error node(s)"

/-- The file behind `pub mod name;`: `name.rs`, or else `name/mod.rs`. -/
def moduleFile? (view : FileView) (base name : String) : Option String :=
  let direct := Path.join base (name ++ ".rs")
  let nested := Path.join (Path.join base name) "mod.rs"
  if view.pathExists direct then some direct
  else if view.pathExists nested then some nested
  else none

/-- The directory where a file's own modules are. `lib.rs`, `main.rs` and `mod.rs` share theirs,
any other file has a directory named after it. -/
def moduleBase (file : String) : String :=
  let name := Path.name file
  if name == "mod.rs" || name == "lib.rs" || name == "main.rs" then Path.parent file
  else
    let stem := Path.stem name
    Path.join (Path.parent file) (if stem == "" then "module" else stem)

/-- What a part of a walk brings: the records it appends, the canonical files seen after it, its
messages, and the error that ended it, if any. -/
structure Visit where
  records : List (Module String)
  seen : List String
  notes : List Log.Note
  failure : Option WalkError

namespace Visit

/-- A visit that brings only messages. -/
def remarking (notes : List Log.Note) (seen : List String) : Visit :=
  ⟨[], seen, notes, none⟩

def failing (error : WalkError) (notes : List Log.Note) (seen : List String) : Visit :=
  ⟨[], seen, notes, some error⟩

/-- Goes on with the files seen so far, unless there was an error. -/
def andThen (first : Visit) (next : List String → Visit) : Visit :=
  match first.failure with
  | some _ => first
  | none =>
    let second := next first.seen
    ⟨first.records ++ second.records, second.seen, first.notes ++ second.notes, second.failure⟩

end Visit

/-- The line of the log about a finished module. -/
def moduleNote (record : Module String) : Log.Note :=
  ⟨Log.debug, .walk, "Module " ++ pathLabel record.parts ++ ": " ++
    toString record.consts.length ++ " consts, " ++
    toString record.enums.length ++ " enums, " ++
    toString record.structs.length ++ " structs, " ++
    toString record.traits.length ++ " traits, " ++
    toString record.functions.length ++ " functions, " ++
    toString record.pendingMethods.length ++ " impl groups, " ++
    toString record.issues.length ++ " issues"⟩

/-- The line of the log for a remark. -/
def Remark.note (file : String) : Remark → Log.Note
  | .signature name params =>
    ⟨Log.debug, .signatures,
      "Extracted signature " ++ name ++ "(" ++ toString params ++ " params) in " ++ file⟩
  | .emptyImpl target =>
    ⟨Log.debug, .impls, "impl " ++ target ++ " in " ++ file ++ " has no public methods"⟩
  | .ignored kind => ⟨Log.debug, .items, "Ignoring " ++ kind ++ " item in " ++ file⟩

section Walk

variable (view : FileView) (visitFile : String → List String → List String → Visit)

/-- Ends a module: its record comes after those of its children. -/
def closeModule (record : Module String) (seen : List String) : Visit :=
  ⟨[record], seen, [moduleNote record], none⟩

mutual

/-- Goes through the entries of a module body in `file`, whose own modules are under `base`. -/
def visitEntries (file : String) (parts : List String) (base : String) :
    List Entry → List String → Visit
  | [], seen => .remarking [] seen
  | entry :: rest, seen =>
    (visitEntry file parts base entry seen).andThen (visitEntries file parts base rest)

/-- The visit of one entry of a body. -/
def visitEntry (file : String) (parts : List String) (base : String) :
    Entry → List String → Visit
  | .item contribution, seen => .remarking (contribution.remarks.map (Remark.note file)) seen
  | .inlineModule name body, seen =>
    (visitEntries file (parts ++ [name]) (Path.join base name) body seen).andThen
      (closeModule (Module.ofBody file (parts ++ [name]) body))
  | .fileModule name, seen =>
    match moduleFile? view base name with
    | some path => visitFile path (parts ++ [name]) seen
    | none => .failing (.unresolved name base) [] seen

end

/-- Goes through a whole module body and appends its record. -/
def visitBody (file : String) (parts : List String) (base : String) (body : List Entry)
    (seen : List String) : Visit :=
  (visitEntries view visitFile file parts base body seen).andThen
    (closeModule (Module.ofBody file parts body))

/-- The messages of a successful parse. -/
def parseNotes (size : Nat) : List Log.Note :=
  [⟨Log.debug, .parsing, "Created tree-sitter Rust parser"⟩,
    ⟨Log.debug, .parsing, "Parsed " ++ toString size ++ " bytes of Rust code"⟩]

/-- A syntax tree that may be used: without faults, or with faults where these are allowed. -/
def acceptSource (allowFaults : Bool) (path : String) (source : Source) :
    List Log.Note × Except WalkError Source :=
  let done : Log.Note := ⟨Log.debug, .parsing, "Successfully parsed file: " ++ path⟩
  if source.root.hasFault then
    if allowFaults then
      (parseNotes source.size ++ [⟨Log.warning, .parsing, "File " ++ path ++
        " contains syntax errors (" ++ toString source.root.faults ++
        " error nodes); extracting partial tree"⟩, done], .ok source)
    else (parseNotes source.size, .error (.unparsable path source.root.faults))
  else (parseNotes source.size ++ [done], .ok source)

/-- Reads and checks a source file. -/
def openSource (allowFaults : Bool) (path : String) (read : Except ReadFault Source) :
    List Log.Note × Except WalkError Source :=
  match read with
  | .error fault => ([], .error (.unreadable path fault))
  | .ok source => acceptSource allowFaults path source

/-- Visits the module file at a path unless its canonical file was seen before. -/
def visitPath (allowFaults : Bool) (path : String) (parts : List String) (seen : List String) :
    Visit :=
  match view.canonical path with
  | .error fault => .failing (.notCanonical path fault) [] seen
  | .ok file =>
    if file ∈ seen then
      .remarking [⟨Log.debug, .walk, "Skipping already visited module file " ++ file⟩] seen
    else
      let begun : Log.Note :=
        ⟨Log.info, .walk, "Extracting module " ++ pathLabel parts ++ " from " ++ file⟩
      match openSource allowFaults file (view.read file) with
      | (notes, .error error) => .failing error (begun :: notes) (seen ++ [file])
      | (notes, .ok source) =>
        (Visit.remarking (begun :: notes) (seen ++ [file])).andThen
          (visitBody view visitFile file parts (moduleBase file) source.root.outline)

end Walk

/-- The walk through files that are nested less than `depth` deep. -/
def walkWithin (view : FileView) (allowFaults : Bool) :
    (depth : Nat) → String → List String → List String → Visit
  | 0, _, _, seen => .remarking [] seen
  | depth + 1, path, parts, seen =>
    visitPath view (walkWithin view allowFaults depth) allowFaults path parts seen

/-- Walks the modules of a crate from the file at a path. Every file on the way to a nested one has
been seen, so that no nesting is deeper than there are files. -/
def walk (view : FileView) (allowFaults : Bool) (path : String) (parts : List String)
    (seen : List String) : Visit :=
  walkWithin view allowFaults (view.files.length + 1) path parts seen

/-- Walks a module body that is already there. -/
def walkBody (view : FileView) (allowFaults : Bool) (file : String) (parts : List String)
    (base : String) (body : List Entry) (seen : List String) : Visit :=
  visitBody view (walk view allowFaults) file parts base body seen

end CrateSurface
