import CrateSurface.Files.Path
import CrateSurface.Files.Utf8
import CrateSurface.Text.CodePoint

namespace CrateSurface

/-- A path as a text in memory. Not every such text is the path of something: the file system knows
paths as bytes. -/
abbrev RawPath := List CodePoint

namespace CodePoint

/-- The byte that a surrogate stands for. A byte of a path that is part of no character is read as
such a surrogate, and written as the byte again. -/
def strayByte? (n : Fin 0x800) : Option UInt8 :=
  if 0x480 ≤ n.val ∧ n.val < 0x500 then some (UInt8.ofNat (n - 0x400)) else none

/-- The bytes of a code point in a path. -/
def bytes? : CodePoint → Option (List UInt8)
  | .char c => some (Utf8.encode (String.singleton c))
  | .surrogate n => (strayByte? n).map fun byte => [byte]

end CodePoint

namespace RawPath

def slash : CodePoint := .char '/'

def isAbsolute (path : RawPath) : Bool :=
  Path.startsAtRoot slash path

/-- The second path, under the first one if it is not absolute. -/
def join (base path : RawPath) : RawPath :=
  Path.under slash base path

/-- What comes after the last slash. -/
def name (path : RawPath) : RawPath :=
  (Path.cutAtLast slash path).2

/-- What comes before the last slash. -/
def parent (path : RawPath) : RawPath :=
  Path.beforeLast slash path

/-- The first surrogates that have no bytes: their position, and all the surrogates on from there. -/
def unencodable? (path : RawPath) : Option (Nat × List CodePoint) :=
  (path.findIdx? fun point => point.bytes?.isNone).map fun position =>
    (position, (path.drop position).takeWhile CodePoint.isSurrogate)

/-- The name that the file system has for a name. Bytes that are no text are shown as a name with a
NUL in front, which no text has for a name. -/
def systemName (name : RawPath) : String :=
  match Text.string? name with
  | some text => text
  | none =>
    let bytes := name.flatMap fun point => point.bytes?.getD []
    match Utf8.decode bytes with
    | .ok text => String.ofList text
    | .error _ => String.ofList ('\x00' :: bytes.map fun byte => Char.ofNat byte.toNat)

/-- The names between the slashes of a path, empty ones included. -/
def names (path : RawPath) : List String :=
  (path.splitOn slash).map systemName

end RawPath

end CrateSurface
