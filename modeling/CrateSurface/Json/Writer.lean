import CrateSurface.Json.Basic
import CrateSurface.Text.Quoted

namespace CrateSurface.Json

/-- The escapes that every JSON text needs. -/
def shortEscape? (c : Char) : Option (List Char) :=
  match c with
  | '"' => some ['\\', '"']
  | '\\' => some ['\\', '\\']
  | '\x08' => some ['\\', 'b']
  | '\x0c' => some ['\\', 'f']
  | '\n' => some ['\\', 'n']
  | '\r' => some ['\\', 'r']
  | '\t' => some ['\\', 't']
  | _ => none

def unicodeEscape (n : Nat) : List Char :=
  '\\' :: 'u' :: Text.hexDigits 4 n

/-- A character of a string, where only control characters need an escape. -/
def plainChar (c : Char) : List Char :=
  match shortEscape? c with
  | some escape => escape
  | none => if c.toNat < 0x20 then unicodeEscape c.toNat else [c]

/-- A character of a string in printable ASCII; characters beyond the first plane are written as
two surrogates. -/
def asciiChar (c : Char) : List Char :=
  match shortEscape? c with
  | some escape => escape
  | none =>
    if 0x20 ≤ c.toNat ∧ c.toNat < 0x7f then [c]
    else if c.toNat < 0x10000 then unicodeEscape c.toNat
    else
      let n := c.toNat - 0x10000
      unicodeEscape (0xd800 + n / 0x400) ++ unicodeEscape (0xdc00 + n % 0x400)

/-- A string in quotes. -/
def writeString (char : Char → List Char) (s : String) : List Char :=
  '"' :: s.toList.flatMap char ++ ['"']

/-- A number as JSON texts show it. -/
def writeFloat (x : Binary64) : List Char :=
  match x with
  | .nan => "NaN".toList
  | .infinite negative => (if negative then "-Infinity" else "Infinity").toList
  | x => x.text

mutual

/-- The value on one line without blanks. -/
def writeCompact : Json → List Char
  | .null => "null".toList
  | .bool b => (if b then "true" else "false").toList
  | .int n => intText n
  | .float x => writeFloat x
  | .str s => writeString plainChar s
  | .arr items => '[' :: writeItems items ++ [']']
  | .obj members => '\x7b' :: writeMembers members ++ ['\x7d']

def writeItems : List Json → List Char
  | [] => []
  | [item] => item.writeCompact
  | item :: rest => item.writeCompact ++ ',' :: writeItems rest

def writeMembers : List (String × Json) → List Char
  | [] => []
  | [(key, value)] => writeString plainChar key ++ ':' :: value.writeCompact
  | (key, value) :: rest =>
    writeString plainChar key ++ ':' :: value.writeCompact ++ ',' :: writeMembers rest

end

mutual

/-- Whether all numbers of the value are finite. -/
def allFinite : Json → Bool
  | .float x => x.isFinite
  | .arr items => allFiniteItems items
  | .obj members => allFiniteMembers members
  | _ => true

def allFiniteItems : List Json → Bool
  | [] => true
  | item :: rest => item.allFinite && allFiniteItems rest

def allFiniteMembers : List (String × Json) → Bool
  | [] => true
  | (_, value) :: rest => value.allFinite && allFiniteMembers rest

end

/-- The compact text of a value; numbers that are not finite have none. -/
def compact? (value : Json) : Option String :=
  if value.allFinite then some (String.ofList value.writeCompact) else none

/-- Puts a member before the first one with a greater key. -/
def insertMember (member : String × Json) : List (String × Json) → List (String × Json)
  | [] => [member]
  | other :: rest =>
    if member.1 < other.1 then member :: other :: rest else other :: insertMember member rest

/-- The members in the order of their keys. -/
def sortMembers (members : List (String × Json)) : List (String × Json) :=
  members.foldr insertMember []

mutual

/-- The value with the members of every object in the order of their keys. -/
def sorted : Json → Json
  | .arr items => .arr (sortedItems items)
  | .obj members => .obj (sortMembers (sortedMembers members))
  | value => value

def sortedItems : List Json → List Json
  | [] => []
  | item :: rest => item.sorted :: sortedItems rest

def sortedMembers : List (String × Json) → List (String × Json)
  | [] => []
  | (key, value) :: rest => (key, value.sorted) :: sortedMembers rest

end

def newline (depth : Nat) : List Char :=
  '\n' :: List.replicate (2 * depth) ' '

mutual

/-- The value in ASCII, one item or member a line, each level two blanks deeper. -/
def writeIndented (depth : Nat) : Json → List Char
  | .null => "null".toList
  | .bool b => (if b then "true" else "false").toList
  | .int n => intText n
  | .float x => writeFloat x
  | .str s => writeString asciiChar s
  | .arr [] => "[]".toList
  | .arr (item :: rest) => '[' :: indentItems (depth + 1) (item :: rest) ++ newline depth ++ [']']
  | .obj [] => ['\x7b', '\x7d']
  | .obj (member :: rest) =>
    '\x7b' :: indentMembers (depth + 1) (member :: rest) ++ newline depth ++ ['\x7d']

def indentItems (depth : Nat) : List Json → List Char
  | [] => []
  | [item] => newline depth ++ item.writeIndented depth
  | item :: rest => newline depth ++ item.writeIndented depth ++ ',' :: indentItems depth rest

def indentMembers (depth : Nat) : List (String × Json) → List Char
  | [] => []
  | [(key, value)] =>
    newline depth ++ writeString asciiChar key ++ ':' :: ' ' :: value.writeIndented depth
  | (key, value) :: rest =>
    newline depth ++ writeString asciiChar key ++ ':' :: ' ' :: value.writeIndented depth ++
      ',' :: indentMembers depth rest

end

/-- The value in ASCII with sorted keys, spread over lines. -/
def indented (value : Json) : String :=
  String.ofList (value.sorted.writeIndented 0)

end CrateSurface.Json
