import CrateSurface.Grammar.Rule

namespace CrateSurface.Grammar

/-- The symbols of the Rust grammar. `braces` tells where a path may be followed by the fields of a
struct; in the head of an `if` or a loop a brace begins the body instead. -/
inductive Symbol where
  | type
  | bareType
  | traitBounds
  | bound
  | typeArguments
  | typeParameters
  | parameters
  | parameter
  | whereClause
  | path
  | valuePath
  | visibility
  | attributeItem
  | innerAttributeItem
  | tokenTree
  | ruleTree
  | ruleToken
  | rulePattern
  | rulePatternToken
  | pattern
  | barePattern
  | literal
  | expression (braces : Bool)
  | range (braces : Bool)
  | operation (level : Nat) (braces : Bool)
  | cast (braces : Bool)
  | operand (braces : Bool)
  | chain (braces : Bool)
  | primary (braces : Bool)
  | block
  | blockLike
  | ifExpression
  | arguments
  | fieldInitializers
  | matchBlock
  | fieldList
  | tupleFieldList
  | variantList
  | useClause
  | useList
  | memberList
  | function
  | item
  | statement (inBlock : Bool)
deriving DecidableEq

/-- A rule of the Rust grammar. -/
abbrev Part := Rule Symbol

namespace Part

def all : List Part → Part
  | [] => .empty
  | [part] => part
  | part :: rest => .seq part (all rest)

/-- Ordered choice; no part at all matches nothing. -/
def any : List Part → Part
  | [] => .butNot .empty
  | [part] => part
  | part :: rest => .alt part (any rest)

def opt (part : Part) : Part :=
  .alt part .empty

def word (text : String) : Part :=
  .token (keyword text)

/-- Punctuation wherever it stands. -/
def punct (text : String) : Part :=
  .token (mark text "")

/-- Punctuation that is not the beginning of a longer one. -/
def operator (text longer : String) : Part :=
  .token (mark text longer)

def comma : Part := punct ","
def semicolon : Part := punct ";"
def colon : Part := operator ":" ":"
def pathSep : Part := punct "::"
def arrow : Part := punct "->"
def assign : Part := operator "=" "=>"
def dot : Part := operator "." "."
def bang : Part := operator "!" "="
def dots : Part := operator ".." ".="
def openBrace : Part := punct "\x7b"
def closeBrace : Part := punct "\x7d"

def mutable : Part := .token (keywordNode "mutable_specifier" "mut")
def selfWord : Part := .token (keywordNode "self" "self")
def superWord : Part := .token (keywordNode "super" "super")
def crateWord : Part := .token (keywordNode "crate" "crate")
def identifier : Part := .token (name "identifier")
def anyIdentifier : Part := .token (anyWord "identifier")
def anyTypeIdentifier : Part := .token (anyWord "type_identifier")
def anyFieldIdentifier : Part := .token (anyWord "field_identifier")
def lifetimePart : Part := .token (lifetime "lifetime")
def dollarName : Part := .token metavariable

/-- One or more parts with commas between them. -/
def separated (part : Part) : Part :=
  .seq part (.many (.seq comma part))

/-- A list in brackets, which may be empty and may have a comma at its end. -/
def bracketed (opening : Part) (part : Part) (closing : Part) : Part :=
  all [opening, opt (separated part), opt comma, closing]

def attributes : Part := .many (.ref .attributeItem)

/-- A part that attributes may precede. -/
def attributed (part : Part) : Part :=
  .seq attributes part

end Part

end CrateSurface.Grammar
