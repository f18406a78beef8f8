import CrateSurface.Syntax.Node
import CrateSurface.Text.Alphanumeric
import CrateSurface.Text.Blank

namespace CrateSurface.Spelling

/-- A token that ends like a name or a number. Lifetimes and character literals are no words. -/
def isWord (token : String) : Bool :=
  match token.toList.head?, token.toList.getLast? with
  | some first, some last => first != '\'' && (Text.isAlphanumeric last || last == '_')
  | _, _ => false

/-- Tokens that nothing separates from the token before. -/
def closesUp (token : String) : Bool :=
  [",", ";", ":", "::", ">", ")", "]"].contains token

/-- Tokens that nothing separates from the token after. -/
def opensUp (token : String) : Bool :=
  ["<", "(", "[", "::", "?"].contains token

/-- Tokens that follow a word directly, as in `Fn(A)`, `[T]`, `Vec<T>` and `vec!`. -/
def attaches (token : String) : Bool :=
  ["(", "[", "<", "!"].contains token

def isMacroDelimiter (token : String) : Bool :=
  ["(", "[", "\x7b"].contains token

/-- The signs that stand before an operand. -/
def isSigil (token : String) : Bool :=
  ["&", "*", "&&"].contains token

/-- Keywords that keep a space before a bracket, as in `&mut (A, B)`. -/
def isSpacedKeyword (token : String) : Bool :=
  ["as", "const", "dyn", "extern", "for", "impl", "in", "move", "mut", "ref", "return", "static",
    "unsafe", "where"].contains token

/-- Whether `token` is a sigil that binds to what follows it: it stands first, or after a token
that ends no operand. -/
def isPrefixSigil (before : Option String) (token : String) : Bool :=
  isSigil token &&
    match before with
    | none => true
    | some before => !(isWord before || [")", "]", ">"].contains before)

/-- Whether `token` stands directly after `before`. `bound` says that `before` is a prefix sigil. -/
def isGlued (before : String) (bound : Bool) (token : String) : Bool :=
  closesUp token || opensUp before || bound || (before == "!" && isMacroDelimiter token) ||
    (attaches token && isWord before &&
      !((token == "(" || token == "[") && isSpacedKeyword before))

/-- The tokens after `before`, each with the space that goes in front of it. -/
def spacedAfter (before : String) (bound : Bool) : List String → List String
  | [] => []
  | token :: rest =>
    (if isGlued before bound token then token else " " ++ token) ::
      spacedAfter token (isPrefixSigil (some before) token) rest

/-- Writes tokens in their compact spelling: one space between neighbours unless the language
writes them together. -/
def join : List String → String
  | [] => ""
  | token :: rest => String.join (token :: spacedAfter token (isPrefixSigil none token) rest)

/-- Whether the spacing of some token hangs on the last character of an empty one. -/
def looksIntoEmpty : List String → Bool
  | before :: token :: rest =>
    (before == "" && (attaches token || isSigil token)) || looksIntoEmpty (token :: rest)
  | _ => false

/-- `join` for tokens that may be empty: there is no spelling where an empty token would have to
have a last character. -/
def join? (tokens : List String) : Option String :=
  if looksIntoEmpty tokens then none else some (join tokens)

end CrateSurface.Spelling

namespace CrateSurface.Node

/-- Kinds whose text is one token even though the tree divides it. -/
def isAtomic (kind : String) : Bool :=
  ["lifetime", "string_literal", "raw_string_literal", "char_literal"].contains kind

/-- The text of a leaf as a token, if it has any. -/
def ownTokens (text : Option String) : List String :=
  let token := Text.strip (text.getD "")
  if token == "" then [] else [token]

mutual

/-- The tokens of the tree in source order, comments left out. -/
def tokens : Node → List String
  | ⟨kind, text, _, _, _, _, children⟩ =>
    if kind == "line_comment" || kind == "block_comment" then []
    else if isAtomic kind || children.isEmpty then ownTokens text
    else tokensOf children

def tokensOf : List Node → List String
  | [] => []
  | n :: rest => n.tokens ++ tokensOf rest

end

/-- The canonical text of a tree: the same however the source was spaced and broken. -/
def render (n : Node) : String :=
  Spelling.join n.tokens

/-- The canonical text of a tree that may be absent. -/
def renderOption (n : Option Node) : String :=
  (n.map render).getD ""

/-- A return type; a missing one is the unit type. -/
def renderReturn (n : Option Node) : String :=
  (n.map render).getD "()"

/-- The bounds of a bound list, each on its own. -/
def renderBounds (bounds : Option Node) : List String :=
  match bounds with
  | none => []
  | some list => (list.namedChildren.filter fun child => !child.isComment).map render

/-- Unrestricted `pub`; a restricted one such as `pub(crate)` is private. -/
def isPublic (n : Node) : Bool :=
  match n.childOfKind? "visibility_modifier" with
  | some marker => marker.render == "pub"
  | none => false

end CrateSurface.Node
