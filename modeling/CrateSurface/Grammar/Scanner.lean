import CrateSurface.Syntax.Node
import CrateSurface.Text.Identifier

namespace CrateSurface.Grammar

/-- Reads one token off the front of a text, or does not match. -/
abbrev Scanner := List Char → Option (Node × List Char)

/-- Whether a text goes on with a character that may continue an identifier. -/
def goesOnAsWord (cs : List Char) : Bool :=
  match cs with
  | c :: _ => Text.isIdentContinue c
  | [] => false

/-- Takes fixed characters off the front of a text. -/
def dropFront? : List Char → List Char → Option (List Char)
  | [], cs => some cs
  | _ :: _, [] => none
  | a :: as, c :: cs => if a == c then dropFront? as cs else none

/-- A keyword as a bare token. -/
def keyword (word : String) : Scanner :=
  let front := word.toList
  fun cs =>
    match dropFront? front cs with
    | some rest => if goesOnAsWord rest then none else some (Node.token word, rest)
    | none => none

/-- A keyword as a node of its own kind. -/
def keywordNode (kind word : String) : Scanner :=
  fun cs => (keyword word cs).map fun (_, rest) => (Node.leaf kind word, rest)

/-- Punctuation, unless one of the given characters follows and makes it longer. -/
def mark (text longer : String) : Scanner :=
  let front := text.toList
  let longer := longer.toList
  fun cs =>
    match dropFront? front cs with
    | some rest =>
      match rest with
      | c :: _ => if longer.contains c then none else some (Node.token text, rest)
      | [] => some (Node.token text, rest)
    | none => none

/-- An identifier without a raw marker. -/
def plainWord? (cs : List Char) : Option (List Char × List Char) :=
  match cs with
  | c :: rest =>
    if Text.isIdentStart c then
      some (c :: rest.takeWhile Text.isIdentContinue, rest.dropWhile Text.isIdentContinue)
    else none
  | [] => none

/-- An identifier; `r#` in front makes it raw. -/
def word? (cs : List Char) : Option (List Char × List Char) :=
  match cs with
  | 'r' :: '#' :: rest =>
    match plainWord? rest with
    | some (word, rest) => some ('r' :: '#' :: word, rest)
    | none => plainWord? cs
  | _ => plainWord? cs

/-- Words that name nothing where a name may stand beside other things. -/
def reservedWords : List String :=
  ["as", "async", "await", "break", "const", "continue", "dyn", "else", "enum", "extern", "false",
    "fn", "for", "if", "impl", "in", "let", "loop", "match", "mod", "move", "mut", "pub", "ref",
    "return", "static", "struct", "trait", "true", "type", "unsafe", "use", "where", "while",
    "yield", "self", "super", "crate"]

def primitiveTypes : List String :=
  ["u8", "i8", "u16", "i16", "u32", "i32", "u64", "i64", "u128", "i128", "isize", "usize", "f32",
    "f64", "bool", "str", "char"]

/-- Any word, as a leaf of a kind. -/
def anyWord (kind : String) : Scanner :=
  fun cs => (word? cs).map fun (word, rest) => (Node.leaf kind (String.ofList word), rest)

/-- A word that is free to be a name. -/
def name (kind : String) : Scanner :=
  fun cs =>
    match word? cs with
    | some (word, rest) =>
      let text := String.ofList word
      if reservedWords.contains text then none else some (Node.leaf kind text, rest)
    | none => none

def primitiveType (kind : String) : Scanner :=
  fun cs =>
    match plainWord? cs with
    | some (word, rest) =>
      let text := String.ofList word
      if primitiveTypes.contains text then some (Node.leaf kind text, rest) else none
    | none => none

/-- A lifetime or label: a quote and a word, with no closing quote behind it. -/
def lifetime (kind : String) : Scanner
  | '\'' :: cs =>
    match word? cs with
    | some (_, '\'' :: _) => none
    | some (word, rest) => some (Node.leaf kind (String.ofList ('\'' :: word)), rest)
    | none => none
  | _ => none

/-- A variable of a macro, such as `$x`. -/
def metavariable : Scanner
  | '$' :: cs =>
    match plainWord? cs with
    | some (word, rest) => some (Node.leaf "metavariable" (String.ofList ('$' :: word)), rest)
    | none => none
  | _ => none

def isHexDigit (c : Char) : Bool :=
  c.isDigit || ('a' ≤ c && c ≤ 'f') || ('A' ≤ c && c ≤ 'F')

/-- What follows a backslash in a literal: the characters that belong to the escape. -/
def escape? (cs : List Char) : Option (List Char × List Char) :=
  match cs with
  | 'x' :: a :: b :: rest =>
    if isHexDigit a && isHexDigit b then some (['x', a, b], rest) else none
  | 'u' :: '\x7b' :: rest =>
    match rest.takeWhile isHexDigit, rest.dropWhile isHexDigit with
    | [], _ => none
    | digits, '\x7d' :: rest => some ('u' :: '\x7b' :: digits ++ ['\x7d'], rest)
    | _, _ => none
  | 'u' :: a :: b :: c :: d :: rest =>
    if [a, b, c, d].all isHexDigit then some (['u', a, b, c, d], rest) else none
  | c :: rest => if c == 'x' || c == 'u' then none else some ([c], rest)
  | [] => none

/-- The text of a string up to its closing quote. -/
def stringBody? : (fuel : Nat) → List Char → Option (List Char × List Char)
  | 0, _ => none
  | _ + 1, [] => none
  | _ + 1, '"' :: rest => some (['"'], rest)
  | fuel + 1, '\\' :: rest => do
    let (escape, rest) ← escape? rest
    let (body, rest) ← stringBody? fuel rest
    return ('\\' :: escape ++ body, rest)
  | fuel + 1, c :: rest => do
    let (body, rest) ← stringBody? fuel rest
    return (c :: body, rest)

/-- A string, byte string or C string. -/
def stringLiteral : Scanner :=
  fun cs =>
    let opening := match cs with
      | '"' :: rest => some (['"'], rest)
      | 'b' :: '"' :: rest => some (['b', '"'], rest)
      | 'c' :: '"' :: rest => some (['c', '"'], rest)
      | _ => none
    match opening with
    | some (front, rest) => do
      let (body, rest) ← stringBody? (rest.length + 1) rest
      return (Node.leaf "string_literal" (String.ofList (front ++ body)), rest)
    | none => none

/-- The text of a raw string up to a quote with the given hashes behind it. -/
def rawBody? (closing : List Char) : List Char → Option (List Char × List Char)
  | [] => none
  | c :: rest =>
    match dropFront? closing (c :: rest) with
    | some after => some (closing, after)
    | none => (rawBody? closing rest).map fun (body, after) => (c :: body, after)

/-- A raw string: no escapes, and as many hashes behind it as before it. -/
def rawStringLiteral : Scanner :=
  fun cs =>
    let opening := match cs with
      | 'r' :: rest => some (['r'], rest)
      | 'b' :: 'r' :: rest => some (['b', 'r'], rest)
      | 'c' :: 'r' :: rest => some (['c', 'r'], rest)
      | _ => none
    match opening with
    | some (front, rest) =>
      let hashes := rest.takeWhile (· == '#')
      match rest.dropWhile (· == '#') with
      | '"' :: rest =>
        match rawBody? ('"' :: hashes) rest with
        | some (body, rest) =>
          some (Node.leaf "raw_string_literal"
            (String.ofList (front ++ hashes ++ '"' :: body)), rest)
        | none => none
      | _ => none
    | none => none

/-- A character or byte in quotes. -/
def charLiteral : Scanner :=
  fun cs =>
    let (front, body) := match cs with
      | 'b' :: rest => (['b'], rest)
      | _ => ([], cs)
    let content := match body with
      | '\'' :: '\\' :: rest => (escape? rest).map fun (escape, rest) => ('\\' :: escape, rest)
      | '\'' :: '\'' :: _ => some ([], body.drop 1)
      | '\'' :: c :: rest => some ([c], rest)
      | _ => none
    match content with
    | some (content, '\'' :: rest) =>
      some (Node.leaf "char_literal" (String.ofList (front ++ '\'' :: content ++ ['\''])), rest)
    | _ => none

def isNumberChar (c : Char) : Bool :=
  c.isDigit || c == '_'

def numberSuffixes : List String :=
  ["u8", "i8", "u16", "i16", "u32", "i32", "u64", "i64", "u128", "i128", "isize", "usize", "f32",
    "f64"]

/-- The type at the end of a number, if there is one: the longest that fits. -/
def numberSuffix (cs : List Char) : List Char × List Char :=
  let fitting := numberSuffixes.filterMap fun suffix =>
    (dropFront? suffix.toList cs).map fun rest => (suffix.toList, rest)
  fitting.foldl (fun best found => if best.1.length < found.1.length then found else best) ([], cs)

/-- The digits of an integer in its base. -/
def integerDigits? (cs : List Char) : Option (List Char × List Char) :=
  let based (base : Char) (isOne : Char → Bool) : Option (List Char × List Char) :=
    match cs with
    | '0' :: b :: rest =>
      if b == base then
        match rest.takeWhile isOne with
        | [] => none
        | digits => some ('0' :: b :: digits, rest.dropWhile isOne)
      else none
    | _ => none
  match based 'x' (fun c => isHexDigit c || c == '_'),
      based 'b' (fun c => c == '0' || c == '1' || c == '_'),
      based 'o' (fun c => ('0' ≤ c && c ≤ '7') || c == '_') with
  | some found, _, _ => some found
  | _, some found, _ => some found
  | _, _, some found => some found
  | none, none, none =>
    match cs with
    | c :: rest =>
      if c.isDigit then some (c :: rest.takeWhile isNumberChar, rest.dropWhile isNumberChar)
      else none
    | [] => none

def integerLiteral : Scanner :=
  fun cs =>
    match integerDigits? cs with
    | some (digits, rest) =>
      let (suffix, rest) := numberSuffix rest
      some (Node.leaf "integer_literal" (String.ofList (digits ++ suffix)), rest)
    | none => none

/-- The fraction of a number. A point before a letter or another point does not begin one, and then
the number is no fraction at all. -/
def fractionPart? (cs : List Char) : Option (List Char × List Char) :=
  match cs with
  | '.' :: rest =>
    match rest with
    | c :: _ =>
      if c.isAlpha || (c != '_' && c.toNat ≥ 0x80 && Text.isIdentStart c) || c == '.' then none
      else some ('.' :: rest.takeWhile isNumberChar, rest.dropWhile isNumberChar)
    | [] => some (['.'], [])
  | _ => some ([], cs)

/-- The exponent of a number, if there is one. -/
def exponentPart (cs : List Char) : List Char × List Char :=
  match cs with
  | e :: rest =>
    if e == 'e' || e == 'E' then
      let (sign, body) := match rest with
        | '+' :: more => (['+'], more)
        | '-' :: more => (['-'], more)
        | _ => ([], rest)
      match body.takeWhile isNumberChar with
      | [] => ([], cs)
      | digits => (e :: sign ++ digits, body.dropWhile isNumberChar)
    else ([], cs)
  | [] => ([], cs)

/-- A suffix such as `f64` at the end of a number with a fraction or an exponent. -/
def floatSuffix (cs : List Char) : List Char × List Char :=
  match cs with
  | c :: rest =>
    if c == 'u' || c == 'i' || c == 'f' then
      match rest.takeWhile Char.isDigit with
      | [] => ([], cs)
      | digits => (c :: digits, rest.dropWhile Char.isDigit)
    else ([], cs)
  | [] => ([], cs)

/-- A number with a fraction or an exponent. -/
def floatLiteral : Scanner
  | c :: rest =>
    if c.isDigit then
      match fractionPart? (rest.dropWhile isNumberChar) with
      | none => none
      | some (fraction, after) =>
        let (exponent, after) := exponentPart after
        if fraction.isEmpty && exponent.isEmpty then none
        else
          let (suffix, after) := floatSuffix after
          some (Node.leaf "float_literal"
            (String.ofList (c :: rest.takeWhile isNumberChar ++ fraction ++ exponent ++ suffix)),
            after)
    else none
  | [] => none

/-- The punctuation of token trees, longest first. -/
def treeMarks : List String :=
  ["<<=", ">>=", "...", "..=", "&&", "||", "<<", ">>", "+=", "-=", "*=", "/=", "%=", "^=", "&=",
    "|=", "==", "!=", ">=", "<=", "..", "::", "->", "=>", "+", "-", "*", "/", "%", "^", "!", "&",
    "|", "=", ">", "<", "@", ".", ",", ";", ":", "#", "?"]

/-- The longest punctuation of token trees. A slash never begins an unfinished comment. -/
def treeMark : Scanner :=
  fun cs =>
    match cs with
    | '/' :: '*' :: _ => none
    | _ => treeMarks.findSome? fun text =>
      (dropFront? text.toList cs).map fun rest => (Node.token text, rest)

end CrateSurface.Grammar
