import CrateSurface.Yaml.Scalar

namespace CrateSurface.Yaml

/-- Why a text is not YAML, or not YAML that stands for plain data. -/
inductive Fault where
  | specialCharacter
  | expectedColon
  | entryNotAllowed
  | keyNotAllowed
  | valueNotAllowed
  | cannotStartToken
  | directive
  | anchorName
  | tag
  | blockScalarHeader
  | endOfStream
  | escape
  | documentSeparator
  | documentStart
  | expectedNode
  | expectedBlockEnd
  | expectedFlowEnd
  | undefinedAlias
  | duplicateAnchor
  | severalDocuments
  | unhashableKey
  | unknownTag
  | wrongKind
deriving Repr, DecidableEq

def Fault.text : Fault → String
  | .specialCharacter => "special characters are not allowed"
  | .expectedColon => "could not find expected ':'"
  | .entryNotAllowed => "sequence entries are not allowed here"
  | .keyNotAllowed => "mapping keys are not allowed here"
  | .valueNotAllowed => "mapping values are not allowed here"
  | .cannotStartToken => "found character that cannot start any token"
  | .directive => "malformed directive"
  | .anchorName => "expected alphabetic or numeric character"
  | .tag => "malformed tag"
  | .blockScalarHeader => "malformed block scalar header"
  | .endOfStream => "found unexpected end of stream"
  | .escape => "found unknown escape character"
  | .documentSeparator => "found unexpected document separator"
  | .documentStart => "expected '<document start>'"
  | .expectedNode => "expected the node content"
  | .expectedBlockEnd => "expected <block end>"
  | .expectedFlowEnd => "expected ',' or a closing bracket"
  | .undefinedAlias => "found undefined alias"
  | .duplicateAnchor => "found duplicate anchor"
  | .severalDocuments => "expected a single document in the stream"
  | .unhashableKey => "found unhashable key"
  | .unknownTag => "could not determine a constructor for the tag"
  | .wrongKind => "expected a node of another kind"

/-- Why a document has no value: it is no YAML for plain data, or a number or a scalar in it has no
value. -/
inductive LoadFault where
  | yaml (fault : Fault)
  | value (fault : ValueFault)
deriving Repr, DecidableEq

instance : MonadLift (Except Fault) (Except LoadFault) :=
  ⟨Except.mapError .yaml⟩

/-- A piece of a YAML stream. -/
inductive Token where
  | version (major minor : Nat)
  | tagHandle (handle expansion : String)
  | otherDirective
  | documentStart
  | documentEnd
  | streamEnd
  | blockSequenceStart
  | blockMappingStart
  | blockEnd
  | flowSequenceStart
  | flowSequenceEnd
  | flowMappingStart
  | flowMappingEnd
  | flowEntry
  | blockEntry
  | key
  | value
  | alias (name : String)
  | anchor (name : String)
  | tag (handle : Option String) (suffix : String)
  | scalar (text : List CodePoint) (plain : Bool)
deriving Repr, DecidableEq

/-- A place where a key without a question mark may have begun. -/
structure KeyPlace where
  token : Nat
  required : Bool
  index : Nat
  line : Nat
  column : Int
deriving Repr

/-- The state of reading tokens. `indent` is the column of the innermost block collection, -1
outside any; `keys` holds for each depth of flow brackets where a key may have begun. -/
structure Reader where
  rest : List Char
  index : Nat
  line : Nat
  column : Int
  flow : Nat
  indent : Int
  indents : List Int
  keyAllowed : Bool
  keys : List (Nat × KeyPlace)
  tokens : List Token
  done : Bool

/-- The character that stands for the end of the text; it never occurs in one. -/
def ending : Char := '\x00'

def isBreak (c : Char) : Bool :=
  c == '\n' || c == '\r' || c == '\x85' || c == '\u2028' || c == '\u2029'

def endsLine (c : Char) : Bool :=
  c == ending || isBreak c

/-- Blank, or the end of a line or of the text. -/
def endsWord (c : Char) : Bool :=
  c == ' ' || c == '\t' || endsLine c

/-- Space, or the end of a line or of the text. -/
def endsField (c : Char) : Bool :=
  c == ' ' || endsLine c

def isNameChar (c : Char) : Bool :=
  c.isAlphanum || c == '-' || c == '_'

/-- The characters that a YAML text may hold. -/
def isAllowed (c : Char) : Bool :=
  let n := c.toNat
  n == 0x09 || n == 0x0a || n == 0x0d || (0x20 ≤ n && n ≤ 0x7e) || n == 0x85 ||
    (0xa0 ≤ n && n ≤ 0xd7ff) || (0xe000 ≤ n && n ≤ 0xfffd) || 0x10000 ≤ n

namespace Reader

def start (text : List Char) : Reader :=
  ⟨text, 0, 0, 0, 0, -1, [], true, [], [], false⟩

/-- The character `n` places ahead. -/
def peek (r : Reader) (n : Nat) : Char :=
  r.rest.getD n ending

def head (r : Reader) : Char := r.peek 0

/-- Moves over characters, keeping count of lines and columns. -/
def advance (r : Reader) : Nat → Reader
  | 0 => r
  | n + 1 =>
    match r.rest with
    | [] => r
    | c :: rest =>
      let moved := { r with rest, index := r.index + 1 }
      let moved :=
        if isBreak c && !(c == '\r' && rest.head? == some '\n') then
          { moved with line := r.line + 1, column := 0 }
        else if c != '\ufeff' then { moved with column := r.column + 1 }
        else moved
      moved.advance n

def push (r : Reader) (token : Token) : Reader :=
  { r with tokens := r.tokens ++ [token] }

def insert (r : Reader) (place : Nat) (token : Token) : Reader :=
  { r with tokens := r.tokens.take place ++ token :: r.tokens.drop place }

/-- Moves over characters as long as they satisfy a condition, and returns them. -/
def span (r : Reader) (p : Char → Bool) : List Char × Reader :=
  let taken := r.rest.takeWhile p
  (taken, r.advance taken.length)

def skipSpaces (r : Reader) : Reader :=
  (r.span (· == ' ')).2

/-- A line break in its normal form, if the text goes on with one. -/
def lineBreak (r : Reader) : List Char × Reader :=
  let c := r.head
  if c == '\r' && r.peek 1 == '\n' then (['\n'], r.advance 2)
  else if c == '\r' || c == '\n' || c == '\x85' then (['\n'], r.advance 1)
  else if c == '\u2028' || c == '\u2029' then ([c], r.advance 1)
  else ([], r)

/-- Whether a line begins with `---` or `...` here. -/
def atSeparator (r : Reader) : Bool :=
  let three := r.rest.take 3
  (three == ['-', '-', '-'] || three == ['.', '.', '.']) && endsWord (r.peek 3)

/-- Skips blanks, comments and line breaks. A new line may begin with a key. -/
def toNextToken (r : Reader) : (fuel : Nat) → Reader
  | 0 => r
  | fuel + 1 =>
    let r := if r.index == 0 && r.head == '\ufeff' then r.advance 1 else r
    let r := r.skipSpaces
    let r := if r.head == '#' then (r.span (fun c => !endsLine c)).2 else r
    let (taken, r) := r.lineBreak
    if taken.isEmpty then r
    else
      let r := if r.flow == 0 then { r with keyAllowed := true } else r
      r.toNextToken fuel

/-- Forgets places where a key can no longer have begun: keys keep to one line. -/
def dropStaleKeys (r : Reader) : Except Fault Reader :=
  let isStale (k : Nat × KeyPlace) : Bool := k.2.line != r.line || r.index - k.2.index > 1024
  if r.keys.any fun k => isStale k && k.2.required then .error .expectedColon
  else .ok { r with keys := r.keys.filter fun k => !isStale k }

/-- Forgets where a key may have begun at this depth. -/
def dropKey (r : Reader) : Except Fault Reader :=
  match r.keys.lookup r.flow with
  | some k =>
    if k.required then .error .expectedColon
    else .ok { r with keys := r.keys.filter fun k => k.1 != r.flow }
  | none => .ok r

/-- Remembers that a key may begin here. -/
def saveKey (r : Reader) : Except Fault Reader :=
  if r.keyAllowed then do
    let required := r.flow == 0 && r.indent == r.column
    let r ← r.dropKey
    return { r with keys := r.keys ++
      [(r.flow, ⟨r.tokens.length, required, r.index, r.line, r.column⟩)] }
  else .ok r

/-- Closes the block collections that are indented deeper than a column. -/
def unwindAll (r : Reader) (column : Int) : List Int → Reader
  | [] => if r.indent > column then { r with indent := -1, indents := [] }.push .blockEnd else r
  | outer :: rest =>
    if r.indent > column then
      ({ r with indent := outer, indents := rest }.push .blockEnd).unwindAll column rest
    else r

def unwind (r : Reader) (column : Int) : Reader :=
  if r.flow != 0 then r else r.unwindAll column r.indents

/-- Opens a block collection at a column, unless one is open there. -/
def openBlock (r : Reader) (column : Int) : Bool × Reader :=
  if r.indent < column then
    (true, { r with indents := r.indent :: r.indents, indent := column })
  else (false, r)

/-- Ends all blocks before a directive, a document mark or the end of the stream. -/
def endBlocks (r : Reader) : Except Fault Reader := do
  let r ← (r.unwind (-1)).dropKey
  return { r with keyAllowed := false }

def streamEnd (r : Reader) : Except Fault Reader := do
  let r ← r.endBlocks
  return { r.push .streamEnd with keys := [], done := true }

def documentMark (r : Reader) (token : Token) : Except Fault Reader := do
  let r ← r.endBlocks
  return (r.advance 3).push token

/-- The rest of a line that may hold nothing but a comment. -/
def ignoredLine (r : Reader) (fault : Fault) : Except Fault Reader :=
  let r := r.skipSpaces
  let r := if r.head == '#' then (r.span (fun c => !endsLine c)).2 else r
  if endsLine r.head then .ok r.lineBreak.2 else .error fault

def number (digits : List Char) : Nat :=
  digits.foldl (fun n c => 10 * n + (c.toNat - '0'.toNat)) 0

/-- The digits at the front as a number of a version. -/
def versionNumber (r : Reader) : Except LoadFault (Nat × Reader) := do
  let (digits, r) := r.span Char.isDigit
  if digits.isEmpty then throw (.yaml .directive)
  if digits.length > integerDigitLimit then throw (.value (.integer (.tooLong digits.length)))
  return (number digits, r)

def versionDirective (r : Reader) : Except LoadFault (Token × Reader) := do
  let (major, r) ← r.skipSpaces.versionNumber
  if r.head != '.' then throw (.yaml .directive)
  let (minor, r) ← (r.advance 1).versionNumber
  if !endsField r.head then throw (.yaml .directive)
  return (.version major minor, r)

def isUriChar (c : Char) : Bool :=
  c.isAlphanum || "-;/?:@&=+$,_.!~*'()[]%".toList.contains c

/-- `!`, `!!` or `!name!`. -/
def handle (r : Reader) (fault : Fault) : Except Fault (String × Reader) :=
  if r.head != '!' then .error fault
  else
    let name := (r.rest.drop 1).takeWhile isNameChar
    let closed := r.peek (1 + name.length) == '!'
    if name.isEmpty && !closed && r.peek 1 == ' ' then .ok ("!", r.advance 1)
    else if closed then
      .ok (String.ofList ('!' :: name ++ ['!']), r.advance (name.length + 2))
    else .error fault

def uri (r : Reader) (fault : Fault) : Except Fault (String × Reader) :=
  let (text, r) := r.span isUriChar
  if text.isEmpty then .error fault else .ok (String.ofList text, r)

def tagDirective (r : Reader) : Except Fault (Token × Reader) := do
  let (name, r) ← r.skipSpaces.handle .directive
  if r.head != ' ' then throw .directive
  let (expansion, r) ← r.skipSpaces.uri .directive
  if !endsField r.head then throw .directive
  return (.tagHandle name expansion, r)

def directive (r : Reader) : Except LoadFault Reader := do
  let r ← r.endBlocks
  let (name, r) := (r.advance 1).span isNameChar
  if name.isEmpty || !endsField r.head then throw (.yaml .directive)
  let (token, r) ←
    if name == "YAML".toList then r.versionDirective
    else if name == "TAG".toList then r.tagDirective
    else pure (Token.otherDirective, (r.span (fun c => !endsLine c)).2)
  let r ← r.ignoredLine .directive
  return r.push token

def flowStart (r : Reader) (token : Token) : Except Fault Reader := do
  let r ← r.saveKey
  return { (r.advance 1).push token with flow := r.flow + 1, keyAllowed := true }

def flowEnd (r : Reader) (token : Token) : Except Fault Reader := do
  let r ← r.dropKey
  return { (r.advance 1).push token with flow := r.flow - 1, keyAllowed := false }

def flowEntry (r : Reader) : Except Fault Reader := do
  let r ← { r with keyAllowed := true }.dropKey
  return (r.advance 1).push .flowEntry

/-- Opens a block collection here if there is none yet, for an entry, a key or a value. -/
def openHere (r : Reader) (token : Token) (fault : Fault) : Except Fault Reader :=
  if r.flow == 0 then
    if r.keyAllowed then
      let (isNew, r) := r.openBlock r.column
      .ok (if isNew then r.push token else r)
    else .error fault
  else .ok r

def blockEntry (r : Reader) : Except Fault Reader := do
  let r ← r.openHere .blockSequenceStart .entryNotAllowed
  let r ← { r with keyAllowed := true }.dropKey
  return (r.advance 1).push .blockEntry

def explicitKey (r : Reader) : Except Fault Reader := do
  let r ← r.openHere .blockMappingStart .keyNotAllowed
  let r ← { r with keyAllowed := r.flow == 0 }.dropKey
  return (r.advance 1).push .key

/-- A colon: either the token before it turns out to be a key, or it belongs to a question mark. -/
def mappingValue (r : Reader) : Except Fault Reader := do
  match r.keys.lookup r.flow with
  | some k =>
    let r := { r with keys := r.keys.filter fun k => k.1 != r.flow }
    let r := r.insert k.token .key
    let (isNew, r) := if r.flow == 0 then r.openBlock k.column else (false, r)
    let r := if isNew then r.insert k.token .blockMappingStart else r
    return ({ r with keyAllowed := false }.advance 1).push .value
  | none =>
    let r ← r.openHere .blockMappingStart .valueNotAllowed
    let r ← { r with keyAllowed := r.flow == 0 }.dropKey
    return (r.advance 1).push .value

/-- The name behind `&` or `*`. -/
def anchorName (r : Reader) : Except Fault (String × Reader) :=
  let (name, r) := (r.advance 1).span isNameChar
  if name.isEmpty then .error .anchorName
  else if endsWord r.head || "?:,]\x7d%@`".toList.contains r.head then
    .ok (String.ofList name, r)
  else .error .anchorName

/-- Whether the word behind `!` holds another `!`. -/
def hasHandle (r : Reader) : Bool :=
  ((r.rest.drop 1).takeWhile fun c => !endsField c).contains '!'

def tagToken (r : Reader) : Except Fault (Token × Reader) := do
  let (token, r) ←
    if r.peek 1 == '<' then do
      let (suffix, r) ← (r.advance 2).uri .tag
      if r.head != '>' then throw .tag
      pure (Token.tag none suffix, r.advance 1)
    else if endsWord (r.peek 1) then pure (Token.tag none "!", r.advance 1)
    else do
      let (handle, r) ← if r.hasHandle then r.handle .tag else pure ("!", r.advance 1)
      let (suffix, r) ← r.uri .tag
      pure (Token.tag (some handle) suffix, r)
  if endsField r.head then return (token, r) else throw .tag

/-- A token that may be a key. -/
def node (r : Reader) (scan : Reader → Except LoadFault (Token × Reader)) :
    Except LoadFault Reader := do
  let r ← r.saveKey
  let (token, r) ← scan { r with keyAllowed := false }
  return r.push token

/-- Blank lines inside a block scalar, up to the column of its text. -/
def blockBreaks (r : Reader) (column : Int) : (fuel : Nat) → List Char × Reader
  | 0 => ([], r)
  | fuel + 1 =>
    let indentation := (r.rest.takeWhile (· == ' ')).length
    let r := r.advance (min indentation (column - r.column).toNat)
    let (taken, r) := r.lineBreak
    if taken.isEmpty then ([], r)
    else
      let (more, r) := r.blockBreaks column fuel
      (taken ++ more, r)

/-- Blank lines at the start of a block scalar, and the deepest column among them. -/
def blockIndentation (r : Reader) (deepest : Int) : (fuel : Nat) → List Char × Int × Reader
  | 0 => ([], deepest, r)
  | fuel + 1 =>
    let r := r.skipSpaces
    let deepest := max deepest r.column
    let (taken, r) := r.lineBreak
    if taken.isEmpty then ([], deepest, r)
    else
      let (more, deepest, r) := r.blockIndentation deepest fuel
      (taken ++ more, deepest, r)

/-- The lines of a block scalar. `breaks` are the blank lines before the next one. The result has
the text, the last line break and the blank lines behind it. -/
def blockLines (r : Reader) (folded : Bool) (column : Int) (breaks : List Char) :
    (fuel : Nat) → List Char × List Char × List Char × Reader
  | 0 => ([], [], breaks, r)
  | fuel + 1 =>
    if r.column == column && r.head != ending then
      let begins := !(r.head == ' ' || r.head == '\t')
      let (line, r) := r.span (fun c => !endsLine c)
      let (taken, r) := r.lineBreak
      let (after, r) := r.blockBreaks column r.rest.length.succ
      if r.column == column && r.head != ending then
        let goesOn := !(r.head == ' ' || r.head == '\t')
        let joint :=
          if folded && taken == ['\n'] && begins && goesOn then
            (if after.isEmpty then [' '] else [])
          else taken
        let (more, last, tail, r) := r.blockLines folded column after fuel
        (breaks ++ line ++ joint ++ more, last, tail, r)
      else (breaks ++ line, taken, after, r)
    else ([], [], breaks, r)

/-- What stands behind `|` or `>`: which line breaks at the end are kept (`some true` all, `none`
one, `some false` none), and how much deeper the text is. -/
def blockHeader (r : Reader) : Except Fault (Option Bool × Option Nat × Reader) := do
  let chomp? (r : Reader) : Option Bool × Reader :=
    if r.head == '+' then (some true, r.advance 1)
    else if r.head == '-' then (some false, r.advance 1)
    else (none, r)
  let depth? (r : Reader) : Except Fault (Option Nat × Reader) :=
    if r.head.isDigit then
      let n := r.head.toNat - '0'.toNat
      if n == 0 then .error .blockScalarHeader else .ok (some n, r.advance 1)
    else .ok (none, r)
  let (chomp, r) := chomp? r
  let (depth, r) ← depth? r
  let (chomp, r) := if chomp.isSome || depth.isNone then (chomp, r) else chomp? r
  if endsField r.head then return (chomp, depth, r) else throw .blockScalarHeader

def blockScalar (r : Reader) (folded : Bool) : Except Fault Reader := do
  let r ← { r with keyAllowed := true }.dropKey
  let (chomp, depth, r) ← (r.advance 1).blockHeader
  let r ← r.ignoredLine .blockScalarHeader
  let least := max (r.indent + 1) 1
  let fuel := r.rest.length.succ
  let (breaks, column, r) := match depth with
    | none =>
      let (breaks, deepest, r) := r.blockIndentation 0 fuel
      (breaks, max least deepest, r)
    | some depth =>
      let column := least + depth - 1
      let (breaks, r) := r.blockBreaks column fuel
      (breaks, column, r)
  let (text, last, tail, r) := r.blockLines folded column breaks fuel
  let text := text ++ (if chomp == some false then [] else last) ++
    (if chomp == some true then tail else [])
  return r.push (.scalar (text.map .char) false)

/-- What an escape in double quotes stands for. -/
def escapes : List (Char × Char) :=
  [('0', '\x00'), ('a', '\x07'), ('b', '\x08'), ('t', '\t'), ('\t', '\t'), ('n', '\n'),
    ('v', '\x0b'), ('f', '\x0c'), ('r', '\r'), ('e', '\x1b'), (' ', ' '), ('"', '"'),
    ('\\', '\\'), ('/', '/'), ('N', '\x85'), ('_', '\xa0'), ('L', '\u2028'), ('P', '\u2029')]

def hexWidth? (c : Char) : Option Nat :=
  if c == 'x' then some 2 else if c == 'u' then some 4 else if c == 'U' then some 8 else none

def hexDigit? (c : Char) : Option Nat :=
  if c.isDigit then some (c.toNat - 48)
  else if 'a' ≤ c && c ≤ 'f' then some (c.toNat - 87)
  else if 'A' ≤ c && c ≤ 'F' then some (c.toNat - 55)
  else none

def hexNumber? (digits : List Char) : Option Nat :=
  digits.foldlM (fun n c => (hexDigit? c).map (16 * n + ·)) 0

/-- Line breaks between the lines of a quoted scalar. -/
def quotedBreaks (r : Reader) : (fuel : Nat) → Except Fault (List Char × Reader)
  | 0 => .ok ([], r)
  | fuel + 1 =>
    if r.atSeparator then .error .documentSeparator
    else do
      let (_, r) := r.span (fun c => c == ' ' || c == '\t')
      let (taken, r) := r.lineBreak
      if taken.isEmpty then return ([], r)
      let (more, r) ← r.quotedBreaks fuel
      return (taken ++ more, r)

/-- The text of a quoted scalar up to its closing quote. An escape may name a surrogate; two of them
in a row do not make a character. -/
def quotedText (r : Reader) (double : Bool) :
    (fuel : Nat) → Except LoadFault (List CodePoint × Reader)
  | 0 => .error (.yaml .endOfStream)
  | fuel + 1 => do
    let c := r.head
    if c == ending then throw (.yaml .endOfStream)
    else if c == ' ' || c == '\t' || isBreak c then
      let (blanks, r) := r.span (fun c => c == ' ' || c == '\t')
      let (taken, r) := r.lineBreak
      if taken.isEmpty then
        if r.head == ending then throw (.yaml .endOfStream)
        let (more, r) ← r.quotedText double fuel
        return (blanks.map .char ++ more, r)
      else
        let (breaks, r) ← r.quotedBreaks fuel
        let joint :=
          if taken != ['\n'] then taken else if breaks.isEmpty then [' '] else []
        let (more, r) ← r.quotedText double fuel
        return ((joint ++ breaks).map .char ++ more, r)
    else if !double && c == '\'' && r.peek 1 == '\'' then
      let (more, r) ← (r.advance 2).quotedText double fuel
      return (.char '\'' :: more, r)
    else if c == (if double then '"' else '\'') then return ([], r.advance 1)
    else if double && c == '\\' then
      let r := r.advance 1
      let e := r.head
      match escapes.lookup e, hexWidth? e with
      | some meaning, _ =>
        let (more, r) ← (r.advance 1).quotedText double fuel
        return (.char meaning :: more, r)
      | none, some width =>
        let digits := (r.rest.drop 1).take width
        match hexNumber? digits with
        | some n =>
          if digits.length != width then throw (.yaml .escape)
          if n > 0x10ffff then throw (.value (.codePoint n))
          let (more, r) ← (r.advance (1 + width)).quotedText double fuel
          return (.ofNat n :: more, r)
        | none => throw (.yaml .escape)
      | none, none =>
        if isBreak e then
          let (breaks, r) ← r.lineBreak.2.quotedBreaks fuel
          let (more, r) ← r.quotedText double fuel
          return (breaks.map .char ++ more, r)
        else throw (.yaml .escape)
    else
      let (more, r) ← (r.advance 1).quotedText double fuel
      return (.char c :: more, r)

def quoted (double : Bool) (r : Reader) : Except LoadFault (Token × Reader) := do
  let (text, r) ← (r.advance 1).quotedText double r.rest.length.succ
  return (.scalar text false, r)

/-- The length of a plain scalar's next word. A colon with a blank behind it ends it, in flow
brackets also a comma, a question mark or a bracket. -/
def plainLength (flow : Bool) : List Char → Nat
  | [] => 0
  | c :: rest =>
    let next := rest.headD ending
    if endsWord c then 0
    else if c == ':' && (endsWord next || (flow && ",[]\x7b\x7d".toList.contains next)) then 0
    else if flow && ",?[]\x7b\x7d".toList.contains c then 0
    else plainLength flow rest + 1

/-- Spaces and blank lines between the lines of a plain scalar; `none` if a document ends there. -/
def plainBreaks (r : Reader) : (fuel : Nat) → Option (List Char) × Reader
  | 0 => (some [], r)
  | fuel + 1 =>
    if r.atSeparator then (none, r)
    else
      let r := r.skipSpaces
      let (taken, r) := r.lineBreak
      if taken.isEmpty then (some [], r)
      else
        match r.plainBreaks fuel with
        | (some more, r) => (some (taken ++ more), r)
        | (none, r) => (none, r)

/-- What stands between two words of a plain scalar; nothing if the scalar ends. -/
def plainSpaces (r : Reader) : List Char × Reader :=
  let (blanks, r) := r.span (· == ' ')
  let (taken, r) := r.lineBreak
  if taken.isEmpty then (blanks, r)
  else
    let r := { r with keyAllowed := true }
    match r.plainBreaks r.rest.length.succ with
    | (none, r) => ([], r)
    | (some breaks, r) =>
      let joint := if taken != ['\n'] then taken else if breaks.isEmpty then [' '] else []
      (joint ++ breaks, r)

/-- The words of a plain scalar, which is indented at least to a column. -/
def plainWords (r : Reader) (column : Int) (spaces : List Char) : (fuel : Nat) → List Char × Reader
  | 0 => ([], r)
  | fuel + 1 =>
    let length := if r.head == '#' then 0 else plainLength (r.flow != 0) r.rest
    if length == 0 then ([], r)
    else
      let word := r.rest.take length
      let (between, r) := ({ r with keyAllowed := false }.advance length).plainSpaces
      if between.isEmpty || r.head == '#' || (r.flow == 0 && r.column < column) then
        (spaces ++ word, r)
      else
        let (more, r) := r.plainWords column between fuel
        (spaces ++ word ++ more, r)

def plain (r : Reader) : Except Fault (Token × Reader) :=
  let (text, r) := r.plainWords (r.indent + 1) [] r.rest.length.succ
  .ok (.scalar (text.map .char) true, r)

/-- Whether a plain scalar can begin here. -/
def beginsPlain (r : Reader) : Bool :=
  let c := r.head
  (!endsWord c && !"-?:,[]\x7b\x7d#&*!|>'\"%@`".toList.contains c) ||
    (!endsWord (r.peek 1) && (c == '-' || (r.flow == 0 && (c == '?' || c == ':'))))

/-- Reads the next token. -/
def next (r : Reader) : Except LoadFault Reader := do
  let r ← (r.toNextToken r.rest.length.succ).dropStaleKeys
  let r := r.unwind r.column
  let c := r.head
  let apart := endsWord (r.peek 1)
  if c == ending then r.streamEnd
  else if c == '%' && r.column == 0 then r.directive
  else if c == '-' && r.column == 0 && r.atSeparator then r.documentMark .documentStart
  else if c == '.' && r.column == 0 && r.atSeparator then r.documentMark .documentEnd
  else if c == '[' then r.flowStart .flowSequenceStart
  else if c == '\x7b' then r.flowStart .flowMappingStart
  else if c == ']' then r.flowEnd .flowSequenceEnd
  else if c == '\x7d' then r.flowEnd .flowMappingEnd
  else if c == ',' then r.flowEntry
  else if c == '-' && apart then r.blockEntry
  else if c == '?' && (r.flow != 0 || apart) then r.explicitKey
  else if c == ':' && (r.flow != 0 || apart) then r.mappingValue
  else if c == '*' then r.node fun r => do
    let (name, r) ← r.anchorName
    return (.alias name, r)
  else if c == '&' then r.node fun r => do
    let (name, r) ← r.anchorName
    return (.anchor name, r)
  else if c == '!' then r.node fun r => r.tagToken
  else if c == '|' && r.flow == 0 then r.blockScalar false
  else if c == '>' && r.flow == 0 then r.blockScalar true
  else if c == '\'' then r.node (quoted false)
  else if c == '"' then r.node (quoted true)
  else if r.beginsPlain then r.node fun r => r.plain
  else throw (.yaml .cannotStartToken)

/-- Reads tokens up to the end of the stream. Every token but the last takes a character. -/
def readAll (r : Reader) : (fuel : Nat) → Except LoadFault (List Token)
  | 0 => .error (.yaml .endOfStream)
  | fuel + 1 => do
    let r ← r.next
    if r.done then return r.tokens else r.readAll fuel

end Reader

/-- The tokens of a text. -/
def tokens (text : List Char) : Except LoadFault (List Token) :=
  if text.all isAllowed then (Reader.start text).readAll (text.length + 2)
  else .error (.yaml .specialCharacter)

end CrateSurface.Yaml
