import CrateSurface.Yaml.Token

namespace CrateSurface.Yaml

/-- A node of a YAML document. A tag is written in full; a scalar without a tag is `plain` if it
stands without quotes, and then its text decides what it is. `enclosing` is a node that refers to a
collection around it. -/
inductive Node where
  | scalar (tag : Option String) (text : List CodePoint) (plain : Bool)
  | sequence (tag : Option String) (items : List Node)
  | mapping (tag : Option String) (entries : List (Node × Node))
  | enclosing (isMapping : Bool)
deriving Inhabited

/-- A node that is left out. -/
def Node.absent : Node := .scalar none [] true

/-- What is known while nodes are built: the nodes with anchors, and what tag handles stand for. -/
structure Names where
  anchors : List (String × Node)
  handles : List (String × String)

def standardTag (name : String) : String :=
  "tag:yaml.org,2002:" ++ name

def Names.start : Names :=
  ⟨[], [("!", "!"), ("!!", standardTag "")]⟩

/-- The tag and the anchor before a node, in either order. -/
structure Properties where
  anchor : Option String
  tag : Option (Option String × String)

def properties : List Token → Properties × List Token
  | .anchor name :: .tag handle suffix :: rest => (⟨some name, some (handle, suffix)⟩, rest)
  | .tag handle suffix :: .anchor name :: rest => (⟨some name, some (handle, suffix)⟩, rest)
  | .anchor name :: rest => (⟨some name, none⟩, rest)
  | .tag handle suffix :: rest => (⟨none, some (handle, suffix)⟩, rest)
  | rest => (⟨none, none⟩, rest)

/-- A tag in full; `!` by itself is no tag. -/
def fullTag (names : Names) : Option (Option String × String) → Except Fault (Option String)
  | none => .ok none
  | some (none, suffix) => .ok (if suffix == "!" then none else some suffix)
  | some (some handle, suffix) =>
    match names.handles.lookup handle with
    | some expansion => .ok (some (expansion ++ suffix))
    | none => .error .tag

/-- Whether a node must be left out because one of these tokens follows. -/
def isOneOf (tokens : List Token) : List Token → Bool
  | [] => false
  | token :: _ => tokens.contains token

/-- Remembers a node under its anchor. -/
def Names.bind (names : Names) (anchor : Option String) (node : Node) : Names :=
  match anchor with
  | some name => { names with anchors := (name, node) :: names.anchors }
  | none => names

mutual

/-- Reads a node. `block` says that block collections may begin here, `indentless` that a sequence
may stand at the column of the mapping that holds it. -/
def readNode (block indentless : Bool) :
    (fuel : Nat) → Names → List Token → Except Fault (Node × Names × List Token)
  | 0, _, _ => .error .expectedNode
  | fuel + 1, names, tokens =>
    match tokens with
    | .alias name :: rest =>
      match names.anchors.lookup name with
      | some node => .ok (node, names, rest)
      | none => .error .undefinedAlias
    | _ => do
      let (given, rest) := properties tokens
      let tag ← fullTag names given.tag
      if given.anchor.any fun name => (names.anchors.lookup name).isSome then
        throw .duplicateAnchor
      let inside (isMapping : Bool) : Names := names.bind given.anchor (.enclosing isMapping)
      let bound (names : Names) (node : Node) (rest : List Token) :
          Except Fault (Node × Names × List Token) :=
        .ok (node, names.bind given.anchor node, rest)
      match rest with
      | .scalar text plain :: rest =>
        bound names (.scalar tag text (plain || (given.tag.isSome && tag.isNone))) rest
      | .flowSequenceStart :: rest =>
        let (items, names, rest) ← readFlowSequence true fuel (inside false) rest
        bound names (.sequence tag items) rest
      | .flowMappingStart :: rest =>
        let (entries, names, rest) ← readFlowMapping true fuel (inside true) rest
        bound names (.mapping tag entries) rest
      | .blockEntry :: _ =>
        if indentless then
          let (items, names, rest) ← readIndentless fuel (inside false) rest
          bound names (.sequence tag items) rest
        else if given.anchor.isSome || given.tag.isSome then bound names (.scalar tag [] true) rest
        else throw .expectedNode
      | .blockSequenceStart :: more =>
        if block then
          let (items, names, rest) ← readBlockSequence fuel (inside false) more
          bound names (.sequence tag items) rest
        else if given.anchor.isSome || given.tag.isSome then bound names (.scalar tag [] true) rest
        else throw .expectedNode
      | .blockMappingStart :: more =>
        if block then
          let (entries, names, rest) ← readBlockMapping fuel (inside true) more
          bound names (.mapping tag entries) rest
        else if given.anchor.isSome || given.tag.isSome then bound names (.scalar tag [] true) rest
        else throw .expectedNode
      | rest =>
        if given.anchor.isSome || given.tag.isSome then bound names (.scalar tag [] true) rest
        else throw .expectedNode

/-- Reads a node, or takes it as left out if one of the given tokens follows. -/
def readOptional (block indentless : Bool) (stops : List Token) :
    (fuel : Nat) → Names → List Token → Except Fault (Node × Names × List Token)
  | 0, _, _ => .error .expectedNode
  | fuel + 1, names, tokens =>
    if isOneOf stops tokens then .ok (.absent, names, tokens)
    else readNode block indentless fuel names tokens

/-- The items of a block sequence up to its end. -/
def readBlockSequence :
    (fuel : Nat) → Names → List Token → Except Fault (List Node × Names × List Token)
  | 0, _, _ => .error .expectedBlockEnd
  | fuel + 1, names, tokens =>
    match tokens with
    | .blockEnd :: rest => .ok ([], names, rest)
    | .blockEntry :: rest => do
      let (item, names, rest) ← readOptional true false [.blockEntry, .blockEnd] fuel names rest
      let (items, names, rest) ← readBlockSequence fuel names rest
      return (item :: items, names, rest)
    | _ => .error .expectedBlockEnd

/-- The items of a sequence at the column of its mapping. -/
def readIndentless :
    (fuel : Nat) → Names → List Token → Except Fault (List Node × Names × List Token)
  | 0, _, _ => .error .expectedBlockEnd
  | fuel + 1, names, tokens =>
    match tokens with
    | .blockEntry :: rest => do
      let (item, names, rest) ←
        readOptional true false [.blockEntry, .key, .value, .blockEnd] fuel names rest
      let (items, names, rest) ← readIndentless fuel names rest
      return (item :: items, names, rest)
    | _ => .ok ([], names, tokens)

/-- The entries of a block mapping up to its end. -/
def readBlockMapping :
    (fuel : Nat) → Names → List Token → Except Fault (List (Node × Node) × Names × List Token)
  | 0, _, _ => .error .expectedBlockEnd
  | fuel + 1, names, tokens =>
    match tokens with
    | .blockEnd :: rest => .ok ([], names, rest)
    | .key :: rest => do
      let (key, names, rest) ←
        readOptional true true [.key, .value, .blockEnd] fuel names rest
      let (value, names, rest) ← match rest with
        | .value :: rest => readOptional true true [.key, .value, .blockEnd] fuel names rest
        | rest => pure (.absent, names, rest)
      let (entries, names, rest) ← readBlockMapping fuel names rest
      return ((key, value) :: entries, names, rest)
    | .value :: _ => .error .expectedBlockEnd
    | _ => .error .expectedBlockEnd

/-- The items of a flow sequence up to its end. An entry with a key is a mapping of its own. -/
def readFlowSequence (first : Bool) :
    (fuel : Nat) → Names → List Token → Except Fault (List Node × Names × List Token)
  | 0, _, _ => .error .expectedFlowEnd
  | fuel + 1, names, tokens =>
    match tokens with
    | .flowSequenceEnd :: rest => .ok ([], names, rest)
    | _ => do
      let tokens ← if first then pure tokens else match tokens with
        | .flowEntry :: rest => pure rest
        | _ => throw .expectedFlowEnd
      match tokens with
      | .flowSequenceEnd :: rest => return ([], names, rest)
      | .key :: rest =>
        let stops := [Token.value, .flowEntry, .flowSequenceEnd]
        let (key, names, rest) ← readOptional false false stops fuel names rest
        let (value, names, rest) ← match rest with
          | .value :: rest =>
            readOptional false false [.flowEntry, .flowSequenceEnd] fuel names rest
          | rest => pure (.absent, names, rest)
        let (items, names, rest) ← readFlowSequence false fuel names rest
        return (.mapping none [(key, value)] :: items, names, rest)
      | tokens =>
        let (item, names, rest) ← readNode false false fuel names tokens
        let (items, names, rest) ← readFlowSequence false fuel names rest
        return (item :: items, names, rest)

/-- The entries of a flow mapping up to its end. -/
def readFlowMapping (first : Bool) :
    (fuel : Nat) → Names → List Token → Except Fault (List (Node × Node) × Names × List Token)
  | 0, _, _ => .error .expectedFlowEnd
  | fuel + 1, names, tokens =>
    match tokens with
    | .flowMappingEnd :: rest => .ok ([], names, rest)
    | _ => do
      let tokens ← if first then pure tokens else match tokens with
        | .flowEntry :: rest => pure rest
        | _ => throw .expectedFlowEnd
      match tokens with
      | .flowMappingEnd :: rest => return ([], names, rest)
      | .key :: rest =>
        let stops := [Token.value, .flowEntry, .flowMappingEnd]
        let (key, names, rest) ← readOptional false false stops fuel names rest
        let (value, names, rest) ← match rest with
          | .value :: rest =>
            readOptional false false [.flowEntry, .flowMappingEnd] fuel names rest
          | rest => pure (.absent, names, rest)
        let (entries, names, rest) ← readFlowMapping false fuel names rest
        return ((key, value) :: entries, names, rest)
      | tokens =>
        let (key, names, rest) ← readNode false false fuel names tokens
        let (entries, names, rest) ← readFlowMapping false fuel names rest
        return ((key, .absent) :: entries, names, rest)

end

/-- The directives before a document. A version other than 1 is refused, and so is a directive
that is given twice. -/
def directives (versioned : Bool) (given : List (String × String)) :
    List Token → Except Fault (Names × List Token)
  | .version major _ :: rest =>
    if versioned || major != 1 then .error .directive else directives true given rest
  | .tagHandle handle expansion :: rest =>
    if (given.lookup handle).isSome then .error .directive
    else directives versioned (given ++ [(handle, expansion)]) rest
  | .otherDirective :: rest => directives versioned given rest
  | rest => .ok (⟨[], given ++ Names.start.handles⟩, rest)

def dropDocumentEnds : List Token → List Token
  | .documentEnd :: rest => dropDocumentEnds rest
  | rest => rest

/-- Whether nothing but ends of documents follows. -/
def isAtEnd (tokens : List Token) : Bool :=
  dropDocumentEnds tokens == [.streamEnd]

def isDirective : Token → Bool
  | .version .. => true
  | .tagHandle .. => true
  | .otherDirective => true
  | _ => false

/-- The content of a document, which may be left out after an explicit start. -/
def documentContent (names : Names) (tokens : List Token) :
    Except Fault (Node × Names × List Token) :=
  let isEmpty : Bool := match tokens with
    | [] => true
    | token :: _ => isDirective token || [Token.documentStart, .documentEnd, .streamEnd].contains token
  if isEmpty then .ok (.absent, names, tokens)
  else readNode true false (2 * tokens.length + 2) names tokens

/-- The only document of a stream, if it has one. -/
def document? (tokens : List Token) : Except Fault (Option Node) := do
  let isExplicit : Bool := match tokens with
    | [] => true
    | token :: _ => isDirective token || [Token.documentStart, .streamEnd].contains token
  let (node, rest) ←
    if isExplicit then
      if isAtEnd tokens then return none
      let (names, rest) ← directives false [] (dropDocumentEnds tokens)
      match rest with
      | .documentStart :: rest => do
        let (node, _, rest) ← documentContent names rest
        pure (node, rest)
      | _ => throw .documentStart
    else do
      let (node, _, rest) ← readNode true false (2 * tokens.length + 2) Names.start tokens
      pure (node, rest)
  let rest := match rest with
    | .documentEnd :: rest => rest
    | rest => rest
  if isAtEnd rest then return some node else throw .severalDocuments

end CrateSurface.Yaml
