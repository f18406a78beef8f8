import CrateSurface.Grammar.Scanner

namespace CrateSurface.Grammar

/-- Where the reader of blanks and comments stands. A block comment remembers where it began, how
deep it is nested and its text so far, last character first; `pair` means that the next character
ends a two-character bracket. -/
inductive Gap where
  | between
  | line (text : List Char)
  | block (start : List Char) (depth : Nat) (pair : Bool) (text : List Char)

def isGapChar (c : Char) : Bool :=
  c == ' ' || c == '\t' || c == '\n' || c == '\r' || c == '\x0b' || c == '\x0c'

def commentLeaf (kind : String) (reversed : List Char) : Node :=
  Node.leaf kind (String.ofList reversed.reverse)

/-- Skips blanks and comments; the comments are kept as nodes. A block comment that never ends is
not skipped. -/
def skipGap : Gap → List Char → List Node × List Char
  | .between, [] => ([], [])
  | .line text, [] => ([commentLeaf "line_comment" text], [])
  | .block start _ _ _, [] => ([], start)
  | .between, c :: rest =>
    if isGapChar c then skipGap .between rest
    else if c == '/' && rest.head? == some '/' then skipGap (.line [c]) rest
    else if c == '/' && rest.head? == some '*' then skipGap (.block (c :: rest) 1 true [c]) rest
    else ([], c :: rest)
  | .line text, c :: rest =>
    if c == '\n' then
      let (comments, rest) := skipGap .between rest
      (commentLeaf "line_comment" text :: comments, rest)
    else skipGap (.line (c :: text)) rest
  | .block start depth true text, c :: rest =>
    if depth == 0 then
      let (comments, rest) := skipGap .between rest
      (commentLeaf "block_comment" (c :: text) :: comments, rest)
    else skipGap (.block start depth false (c :: text)) rest
  | .block start depth false text, c :: rest =>
    if c == '*' && rest.head? == some '/' then
      skipGap (.block start (depth - 1) true (c :: text)) rest
    else if c == '/' && rest.head? == some '*' then
      skipGap (.block start (depth + 1) true (c :: text)) rest
    else skipGap (.block start depth false (c :: text)) rest

/-- A place in a text: the comments since the last token, and the text from the next one on. -/
structure Cursor where
  comments : List Node
  rest : List Char

/-- The place behind a token. -/
def Cursor.after (rest : List Char) : Cursor :=
  let (comments, rest) := skipGap .between rest
  ⟨comments, rest⟩

/-- A grammar rule over the symbols `σ`. Choices are ordered: the first alternative that matches is
taken. -/
inductive Rule (σ : Type) where
  /-- One token. -/
  | token (scan : Scanner)
  /-- Characters that leave no trace in the tree. -/
  | skip (scan : List Char → Option (List Char))
  | ref (symbol : σ)
  | empty
  | seq (first second : Rule σ)
  | alt (first second : Rule σ)
  /-- As often as possible. -/
  | many (body : Rule σ)
  /-- A node around what the body matches. -/
  | node (kind : String) (body : Rule σ)
  /-- Gives the node that the body yields a role in its parent. -/
  | role (name : String) (body : Rule σ)
  /-- Matches if the body would, and takes nothing. -/
  | ahead (body : Rule σ)
  /-- Matches if the body would not, and takes nothing. -/
  | butNot (body : Rule σ)
  /-- The head, and then as often as possible one of the tails. A tail has a kind, a role for what
  comes before it, and a rule; it puts a node around all that was matched so far. -/
  | grow (head : Rule σ) (tails : List (String × Option String × Rule σ))
  /-- The head and then exactly one of the tails; a tail without kind makes no node. -/
  | fork (head : Rule σ) (tails : List (String × Option String × Rule σ))

/-- Gives the first node that is no comment a role. -/
def giveRole (role : String) : List Node → List Node
  | [] => []
  | n :: rest => if n.isComment then n :: giveRole role rest else { n with field := some role } :: rest

/-- A node around a forest; comments at the front belong before it. -/
def wrap (kind : String) (forest : List Node) : List Node :=
  forest.takeWhile Node.isComment ++
    [⟨kind, none, none, true, false, false, forest.dropWhile Node.isComment⟩]

/-- A tail's node around what came before it and what it matched. -/
def wrapTail (kind : String) (role : Option String) (head tail : List Node) : List Node :=
  let head := match role with
    | some role => giveRole role head
    | none => head
  if kind == "" then head ++ tail else wrap kind (head ++ tail)

mutual

/-- Matches a rule at a place. The result is the forest that it yields and the place behind it.
The fuel bounds the depth of the derivation. -/
def run {σ : Type} (grammar : σ → Rule σ) :
    (fuel : Nat) → Rule σ → Cursor → Option (List Node × Cursor)
  | 0, _, _ => none
  | fuel + 1, rule, cursor =>
    match rule with
    | .token scan =>
      match scan cursor.rest with
      | some (n, rest) => some (cursor.comments ++ [n], .after rest)
      | none => none
    | .skip scan =>
      match scan cursor.rest with
      | some rest =>
        let behind := Cursor.after rest
        some ([], ⟨cursor.comments ++ behind.comments, behind.rest⟩)
      | none => none
    | .ref symbol => run grammar fuel (grammar symbol) cursor
    | .empty => some ([], cursor)
    | .seq first second =>
      match run grammar fuel first cursor with
      | some (xs, cursor) =>
        match run grammar fuel second cursor with
        | some (ys, cursor) => some (xs ++ ys, cursor)
        | none => none
      | none => none
    | .alt first second =>
      match run grammar fuel first cursor with
      | some found => some found
      | none => run grammar fuel second cursor
    | .many body =>
      match run grammar fuel body cursor with
      | some (xs, cursor) =>
        match run grammar fuel (.many body) cursor with
        | some (ys, cursor) => some (xs ++ ys, cursor)
        | none => none
      | none => some ([], cursor)
    | .node kind body =>
      match run grammar fuel body cursor with
      | some (xs, cursor) => some (wrap kind xs, cursor)
      | none => none
    | .role name body =>
      match run grammar fuel body cursor with
      | some (xs, cursor) => some (giveRole name xs, cursor)
      | none => none
    | .ahead body =>
      match run grammar fuel body cursor with
      | some _ => some ([], cursor)
      | none => none
    | .butNot body =>
      match run grammar fuel body cursor with
      | some _ => none
      | none => some ([], cursor)
    | .grow head tails =>
      match run grammar fuel head cursor with
      | some (xs, cursor) => some (extend grammar fuel tails xs cursor)
      | none => none
    | .fork head tails =>
      match run grammar fuel head cursor with
      | some (xs, cursor) => firstTail grammar fuel tails xs cursor
      | none => none

/-- Adds tails to a forest as long as one matches. -/
def extend {σ : Type} (grammar : σ → Rule σ) :
    (fuel : Nat) → List (String × Option String × Rule σ) → List Node → Cursor →
      List Node × Cursor
  | 0, _, forest, cursor => (forest, cursor)
  | fuel + 1, tails, forest, cursor =>
    match firstTail grammar fuel tails forest cursor with
    | some (forest, cursor) => extend grammar fuel tails forest cursor
    | none => (forest, cursor)

/-- Adds the first tail that matches. -/
def firstTail {σ : Type} (grammar : σ → Rule σ) :
    (fuel : Nat) → List (String × Option String × Rule σ) → List Node → Cursor →
      Option (List Node × Cursor)
  | 0, _, _, _ => none
  | _ + 1, [], _, _ => none
  | fuel + 1, (kind, role, rule) :: tails, forest, cursor =>
    match run grammar fuel rule cursor with
    | some (ys, cursor) => some (wrapTail kind role forest ys, cursor)
    | none => firstTail grammar fuel tails forest cursor

end

end CrateSurface.Grammar
