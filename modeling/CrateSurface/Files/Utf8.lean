namespace CrateSurface.Utf8

/-- What is wrong with bytes that are no text. -/
inductive Reason where
  | startByte
  | continuationByte
  | endOfData
deriving Repr, DecidableEq

def Reason.text : Reason → String
  | .startByte => "invalid start byte"
  | .continuationByte => "invalid continuation byte"
  | .endOfData => "unexpected end of data"

/-- The bytes `first … last` are no text, for the given reason. -/
structure Fault where
  reason : Reason
  first : Nat
  last : Nat
  byte : UInt8
deriving Repr

/-- What the first bytes of a text say: a character and how many bytes it takes, or how many bytes
are at fault and why. -/
inductive Step where
  | char (c : Char) (width : Nat)
  | fault (reason : Reason) (width : Nat)

def isContinuation (b : UInt8) : Bool :=
  0x80 ≤ b && b < 0xc0

/-- The bounds of the second byte after a first byte: no overlong form, no surrogate, nothing
above the last code point. -/
def secondBounds (lead : UInt8) : UInt8 × UInt8 :=
  if lead == 0xe0 then (0xa0, 0xc0)
  else if lead == 0xed then (0x80, 0xa0)
  else if lead == 0xf0 then (0x90, 0xc0)
  else if lead == 0xf4 then (0x80, 0x90)
  else (0x80, 0xc0)

/-- The number of bytes that a first byte announces after it. -/
def trailing? (lead : UInt8) : Option Nat :=
  if lead < 0x80 then some 0
  else if lead < 0xc2 then none
  else if lead < 0xe0 then some 1
  else if lead < 0xf0 then some 2
  else if lead < 0xf5 then some 3
  else none

/-- Reads the bytes that must follow; `taken` have been read. -/
def follow (value : Nat) (taken : Nat) : Nat → List UInt8 → Step
  | 0, _ => .char (Char.ofNat value) taken
  | _ + 1, [] => .fault .endOfData taken
  | n + 1, b :: rest =>
    if isContinuation b then follow (value * 64 + (b.toNat - 0x80)) (taken + 1) n rest
    else .fault .continuationByte taken

/-- What the bytes begin with: a character, or something wrong. -/
def step (lead : UInt8) (rest : List UInt8) : Step :=
  match trailing? lead, rest with
  | none, _ => .fault .startByte 1
  | some 0, _ => .char (Char.ofNat lead.toNat) 1
  | some _, [] => .fault .endOfData 1
  | some (n + 1), second :: rest =>
    let (low, high) := secondBounds lead
    if low ≤ second && second < high then
      let top := lead.toNat - (if n == 0 then 0xc0 else if n == 1 then 0xe0 else 0xf0)
      follow (top * 64 + (second.toNat - 0x80)) 2 n rest
    else .fault .continuationByte 1

/-- Reads characters from position `at` on; `skip` bytes belong to the character before. -/
def decodeFrom (position skip : Nat) : List UInt8 → Except Fault (List Char)
  | [] => .ok []
  | b :: rest =>
    match skip with
    | skip + 1 => decodeFrom (position + 1) skip rest
    | 0 =>
      match step b rest with
      | .char c width => do
        let cs ← decodeFrom (position + 1) (width - 1) rest
        return c :: cs
      | .fault reason width => .error ⟨reason, position, position + width - 1, b⟩

/-- The characters that bytes stand for in UTF-8. -/
def decode (bytes : List UInt8) : Except Fault (List Char) :=
  decodeFrom 0 0 bytes

/-- The bytes of a text in UTF-8. -/
def encode (s : String) : List UInt8 :=
  s.toUTF8.toList

end CrateSurface.Utf8
