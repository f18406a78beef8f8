import CrateSurface.Surface.Module

namespace CrateSurface

/-- The kinds of item that own generic parameters. -/
inductive Owner where
  | function
  | struct
  | enum
  | trait
deriving Repr, DecidableEq

def Owner.label : Owner → String
  | .function => "Function"
  | .struct => "Struct"
  | .enum => "Enum"
  | .trait => "Trait"

/-- Why a construct has no place in the document. -/
inductive Cause where
  | lifetimeParameter (owner : Owner) (name : String)
  | constParameter (owner : Owner) (name : String)
  | parameterPattern
  | tupleStruct
  | variantPayload
  | traitMember
  | implTarget
  | namelessMacro
deriving Repr, DecidableEq

/-- The kind of the construct, as the issue has it. -/
def Cause.kind : Cause → String
  | .lifetimeParameter .. => "generic"
  | .constParameter .. => "generic"
  | .parameterPattern => "param"
  | .tupleStruct => "struct"
  | .variantPayload => "enum"
  | .traitMember => "trait"
  | .implTarget => "impl"
  | .namelessMacro => "macro"

/-- What the issue says about the construct. -/
def Cause.reason : Cause → String
  | .lifetimeParameter owner name =>
    owner.label ++ " '" ++ name ++ "' lifetime generic parameters are not representable in " ++
      "generated facades and were skipped."
  | .constParameter owner name =>
    owner.label ++ " '" ++ name ++ "' const generic parameters are not representable in " ++
      "generated facades and were skipped."
  | .parameterPattern =>
    "Non-identifier function parameters are not representable in generated facades and were " ++
      "replaced by an 'unsupported' name."
  | .tupleStruct =>
    "Tuple structs are not representable as facade class fields and were emitted without fields."
  | .variantPayload =>
    "Enum variants with payload fields are currently represented as unit variants in generated " ++
      "facades."
  | .traitMember => "Unsupported trait member kind was skipped."
  | .implTarget => "Unsupported impl target (expected a nominal path type)."
  | .namelessMacro => "Encountered #[macro_export] macro without a stable name."

/-- A construct that is left out, with its canonical text. -/
structure Finding where
  cause : Cause
  snippet : String
deriving Repr, DecidableEq

/-- The issue that records a finding in the file it was made in. -/
def Finding.issue (file : String) (f : Finding) : Issue String :=
  ⟨file, f.cause.kind, f.snippet, f.cause.reason⟩

/-- Something worth a line in a detailed log. -/
inductive Remark where
  | signature (name : String) (params : Nat)
  | emptyImpl (target : String)
  | ignored (kind : String)
deriving Repr, DecidableEq

/-- A result with what was noticed on the way to it, in source order. -/
structure Noted (α : Type) where
  value : α
  findings : List Finding
  remarks : List Remark
deriving Repr

namespace Noted

variable {α β : Type}

def map (f : α → β) (x : Noted α) : Noted β :=
  ⟨f x.value, x.findings, x.remarks⟩

/-- Results in order, with everything that was noticed on the way to any of them. -/
def sequence (xs : List (Noted α)) : Noted (List α) :=
  ⟨xs.map (·.value), xs.flatMap (·.findings), xs.flatMap (·.remarks)⟩

/-- A result whose findings come after earlier ones. -/
def after (earlier : List Finding) (x : Noted α) : Noted α :=
  ⟨x.value, earlier ++ x.findings, x.remarks⟩

end Noted

end CrateSurface
