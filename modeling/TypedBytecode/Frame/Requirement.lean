import TypedBytecode.Frame

/-!
Contract: what an operation asks of one operand.
-/

namespace TypedBytecode

inductive Requirement where
  /-- A value of any type. -/
  | any
  /-- A value that takes one slot. -/
  | category1
  /-- A value of any integer kind. -/
  | intLike
  /-- An integer that is no `boolean`. -/
  | intNumeric
  | anyReference
  | array
  /-- A value that can be used as the given type. -/
  | assignableTo (type : ValueType)
deriving DecidableEq, Repr

namespace Requirement

def accepts (graph : ClassGraph) (requirement : Requirement) (found : ValueType) : Bool :=
  match requirement with
  | .any => found != .top
  | .category1 => found != .top && !found.isWide
  | .intLike => found.isIntLike
  | .intNumeric => found.isIntLike && found != .int .boolean
  | .anyReference => found.isReference
  | .array => found.isArray
  | .assignableTo type => found.assignable graph type

def text : Requirement → String
  | .any => "any value"
  | .category1 => "single slot value"
  | .intLike => "int-like"
  | .intNumeric => "int-like (not boolean)"
  | .anyReference => "reference"
  | .array => "array"
  | .assignableTo type => type.text

def listText (requirements : List Requirement) : String :=
  "[" ++ String.intercalate ", " (requirements.map text) ++ "]"

end Requirement

end TypedBytecode
