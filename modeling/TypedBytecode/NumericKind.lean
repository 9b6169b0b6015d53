import TypedBytecode.ValueType

/-!
Contract: the four kinds of number that arithmetic works on.
-/

namespace TypedBytecode

inductive NumericKind where
  | int
  | long
  | float
  | double
deriving DecidableEq, Repr

namespace NumericKind

def all : List NumericKind := [.int, .long, .float, .double]

/-- Kinds with bitwise operations. -/
def integral : List NumericKind := [.int, .long]

def valueType : NumericKind → ValueType
  | .int => .int .int
  | .long => .long
  | .float => .float
  | .double => .double

/-- Kind of a value that is a number; a `boolean` is one only if that is allowed. -/
def of? (allowBoolean : Bool) : ValueType → Option NumericKind
  | .int .boolean => if allowBoolean then some .int else none
  | .int _ => some .int
  | .long => some .long
  | .float => some .float
  | .double => some .double
  | .reference _ => none
  | .top => none

def width : NumericKind → Nat
  | .long | .double => 2
  | _ => 1

def text : NumericKind → String
  | .int => "int-like"
  | .long => "long"
  | .float => "float"
  | .double => "double"

end NumericKind

end TypedBytecode
