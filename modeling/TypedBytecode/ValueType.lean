import TypedBytecode.ClassGraph.Assignable

/-!
Contract: the types of values on the operand stack and in local slots.

Owns:
- the value types, with the integer kinds told apart and `top` for an unusable slot;
- their width, their assignability and their text.

Does not own: how slots are laid out in a frame.
-/

namespace TypedBytecode

/-- Kind of a value that the machine holds as an `int`. -/
inductive IntKind where
  | boolean
  | byte
  | char
  | short
  | int
deriving DecidableEq, Repr

def IntKind.primitive : IntKind → Primitive
  | .boolean => .boolean
  | .byte => .byte
  | .char => .char
  | .short => .short
  | .int => .int

/-- Type of a stack value or of a local slot. `top` is the second slot of a wide local. -/
inductive ValueType where
  | int (kind : IntKind)
  | long
  | float
  | double
  | reference (type : RefType)
  | top
deriving DecidableEq, Repr

namespace ValueType

def object (name : ClassName) : ValueType :=
  .reference (.object name)

def ofPrimitive : Primitive → ValueType
  | .boolean => .int .boolean
  | .byte => .int .byte
  | .char => .int .char
  | .short => .int .short
  | .int => .int .int
  | .long => .long
  | .float => .float
  | .double => .double

def ofFieldType : FieldType → ValueType
  | .primitive type => ofPrimitive type
  | .reference type => .reference type

/-- Type of a field that holds such values. -/
def fieldType? : ValueType → Option FieldType
  | .int kind => some (.primitive kind.primitive)
  | .long => some (.primitive .long)
  | .float => some (.primitive .float)
  | .double => some (.primitive .double)
  | .reference type => some (.reference type)
  | .top => none

def primitive? (value : ValueType) : Option Primitive :=
  match value.fieldType? with
  | some (.primitive type) => some type
  | _ => none

def component? : ValueType → Option FieldType
  | .reference type => type.component?
  | _ => none

def isIntLike : ValueType → Bool
  | .int _ => true
  | _ => false

def isReference : ValueType → Bool
  | .reference _ => true
  | _ => false

def isArray : ValueType → Bool
  | .reference type => type.isArray
  | _ => false

/-- Wide values take two slots. -/
def isWide : ValueType → Bool
  | .long | .double => true
  | _ => false

def width (value : ValueType) : Nat :=
  if value.isWide then 2 else 1

/-- Every integer kind can stand for `int`, and otherwise only for itself. Nothing can be
assigned to or from `top`. -/
def assignable (graph : ClassGraph) : ValueType → ValueType → Bool
  | .int sub, .int super => super == .int || sub == super
  | .long, .long => true
  | .float, .float => true
  | .double, .double => true
  | .reference sub, .reference super => sub.assignable graph super
  | _, _ => false

def text : ValueType → String
  | .int kind => kind.primitive.keyword
  | .long => "long"
  | .float => "float"
  | .double => "double"
  | .reference type => type.operandText
  | .top => "top"

/-- Types between brackets, in the order given. -/
def listText (values : List ValueType) : String :=
  "[" ++ String.intercalate ", " (values.map text) ++ "]"

end ValueType

end TypedBytecode
