import TypedBytecode.Name
import TypedBytecode.Primitive
import TypedBytecode.Width

/-!
Contract: reference, field and method types, and their descriptor text.

Owns:
- array types kept flat, as an element type and a number of dimensions;
- building an array type from its component and opening it again;
- slot counts and the spelling of every type.

Does not own: reading a spelling back, or whether the classes named exist.
-/

namespace TypedBytecode

/-- Type of an object or array. An array is flat: `extra` counts its dimensions beyond the
first, so `A[]` has none and `A[][][]` has two. -/
inductive RefType where
  | object (name : ClassName)
  | objectArray (extra : Nat) (element : ClassName)
  | primitiveArray (extra : Nat) (element : Primitive)
deriving DecidableEq, Repr

/-- Type of a field, parameter or result. -/
inductive FieldType where
  | primitive (type : Primitive)
  | reference (type : RefType)
deriving DecidableEq, Repr

/-- Parameters and result of a method; `none` is the `void` result. -/
structure MethodType where
  parameters : List FieldType
  result : Option FieldType
deriving DecidableEq, Repr

namespace RefType

/-- The array whose elements have the given type. -/
def array : FieldType → RefType
  | .primitive element => .primitiveArray 0 element
  | .reference (.object element) => .objectArray 0 element
  | .reference (.objectArray extra element) => .objectArray (extra + 1) element
  | .reference (.primitiveArray extra element) => .primitiveArray (extra + 1) element

/-- Type of the elements of an array. -/
def component? : RefType → Option FieldType
  | .object _ => none
  | .objectArray 0 element => some (.reference (.object element))
  | .objectArray (extra + 1) element => some (.reference (.objectArray extra element))
  | .primitiveArray 0 element => some (.primitive element)
  | .primitiveArray (extra + 1) element => some (.reference (.primitiveArray extra element))

def isArray : RefType → Bool
  | .object _ => false
  | _ => true

def className? : RefType → Option ClassName
  | .object name => some name
  | .objectArray _ element => some element
  | .primitiveArray _ _ => none

def spellClass (name : ClassName) : List Char :=
  'L' :: name.spell ++ [';']

def spell : RefType → List Char
  | .object name => spellClass name
  | .objectArray extra element => List.replicate (extra + 1) '[' ++ spellClass element
  | .primitiveArray extra element => List.replicate (extra + 1) '[' ++ [element.letter]

def render (type : RefType) : String :=
  String.ofList type.spell

/-- How a class operand is written: an object by its name, an array by its descriptor. -/
def operandText : RefType → String
  | .object name => name.text
  | type => type.render

end RefType

namespace FieldType

def object (name : ClassName) : FieldType :=
  .reference (.object name)

def array (component : FieldType) : FieldType :=
  .reference (.array component)

/-- The array type with `dimensions` dimensions over an element type. -/
def arrays : Nat → FieldType → FieldType
  | 0, element => element
  | dimensions + 1, element => arrays dimensions (array element)

def className? : FieldType → Option ClassName
  | .primitive _ => none
  | .reference type => type.className?

def width : FieldType → Nat
  | .primitive type => type.width
  | .reference _ => 1

def spell : FieldType → List Char
  | .primitive type => [type.letter]
  | .reference type => type.spell

def render (type : FieldType) : String :=
  String.ofList type.spell

end FieldType

namespace MethodType

/-- Slots that the declared parameters take. -/
def parameterWidth (type : MethodType) : Nat :=
  totalWidth FieldType.width type.parameters

/-- Slots that the arguments take, the receiver included if there is one. -/
def argumentWidth (type : MethodType) (hasReceiver : Bool) : Nat :=
  (if hasReceiver then 1 else 0) + type.parameterWidth

def resultWidth (type : MethodType) : Nat :=
  (type.result.map FieldType.width).getD 0

/-- Classes named by the type, in the order in which the descriptor names them. -/
def classNames (type : MethodType) : List ClassName :=
  type.parameters.filterMap FieldType.className? ++
    (type.result.bind FieldType.className?).toList

def spell (type : MethodType) : List Char :=
  '(' :: (type.parameters.map FieldType.spell).flatten ++
    ')' :: (type.result.map FieldType.spell).getD ['V']

def render (type : MethodType) : String :=
  String.ofList type.spell

end MethodType

end TypedBytecode
