import TypedBytecode.Descriptor
import TypedBytecode.Text.Record

/-!
Contract: records of field types, in which the dimensions of an array are counted.
-/

namespace TypedBytecode

def Primitive.record : Primitive → String
  | .boolean => "Boolean"
  | .byte => "Byte"
  | .char => "Char"
  | .short => "Short"
  | .int => "Int"
  | .long => "Long"
  | .float => "Float"
  | .double => "Double"

namespace RefType

/-- An array by the dimensions beyond its first and the record of its element. -/
def arrayRecord (extra : Nat) (element : String) : String :=
  Record.fields "ArrayType"
    [("additional_dimensions", toString extra), ("element_type", element)]

def record : RefType → String
  | .object name => Record.single "Object" name.text
  | .objectArray extra element =>
    Record.single "ObjectArray" (arrayRecord extra element.text)
  | .primitiveArray extra element =>
    Record.single "PrimitiveArray" (arrayRecord extra element.record)

end RefType

def FieldType.record : FieldType → String
  | .primitive type => Record.single "Base" type.record
  | .reference type => Record.single "Ref" type.record

end TypedBytecode
