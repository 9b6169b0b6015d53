import TypedBytecode.ClassGraph.Standard
import TypedBytecode.Operation.Effect

/-!
Contract: objects, fields, arrays, casts and boxes.

Owns: the operands that each operation asks for, and the instruction chosen by the static or
instance nature of a field, the component of an array, or the primitive type in a box.

Does not own: finding a field by name.
-/

namespace TypedBytecode.Effect

/-! ## Fields -/

def getField (graph : ClassGraph) (operation : String) (field : Field) : Effect :=
  if field.isStatic then pushing (.ofFieldType field.type) [.getStatic field]
  else
    consuming graph operation [.assignableTo (.object field.owner)]
      [.ofFieldType field.type] (.getField field)

def putField (graph : ClassGraph) (operation : String) (field : Field) : Effect :=
  if field.isStatic then
    consuming graph operation [.assignableTo (.ofFieldType field.type)] [] (.putStatic field)
  else
    consuming graph operation
      [.assignableTo (.object field.owner), .assignableTo (.ofFieldType field.type)] []
      (.putField field)

/-! ## Arrays -/

def newArray (graph : ClassGraph) (operation : String) (component : FieldType) : Effect :=
  let instruction : Instruction :=
    match component with
    | .primitive element => .newArray element
    | .reference type => .newReferenceArray type
  consuming graph operation [.intNumeric] [.reference (.array component)] instruction

def arrayLoad (operation : String) : Effect :=
  fun frame => do
    let (array, index, rest) ← frame.pop2 operation
    match array.component?, index.isIntLike with
    | some component, true =>
      .ok (rest.push (.ofFieldType component), [.arrayLoad (.ofComponent component)])
    | _, _ =>
      .error (.typeMismatch operation (.operands [.array, .intLike]) (.operands [array, index]))

def arrayStore (graph : ClassGraph) (operation : String) : Effect :=
  fun frame => do
    let (array, index, value, rest) ← frame.pop3 operation
    match array.component? with
    | none =>
      .error (.typeMismatch operation .arrayStoreOperands (.operands [array, index, value]))
    | some component =>
      let requirements : List Requirement :=
        [.array, .intLike, .assignableTo (.ofFieldType component)]
      if Frame.satisfies graph requirements [array, index, value] then
        .ok (rest, [.arrayStore (.ofComponent component)])
      else
        .error (.typeMismatch operation (.operands requirements)
          (.operands [array, index, value]))

def arrayLength (graph : ClassGraph) (operation : String) : Effect :=
  consuming graph operation [.array] [.int .int] .arrayLength

/-! ## Objects -/

def newObject (name : ClassName) : Effect :=
  pushing (.object name) [.newObject name]

/-- A cast that is not marked as unchecked only goes to a type the value already has. -/
def cast (graph : ClassGraph) (operation : String) (target : RefType) (unchecked : Bool) :
    Effect :=
  consuming graph operation
    [if unchecked then .anyReference else .assignableTo (.reference target)]
    [.reference target] (.checkCast target)

def instanceOf (graph : ClassGraph) (operation : String) (target : RefType) : Effect :=
  consuming graph operation [.anyReference] [.int .int] (.instanceOf target)

/-! ## Boxes -/

def box (operation : String) : Effect :=
  fun frame => do
    let (value, rest) ← frame.pop1 operation
    match value.primitive? with
    | some primitive =>
      .ok (rest.push (.object primitive.boxName), [.invoke .static primitive.valueOf])
    | none => .error (.typeMismatch operation .primitiveValue (.operands [value]))

def boxingOf? : ValueType → Option Boxing
  | .reference (.object name) => Boxing.ofBox? name
  | _ => none

def unbox (operation : String) : Effect :=
  fun frame => do
    let (value, rest) ← frame.pop1 operation
    match boxingOf? value with
    | some boxing =>
      .ok (rest.push (.ofPrimitive boxing.primitive), [.invoke .virtual boxing.unbox])
    | none => .error (.typeMismatch operation .boxedValue (.operands [value]))

end TypedBytecode.Effect
