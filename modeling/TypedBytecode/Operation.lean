import TypedBytecode.Operation.Arithmetic
import TypedBytecode.Operation.Call
import TypedBytecode.Operation.Constant
import TypedBytecode.Operation.Exit
import TypedBytecode.Operation.Local
import TypedBytecode.Operation.Memory
import TypedBytecode.Operation.Stack

/-!
Contract: the straight-line operations of a routine.

Owns:
- the operations with their arguments, and the name under which each one fails;
- the plan of an operation, which finds members and slots before the frame is looked at.

Does not own: jumps and labels, or whether the code is reachable.
-/

namespace TypedBytecode

inductive Operation where
  | arithmetic (op : ArithmeticOp)
  | negate
  | bitwise (op : BitwiseOp)
  | shift (direction : Shift)
  | compare (nanIsGreater : Bool)
  | convert (target : Primitive)
  | swap
  | pop
  | dup
  | dupUnder
  | loadThis
  | loadParameter (index : UInt64)
  | loadLocal (index : UInt64)
  | storeLocal
  | storeLocalAt (index : UInt64)
  | increment (index : UInt64) (delta : Int16)
  | killLocal
  | getField (field : Field)
  | putField (field : Field)
  | getOwnField (name : String)
  | putOwnField (name : String)
  | newArray (component : FieldType)
  | arrayLoad
  | arrayStore
  | arrayLength
  | newObject (name : ClassName)
  | cast (target : RefType) (unchecked : Bool)
  | instanceOf (target : RefType)
  | box
  | unbox
  | invoke (method : Method)
  | invokeOn (method : Method) (target : ClassName)
  | lambda (method : Method) (interface : ClassName)
  | lambdaField (field : Field) (interface : ClassName)
  | constInt (value : Int32)
  | constBool (value : Bool)
  | constChar (value : UInt16)
  | constByte (value : Int8)
  | constShort (value : Int16)
  | constLong (value : Int64)
  | constFloat (pattern : UInt32)
  | constDouble (pattern : UInt64)
  | constString (value : String)
  | constNull (type : RefType)
  | defaultValue (type : FieldType)
  | throwValue
  | returnValue
deriving DecidableEq, Repr

namespace Operation

/-- Name under which an operation fails. Accesses to a field of the own class fail under the
name of the field access they stand for. -/
def name : Operation → String
  | .arithmetic .add => "add"
  | .arithmetic .sub => "sub"
  | .arithmetic .mul => "mul"
  | .arithmetic .div => "div"
  | .arithmetic .rem => "rem"
  | .negate => "neg"
  | .bitwise .and => "and"
  | .bitwise .or => "or"
  | .bitwise .xor => "xor"
  | .shift .left => "shl"
  | .shift .arithmeticRight => "shr"
  | .shift .logicalRight => "ushr"
  | .compare _ => "cmp"
  | .convert _ => "convert"
  | .swap => "swap"
  | .pop => "pop"
  | .dup => "dup"
  | .dupUnder => "dup_under"
  | .loadThis => "load_this"
  | .loadParameter _ => "load_parameter"
  | .loadLocal _ => "load_local"
  | .storeLocal => "store_local"
  | .storeLocalAt _ => "store_local_at"
  | .increment _ _ => "increment"
  | .killLocal => "kill_local"
  | .getField _ => "get_field"
  | .putField _ => "put_field"
  | .getOwnField _ => "get_field"
  | .putOwnField _ => "put_field"
  | .newArray _ => "new_array"
  | .arrayLoad => "array_load"
  | .arrayStore => "array_store"
  | .arrayLength => "array_length"
  | .newObject _ => "new_object"
  | .cast _ _ => "cast"
  | .instanceOf _ => "instance_of"
  | .box => "box_value"
  | .unbox => "unbox_value"
  | .invoke _ => "invoke"
  | .invokeOn _ _ => "invoke_on"
  | .lambda _ _ => "lambda"
  | .lambdaField _ _ => "lambda_field"
  | .constInt _ => "const_int"
  | .constBool _ => "const_bool"
  | .constChar _ => "const_char"
  | .constByte _ => "const_byte"
  | .constShort _ => "const_short"
  | .constLong _ => "const_long"
  | .constFloat _ => "const_float"
  | .constDouble _ => "const_double"
  | .constString _ => "const_string"
  | .constNull _ => "const_null"
  | .defaultValue _ => "default_value"
  | .throwValue => "throw_value"
  | .returnValue => "return_value"

/-- Slot of a relative index. Indices are machine words, and the sum has to be one too. -/
def relativeSlot (offset : Nat) (index : UInt64) : Except Error Nat :=
  if offset + index.toNat < UInt64.size then .ok (offset + index.toNat) else .error .overflow

/-- Slot of a declared parameter, behind the receiver and the parameters before it. -/
def parameterSlot (routine : Method) (index : Nat) : Nat :=
  (if routine.isStatic then 0 else 1) +
    totalWidth FieldType.width (routine.type.parameters.take index)

def ownField (graph : ClassGraph) (routine : Method) (name : String) : Except Error Field :=
  match graph.findField? routine.owner name with
  | some field => .ok field
  | none => .error (.missingMember (.field routine.owner name))

/-- The effect of an operation in a routine whose entry frame has `offset` slots. -/
def plan (graph : ClassGraph) (routine : Method) (offset : Nat) (operation : Operation) :
    Except Error Effect :=
  let name := operation.name
  match operation with
  | .arithmetic op => .ok (Effect.arithmetic name op)
  | .negate => .ok (Effect.negate name)
  | .bitwise op => .ok (Effect.bitwise name op)
  | .shift direction => .ok (Effect.shift name direction)
  | .compare nanIsGreater =>
    .ok (Effect.compare name (if nanIsGreater then .greater else .less))
  | .convert target => .ok (Effect.convert name target)
  | .swap => .ok (Effect.swap graph name)
  | .pop => .ok (Effect.pop name)
  | .dup => .ok (Effect.dup name)
  | .dupUnder => .ok (Effect.dupUnder name)
  | .loadThis =>
    if routine.isStatic then .error (.invalidLocal name 0 .noReceiver)
    else .ok (Effect.loadSlot name 0)
  | .loadParameter index =>
    let parameters := routine.type.parameters.length
    if parameters ≤ index.toNat then
      .error (.invalidLocal name index.toNat (.noSuchParameter parameters))
    else .ok (Effect.loadSlot name (parameterSlot routine index.toNat))
  | .loadLocal index => do
    let slot ← relativeSlot offset index
    .ok (Effect.loadSlot name slot)
  | .storeLocal => .ok (Effect.storeNew graph name)
  | .storeLocalAt index => do
    let slot ← relativeSlot offset index
    .ok (Effect.storeSlot graph name slot)
  | .increment index delta => do
    let slot ← relativeSlot offset index
    .ok (Effect.incrementSlot name slot delta)
  | .killLocal => .ok (Effect.killLast name)
  | .getField field => .ok (Effect.getField graph name field)
  | .putField field => .ok (Effect.putField graph name field)
  | .getOwnField fieldName => do
    let field ← ownField graph routine fieldName
    .ok (Effect.getField graph name field)
  | .putOwnField fieldName => do
    let field ← ownField graph routine fieldName
    .ok (Effect.putField graph name field)
  | .newArray component => .ok (Effect.newArray graph name component)
  | .arrayLoad => .ok (Effect.arrayLoad name)
  | .arrayStore => .ok (Effect.arrayStore graph name)
  | .arrayLength => .ok (Effect.arrayLength graph name)
  | .newObject className => .ok (Effect.newObject className)
  | .cast target unchecked => .ok (Effect.cast graph name target unchecked)
  | .instanceOf target => .ok (Effect.instanceOf graph name target)
  | .box => .ok (Effect.box name)
  | .unbox => .ok (Effect.unbox name)
  | .invoke method => Effect.invoke graph name method
  | .invokeOn method target => .ok (Effect.invokeOn graph name method target)
  | .lambda method interface => Effect.lambda graph name method interface
  | .lambdaField field interface => Effect.lambdaField graph name field interface
  | .constInt value => .ok (Effect.constInt value)
  | .constBool value => .ok (Effect.constBool value)
  | .constChar value => .ok (Effect.constChar value)
  | .constByte value => .ok (Effect.constByte value)
  | .constShort value => .ok (Effect.constShort value)
  | .constLong value => .ok (Effect.constLong value)
  | .constFloat pattern => .ok (Effect.constFloat pattern)
  | .constDouble pattern => .ok (Effect.constDouble pattern)
  | .constString value => .ok (Effect.constString value)
  | .constNull type => .ok (Effect.constNull type)
  | .defaultValue type => .ok (Effect.defaultValue type)
  | .throwValue => .ok (Effect.throwValue graph name)
  | .returnValue => .ok (Effect.returnValue graph name routine.type.result)

end Operation

end TypedBytecode
