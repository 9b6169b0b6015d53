import TypedBytecode.ClassGraph.Standard
import TypedBytecode.Number.Format
import TypedBytecode.Operation.Effect

/-!
Contract: pushing constants.

Owns: the shortest code for every constant. Numbers that fit an immediate operand stay out of
the constant pool.
-/

namespace TypedBytecode.Effect

/-- Shortest instruction that pushes an `int`. -/
def intConstant (value : Int32) : Instruction :=
  let number := value.toInt
  if number = -1 then .intConstMinusOne
  else if small : 0 ≤ number ∧ number ≤ 5 then .intConst ⟨number.toNat, by omega⟩
  else if -128 ≤ number ∧ number ≤ 127 then .bytePush value.toInt8
  else if -32768 ≤ number ∧ number ≤ 32767 then .shortPush value.toInt16
  else .loadConstant (.integer value)

def constInt (value : Int32) : Effect :=
  pushing (.int .int) [intConstant value]

def constBool (value : Bool) : Effect :=
  pushing (.int .boolean) [intConstant (if value then 1 else 0)]

def constChar (value : UInt16) : Effect :=
  pushing (.int .char) [intConstant (Int32.ofNat value.toNat)]

def constByte (value : Int8) : Effect :=
  pushing (.int .byte) [intConstant value.toInt32]

def constShort (value : Int16) : Effect :=
  pushing (.int .short) [intConstant value.toInt32]

/-- Code for a `long`: small numbers are pushed as an `int` and widened. -/
def longConstant (value : Int64) : Code :=
  let number := value.toInt
  if number = 0 then [.longConst 0]
  else if number = 1 then [.longConst 1]
  else if -32768 ≤ number ∧ number ≤ 32767 then
    [intConstant value.toInt32, .convert .intToLong]
  else [.loadWideConstant (.long value)]

def constLong (value : Int64) : Effect :=
  pushing .long (longConstant value)

/-- Code for a `float`: small whole numbers are pushed as an `int` and converted. -/
def floatConstant (pattern : UInt32) : Code :=
  match (FloatFormat.single.decode pattern.toNat).toInt? with
  | some 0 => [.floatConst 0]
  | some 1 => [.floatConst 1]
  | some 2 => [.floatConst 2]
  | some number =>
    if number = -1 ∨ 3 ≤ number ∧ number ≤ 5 then
      [intConstant (Int32.ofInt number), .convert .intToFloat]
    else [.loadConstant (.float pattern)]
  | none => [.loadConstant (.float pattern)]

def constFloat (pattern : UInt32) : Effect :=
  pushing .float (floatConstant pattern)

/-- Code for a `double`: small whole numbers are pushed as an `int` and converted. -/
def doubleConstant (pattern : UInt64) : Code :=
  match (FloatFormat.double.decode pattern.toNat).toInt? with
  | some 0 => [.doubleConst 0]
  | some 1 => [.doubleConst 1]
  | some number =>
    if number = -1 ∨ 2 ≤ number ∧ number ≤ 5 then
      [intConstant (Int32.ofInt number), .convert .intToDouble]
    else [.loadWideConstant (.double pattern)]
  | none => [.loadWideConstant (.double pattern)]

def constDouble (pattern : UInt64) : Effect :=
  pushing .double (doubleConstant pattern)

def constString (value : String) : Effect :=
  pushing (.object .string) [.loadConstant (.string value)]

/-- A `null` that is tracked with a type of its own. -/
def constNull (type : RefType) : Effect :=
  pushing (.reference type) [.nullConst]

/-- Instruction that pushes the zero of a type. -/
def zeroConstant : FieldType → Instruction
  | .primitive .long => .longConst 0
  | .primitive .float => .floatConst 0
  | .primitive .double => .doubleConst 0
  | .primitive _ => .intConst 0
  | .reference _ => .nullConst

def defaultValue (type : FieldType) : Effect :=
  pushing (.ofFieldType type) [zeroConstant type]

end TypedBytecode.Effect
