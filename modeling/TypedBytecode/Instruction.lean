import TypedBytecode.Label
import TypedBytecode.NumericKind

/-!
Contract: the instructions that assembled code is made of.

Owns:
- instructions by family, a family being one constructor with the kind of value as operand;
- constants, call sites and the comparisons of conditional jumps;
- the net effect of an instruction on the stack, counted in slots;
- which instructions never let control pass on.

Does not own: text, encodings, or the types an instruction asks for.
-/

namespace TypedBytecode

/-! ## Kinds of operand -/

/-- Kind of a value that is loaded, stored or returned. -/
inductive SlotKind where
  | int
  | long
  | float
  | double
  | reference
deriving DecidableEq, Repr

/-- Kind of an array element. Booleans are kept as bytes. -/
inductive ElementKind where
  | byte
  | char
  | short
  | int
  | long
  | float
  | double
  | reference
deriving DecidableEq, Repr

inductive IntegralKind where
  | int
  | long
deriving DecidableEq, Repr

inductive ArithmeticOp where
  | add
  | sub
  | mul
  | div
  | rem
deriving DecidableEq, Repr

inductive BitwiseOp where
  | and
  | or
  | xor
deriving DecidableEq, Repr

inductive Shift where
  | left
  | arithmeticRight
  | logicalRight
deriving DecidableEq, Repr

/-- Result of a floating point comparison with an operand that is no number. -/
inductive NaNResult where
  | less
  | greater
deriving DecidableEq, Repr

/-- Conversions between kinds of number, and from `int` to its narrower kinds. -/
inductive Conversion where
  | intToLong
  | intToFloat
  | intToDouble
  | longToInt
  | longToFloat
  | longToDouble
  | floatToInt
  | floatToLong
  | floatToDouble
  | doubleToInt
  | doubleToLong
  | doubleToFloat
  | intToByte
  | intToChar
  | intToShort
deriving DecidableEq, Repr

/-- Comparison of two integers, or of one with zero. -/
inductive OrdComparison where
  | eq
  | ne
  | lt
  | ge
  | gt
  | le
deriving DecidableEq, Repr

/-- Comparison of two references, or of one with `null`. -/
inductive EqComparison where
  | eq
  | ne
deriving DecidableEq, Repr

/-- How a method is invoked. Interface calls carry the number of argument slots. -/
inductive InvokeKind where
  | virtual
  | special
  | static
  | interface (count : UInt8)
deriving DecidableEq, Repr

/-- What a method handle does when it is called. -/
inductive HandleKind where
  | getField
  | getStatic
  | putField
  | putStatic
  | invokeVirtual
  | invokeStatic
  | invokeSpecial
  | newInvokeSpecial
  | invokeInterface
deriving DecidableEq, Repr

/-- Constants of instructions and call sites. Floating point constants are bit patterns. -/
inductive Constant where
  | string (value : String)
  | integer (value : Int32)
  | long (value : Int64)
  | float (pattern : UInt32)
  | double (pattern : UInt64)
  | classRef (type : RefType)
  | methodType (type : MethodType)
  | methodHandle (kind : HandleKind) (method : Method)
  | fieldHandle (kind : HandleKind) (field : Field)
deriving DecidableEq, Repr

/-- A dynamic call site: its captured values go in, its result comes out. -/
structure CallSite where
  name : MemberName
  type : MethodType
  bootstrap : Method
  arguments : List Constant
deriving DecidableEq, Repr

inductive Instruction where
  | nop
  | nullConst
  | intConstMinusOne
  | intConst (value : Fin 6)
  | longConst (value : Fin 2)
  | floatConst (value : Fin 3)
  | doubleConst (value : Fin 2)
  | bytePush (value : Int8)
  | shortPush (value : Int16)
  | loadConstant (constant : Constant)
  | loadWideConstant (constant : Constant)
  | load (kind : SlotKind) (slot : UInt16)
  | store (kind : SlotKind) (slot : UInt16)
  | arrayLoad (element : ElementKind)
  | arrayStore (element : ElementKind)
  | pop
  | pop2
  | dup
  | dupX1
  | dupX2
  | dup2
  | dup2X1
  | dup2X2
  | swap
  | arithmetic (op : ArithmeticOp) (kind : NumericKind)
  | negate (kind : NumericKind)
  | shift (kind : IntegralKind) (direction : Shift)
  | bitwise (op : BitwiseOp) (kind : IntegralKind)
  | increment (slot : UInt16) (delta : Int16)
  | convert (conversion : Conversion)
  | compareLong
  | compareFloat (withNaN : NaNResult)
  | compareDouble (withNaN : NaNResult)
  | ifZero (comparison : OrdComparison) (target : Label)
  | ifInt (comparison : OrdComparison) (target : Label)
  | ifReference (comparison : EqComparison) (target : Label)
  | ifNull (comparison : EqComparison) (target : Label)
  | goto (target : Label)
  | returnValue (kind : SlotKind)
  | returnVoid
  | throwReference
  | getStatic (field : Field)
  | putStatic (field : Field)
  | getField (field : Field)
  | putField (field : Field)
  | invoke (kind : InvokeKind) (method : Method)
  | invokeDynamic (site : CallSite)
  | newObject (name : ClassName)
  | newArray (element : Primitive)
  | newReferenceArray (component : RefType)
  | arrayLength
  | checkCast (type : RefType)
  | instanceOf (type : RefType)
deriving DecidableEq, Repr

/-! ## Kinds of types -/

namespace SlotKind

def width : SlotKind → Nat
  | .long | .double => 2
  | _ => 1

/-- Kind of a value. No value is loaded or stored as `top`, so its kind does not matter. -/
def ofValue : ValueType → SlotKind
  | .int _ => .int
  | .long => .long
  | .float => .float
  | .double => .double
  | .reference _ => .reference
  | .top => .reference

end SlotKind

namespace ElementKind

def width : ElementKind → Nat
  | .long | .double => 2
  | _ => 1

def ofComponent : FieldType → ElementKind
  | .primitive .boolean => .byte
  | .primitive .byte => .byte
  | .primitive .char => .char
  | .primitive .short => .short
  | .primitive .int => .int
  | .primitive .long => .long
  | .primitive .float => .float
  | .primitive .double => .double
  | .reference _ => .reference

end ElementKind

namespace IntegralKind

def numeric : IntegralKind → NumericKind
  | .int => .int
  | .long => .long

def width (kind : IntegralKind) : Nat := kind.numeric.width

end IntegralKind

namespace Conversion

def source : Conversion → NumericKind
  | .intToLong | .intToFloat | .intToDouble => .int
  | .longToInt | .longToFloat | .longToDouble => .long
  | .floatToInt | .floatToLong | .floatToDouble => .float
  | .doubleToInt | .doubleToLong | .doubleToFloat => .double
  | .intToByte | .intToChar | .intToShort => .int

def target : Conversion → Primitive
  | .intToLong => .long
  | .intToFloat => .float
  | .intToDouble => .double
  | .longToInt => .int
  | .longToFloat => .float
  | .longToDouble => .double
  | .floatToInt => .int
  | .floatToLong => .long
  | .floatToDouble => .double
  | .doubleToInt => .int
  | .doubleToLong => .long
  | .doubleToFloat => .float
  | .intToByte => .byte
  | .intToChar => .char
  | .intToShort => .short

end Conversion

/-! ## Comparisons -/

namespace OrdComparison

def all : List OrdComparison := [.eq, .ne, .lt, .ge, .gt, .le]

def mnemonic : OrdComparison → String
  | .eq => "eq"
  | .ne => "ne"
  | .lt => "lt"
  | .ge => "ge"
  | .gt => "gt"
  | .le => "le"

def ofMnemonic? (word : String) : Option OrdComparison :=
  all.find? (fun comparison => comparison.mnemonic == word)

/-- The comparison that holds exactly when the given one does not. -/
def negation : OrdComparison → OrdComparison
  | .eq => .ne
  | .ne => .eq
  | .lt => .ge
  | .ge => .lt
  | .gt => .le
  | .le => .gt

end OrdComparison

namespace EqComparison

def all : List EqComparison := [.eq, .ne]

def mnemonic : EqComparison → String
  | .eq => "eq"
  | .ne => "ne"

def ofMnemonic? (word : String) : Option EqComparison :=
  all.find? (fun comparison => comparison.mnemonic == word)

/-- The comparison that holds exactly when the given one does not. -/
def negation : EqComparison → EqComparison
  | .eq => .ne
  | .ne => .eq

end EqComparison

/-! ## Effects -/

/-- Slots of the result less slots of the arguments. -/
def MethodType.stackEffect (type : MethodType) (hasReceiver : Bool) : Int :=
  (type.resultWidth : Int) - type.argumentWidth hasReceiver

namespace Instruction

/-- Net change of the operand stack, in slots. -/
def stackEffect : Instruction → Int
  | .nop => 0
  | .nullConst => 1
  | .intConstMinusOne => 1
  | .intConst _ => 1
  | .longConst _ => 2
  | .floatConst _ => 1
  | .doubleConst _ => 2
  | .bytePush _ => 1
  | .shortPush _ => 1
  | .loadConstant _ => 1
  | .loadWideConstant _ => 2
  | .load kind _ => kind.width
  | .store kind _ => -kind.width
  | .arrayLoad element => element.width - 2
  | .arrayStore element => -element.width - 2
  | .pop => -1
  | .pop2 => -2
  | .dup => 1
  | .dupX1 => 1
  | .dupX2 => 1
  | .dup2 => 2
  | .dup2X1 => 2
  | .dup2X2 => 2
  | .swap => 0
  | .arithmetic _ kind => -kind.width
  | .negate _ => 0
  | .shift _ _ => -1
  | .bitwise _ kind => -kind.width
  | .increment _ _ => 0
  | .convert conversion => conversion.target.width - conversion.source.width
  | .compareLong => -3
  | .compareFloat _ => -1
  | .compareDouble _ => -3
  | .ifZero _ _ => -1
  | .ifInt _ _ => -2
  | .ifReference _ _ => -2
  | .ifNull _ _ => -1
  | .goto _ => 0
  | .returnValue kind => -kind.width
  | .returnVoid => 0
  | .throwReference => -1
  | .getStatic field => field.type.width
  | .putStatic field => -field.type.width
  | .getField field => field.type.width - 1
  | .putField field => -field.type.width - 1
  | .invoke .static method => method.type.stackEffect false
  | .invoke _ method => method.type.stackEffect true
  | .invokeDynamic site => site.type.stackEffect false
  | .newObject _ => 1
  | .newArray _ => 0
  | .newReferenceArray _ => 0
  | .arrayLength => 0
  | .checkCast _ => 0
  | .instanceOf _ => 0

/-- Control never passes on to the instruction behind. -/
def isTerminal : Instruction → Bool
  | .goto _ | .returnValue _ | .returnVoid | .throwReference => true
  | _ => false

/-- Label that an instruction can jump to. -/
def target? : Instruction → Option Label
  | .ifZero _ label => some label
  | .ifInt _ label => some label
  | .ifReference _ label => some label
  | .ifNull _ label => some label
  | .goto label => some label
  | _ => none

end Instruction

end TypedBytecode
