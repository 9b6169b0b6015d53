/-!
Contract: access flags of classes, methods and fields, as the bit masks of the class file
format, and the modifier keywords that name those of methods and fields.
-/

namespace TypedBytecode

structure ClassFlags where
  bits : UInt16
deriving DecidableEq, Repr

structure MethodFlags where
  bits : UInt16
deriving DecidableEq, Repr

structure FieldFlags where
  bits : UInt16
deriving DecidableEq, Repr

namespace ClassFlags

instance : OrOp ClassFlags := ⟨fun left right => ⟨left.bits ||| right.bits⟩⟩

/-- Every bit of `part` is set in `flags`. -/
def contains (flags part : ClassFlags) : Bool :=
  flags.bits &&& part.bits == part.bits

def empty : ClassFlags := ⟨0⟩
def publicBit : ClassFlags := ⟨0x0001⟩
def finalBit : ClassFlags := ⟨0x0010⟩
def superBit : ClassFlags := ⟨0x0020⟩
def interfaceBit : ClassFlags := ⟨0x0200⟩
def abstractBit : ClassFlags := ⟨0x0400⟩
def syntheticBit : ClassFlags := ⟨0x1000⟩

end ClassFlags

namespace MethodFlags

instance : OrOp MethodFlags := ⟨fun left right => ⟨left.bits ||| right.bits⟩⟩

/-- Every bit of `part` is set in `flags`. -/
def contains (flags part : MethodFlags) : Bool :=
  flags.bits &&& part.bits == part.bits

def empty : MethodFlags := ⟨0⟩
def publicBit : MethodFlags := ⟨0x0001⟩
def privateBit : MethodFlags := ⟨0x0002⟩
def protectedBit : MethodFlags := ⟨0x0004⟩
def staticBit : MethodFlags := ⟨0x0008⟩
def finalBit : MethodFlags := ⟨0x0010⟩
def synchronizedBit : MethodFlags := ⟨0x0020⟩
def nativeBit : MethodFlags := ⟨0x0100⟩
def abstractBit : MethodFlags := ⟨0x0400⟩

/-- The keyword `instance` stands for the absence of `static`. -/
def ofKeyword? : String → Option MethodFlags
  | "public" => some publicBit
  | "private" => some privateBit
  | "protected" => some protectedBit
  | "static" => some staticBit
  | "final" => some finalBit
  | "synchronized" => some synchronizedBit
  | "native" => some nativeBit
  | "abstract" => some abstractBit
  | "instance" => some empty
  | _ => none

end MethodFlags

namespace FieldFlags

instance : OrOp FieldFlags := ⟨fun left right => ⟨left.bits ||| right.bits⟩⟩

/-- Every bit of `part` is set in `flags`. -/
def contains (flags part : FieldFlags) : Bool :=
  flags.bits &&& part.bits == part.bits

def empty : FieldFlags := ⟨0⟩
def publicBit : FieldFlags := ⟨0x0001⟩
def privateBit : FieldFlags := ⟨0x0002⟩
def protectedBit : FieldFlags := ⟨0x0004⟩
def staticBit : FieldFlags := ⟨0x0008⟩
def finalBit : FieldFlags := ⟨0x0010⟩
def volatileBit : FieldFlags := ⟨0x0040⟩
def transientBit : FieldFlags := ⟨0x0080⟩

/-- The keyword `instance` stands for the absence of `static`. -/
def ofKeyword? : String → Option FieldFlags
  | "public" => some publicBit
  | "private" => some privateBit
  | "protected" => some protectedBit
  | "static" => some staticBit
  | "final" => some finalBit
  | "volatile" => some volatileBit
  | "transient" => some transientBit
  | "instance" => some empty
  | _ => none

end FieldFlags

end TypedBytecode
