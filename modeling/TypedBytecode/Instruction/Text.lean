import TypedBytecode.Instruction
import TypedBytecode.Number.Decimal
import TypedBytecode.Text.Quoted

/-!
Contract: the text of instructions.

Owns: mnemonics, operands and constants as they stand in a listing. Every text is one line as
long as the names in it are.
-/

namespace TypedBytecode

def NumericKind.letter : NumericKind → String
  | .int => "i"
  | .long => "l"
  | .float => "f"
  | .double => "d"

def SlotKind.letter : SlotKind → String
  | .int => "i"
  | .long => "l"
  | .float => "f"
  | .double => "d"
  | .reference => "a"

def ElementKind.letter : ElementKind → String
  | .byte => "b"
  | .char => "c"
  | .short => "s"
  | .int => "i"
  | .long => "l"
  | .float => "f"
  | .double => "d"
  | .reference => "a"

def IntegralKind.letter (kind : IntegralKind) : String := kind.numeric.letter

def ArithmeticOp.mnemonic : ArithmeticOp → String
  | .add => "add"
  | .sub => "sub"
  | .mul => "mul"
  | .div => "div"
  | .rem => "rem"

def BitwiseOp.mnemonic : BitwiseOp → String
  | .and => "and"
  | .or => "or"
  | .xor => "xor"

def Shift.mnemonic : Shift → String
  | .left => "shl"
  | .arithmeticRight => "shr"
  | .logicalRight => "ushr"

def NaNResult.letter : NaNResult → String
  | .less => "l"
  | .greater => "g"

def Conversion.mnemonic : Conversion → String
  | .intToLong => "i2l"
  | .intToFloat => "i2f"
  | .intToDouble => "i2d"
  | .longToInt => "l2i"
  | .longToFloat => "l2f"
  | .longToDouble => "l2d"
  | .floatToInt => "f2i"
  | .floatToLong => "f2l"
  | .floatToDouble => "f2d"
  | .doubleToInt => "d2i"
  | .doubleToLong => "d2l"
  | .doubleToFloat => "d2f"
  | .intToByte => "i2b"
  | .intToChar => "i2c"
  | .intToShort => "i2s"

def InvokeKind.mnemonic : InvokeKind → String
  | .virtual => "invokevirtual"
  | .special => "invokespecial"
  | .static => "invokestatic"
  | .interface count => "invokeinterface[" ++ toString count.toNat ++ "]"

def HandleKind.text : HandleKind → String
  | .getField => "GetField"
  | .getStatic => "GetStatic"
  | .putField => "PutField"
  | .putStatic => "PutStatic"
  | .invokeVirtual => "InvokeVirtual"
  | .invokeStatic => "InvokeStatic"
  | .invokeSpecial => "InvokeSpecial"
  | .newInvokeSpecial => "NewInvokeSpecial"
  | .invokeInterface => "InvokeInterface"

namespace Constant

/-- Numbers from `0.0001` up to `10 ^ 16` are written without an exponent. -/
def floatLayout : DecimalLayout := ⟨-4, 16⟩

def text : Constant → String
  | .string value => Text.quoted value
  | .integer value => toString value.toInt
  | .long value => toString value.toInt ++ "L"
  | .float pattern => FloatFormat.single.text floatLayout pattern.toNat ++ "f"
  | .double pattern => FloatFormat.double.text floatLayout pattern.toNat ++ "d"
  | .classRef type => type.operandText ++ ".class"
  | .methodType type => type.render
  | .methodHandle kind method => kind.text ++ " " ++ method.text
  | .fieldHandle kind field => kind.text ++ " " ++ field.text

end Constant

def CallSite.text (site : CallSite) : String :=
  site.name.text ++ ":" ++ site.type.render ++ " [" ++
    String.intercalate ", " (site.bootstrap.text :: site.arguments.map Constant.text) ++ "]"

namespace Instruction

def text : Instruction → String
  | .nop => "nop"
  | .nullConst => "aconst_null"
  | .intConstMinusOne => "iconst_m1"
  | .intConst value => "iconst_" ++ toString value.val
  | .longConst value => "lconst_" ++ toString value.val
  | .floatConst value => "fconst_" ++ toString value.val
  | .doubleConst value => "dconst_" ++ toString value.val
  | .bytePush value => "bipush " ++ toString value.toInt
  | .shortPush value => "sipush " ++ toString value.toInt
  | .loadConstant constant => "ldc " ++ constant.text
  | .loadWideConstant constant => "ldc2_w " ++ constant.text
  | .load kind slot => kind.letter ++ "load " ++ toString slot.toNat
  | .store kind slot => kind.letter ++ "store " ++ toString slot.toNat
  | .arrayLoad element => element.letter ++ "aload"
  | .arrayStore element => element.letter ++ "astore"
  | .pop => "pop"
  | .pop2 => "pop2"
  | .dup => "dup"
  | .dupX1 => "dup_x1"
  | .dupX2 => "dup_x2"
  | .dup2 => "dup2"
  | .dup2X1 => "dup2_x1"
  | .dup2X2 => "dup2_x2"
  | .swap => "swap"
  | .arithmetic op kind => kind.letter ++ op.mnemonic
  | .negate kind => kind.letter ++ "neg"
  | .shift kind direction => kind.letter ++ direction.mnemonic
  | .bitwise op kind => kind.letter ++ op.mnemonic
  | .increment slot delta => "iinc " ++ toString slot.toNat ++ " " ++ toString delta.toInt
  | .convert conversion => conversion.mnemonic
  | .compareLong => "lcmp"
  | .compareFloat withNaN => "fcmp" ++ withNaN.letter
  | .compareDouble withNaN => "dcmp" ++ withNaN.letter
  | .ifZero comparison target => "if" ++ comparison.mnemonic ++ " " ++ target.text
  | .ifInt comparison target => "if_icmp" ++ comparison.mnemonic ++ " " ++ target.text
  | .ifReference comparison target => "if_acmp" ++ comparison.mnemonic ++ " " ++ target.text
  | .ifNull .eq target => "ifnull " ++ target.text
  | .ifNull .ne target => "ifnonnull " ++ target.text
  | .goto target => "goto " ++ target.text
  | .returnValue kind => kind.letter ++ "return"
  | .returnVoid => "return"
  | .throwReference => "athrow"
  | .getStatic field => "getstatic " ++ field.text
  | .putStatic field => "putstatic " ++ field.text
  | .getField field => "getfield " ++ field.text
  | .putField field => "putfield " ++ field.text
  | .invoke kind method => kind.mnemonic ++ " " ++ method.text
  | .invokeDynamic site => "invokedynamic " ++ site.text
  | .newObject name => "new " ++ name.text
  | .newArray element => "newarray " ++ element.keyword
  | .newReferenceArray component => "anewarray " ++ component.operandText
  | .arrayLength => "arraylength"
  | .checkCast type => "checkcast " ++ type.operandText
  | .instanceOf type => "instanceof " ++ type.operandText

end Instruction

end TypedBytecode
