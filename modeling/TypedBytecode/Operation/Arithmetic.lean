import TypedBytecode.Operation.Effect

/-!
Contract: arithmetic, comparisons and conversions.

Owns: the choice of an instruction by the kinds of its operands. Kinds are tried in a fixed
order, and the first that all operands have is taken.
-/

namespace TypedBytecode.Effect

/-- The first of the kinds that all operands have. -/
def commonKind? (allowBoolean : Bool) (kinds : List NumericKind) (operands : List ValueType) :
    Option NumericKind :=
  kinds.find? (fun kind =>
    operands.all (fun operand => NumericKind.of? allowBoolean operand == some kind))

/-- Replace operands of one kind by one result of that kind. -/
def numeric (operation : String) (count : Nat) (kinds : List NumericKind) (allowBoolean : Bool)
    (select : NumericKind → Instruction) : Effect :=
  fun frame => do
    let operands ← frame.topOperands operation count
    match commonKind? allowBoolean kinds operands with
    | some kind => .ok ((frame.drop count).push kind.valueType, [select kind])
    | none => .error (.typeMismatch operation (.sameKind count kinds) (.operands operands))

def arithmetic (operation : String) (op : ArithmeticOp) : Effect :=
  numeric operation 2 NumericKind.all true (.arithmetic op)

def negate (operation : String) : Effect :=
  numeric operation 1 NumericKind.all false .negate

def bitwise (operation : String) (op : BitwiseOp) : Effect :=
  numeric operation 2 NumericKind.integral true (fun kind =>
    .bitwise op (if kind = .int then .int else .long))

/-- Shift an `int` or `long` by an `int`. -/
def shift (operation : String) (direction : Shift) : Effect :=
  fun frame => do
    let (value, distance, rest) ← frame.pop2 operation
    match NumericKind.of? false value, NumericKind.of? false distance with
    | some .int, some .int => .ok (rest.push (.int .int), [.shift .int direction])
    | some .long, some .int => .ok (rest.push .long, [.shift .long direction])
    | _, _ =>
      .error (.typeMismatch operation .shiftOperands (.operands [value, distance]))

/-- Compare two values of the kind of the upper one. -/
def compare (operation : String) (withNaN : NaNResult) : Effect :=
  fun frame => do
    let (lower, upper, rest) ← frame.pop2 operation
    let compared (kind : NumericKind) (instruction : Instruction) :
        Except Error (Frame × Code) :=
      if lower = kind.valueType then .ok (rest.push (.int .int), [instruction])
      else .error (.typeMismatch operation (.bothOf kind) (.operands [lower, upper]))
    match upper with
    | .long => compared .long .compareLong
    | .float => compared .float (.compareFloat withNaN)
    | .double => compared .double (.compareDouble withNaN)
    | _ => .error (.typeMismatch operation .comparableOperands (.operands [lower, upper]))

/-! ## Conversions -/

/-- Conversion of a number to `int`. -/
def conversionToInt : NumericKind → List Conversion
  | .int => []
  | .long => [.longToInt]
  | .float => [.floatToInt]
  | .double => [.doubleToInt]

/-- Conversion of an `int` to one of its narrower kinds. -/
def conversionFromInt : Primitive → List Conversion
  | .byte => [.intToByte]
  | .char => [.intToChar]
  | .short => [.intToShort]
  | _ => []

/-- Conversions that take a number to a primitive type. Narrow kinds are reached through
`int`, and a number is already of its own kind. -/
def conversions : NumericKind → Primitive → List Conversion
  | .int, .long => [.intToLong]
  | .int, .float => [.intToFloat]
  | .int, .double => [.intToDouble]
  | .long, .float => [.longToFloat]
  | .long, .double => [.longToDouble]
  | .float, .long => [.floatToLong]
  | .float, .double => [.floatToDouble]
  | .double, .long => [.doubleToLong]
  | .double, .float => [.doubleToFloat]
  | .long, .long => []
  | .float, .float => []
  | .double, .double => []
  | kind, target => conversionToInt kind ++ conversionFromInt target

/-- Convert the top value. There is no conversion to or from `boolean`. -/
def convert (operation : String) (target : Primitive) : Effect :=
  fun frame => do
    let (value, rest) ← frame.pop1 operation
    match NumericKind.of? false value, decide (target = .boolean) with
    | some kind, false =>
      .ok (rest.push (.ofPrimitive target), (conversions kind target).map .convert)
    | _, _ => .error (.typeMismatch operation (.convertibleTo target) (.operands [value]))

end TypedBytecode.Effect
