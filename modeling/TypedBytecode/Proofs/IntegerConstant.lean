import TypedBytecode.Proofs.Stream

/-!
Contract: the whole numbers that the code of constants computes.

Owns:
- whole numbers on the stack of the machine, as words in two's complement;
- what the instructions that push or widen whole numbers compute, each with its operand as it
  stands in the code;
- the number that an operation is asked for, which is exact and has no width;
- the agreement of the two: however the code is chosen, it pushes the number that is asked for.

Does not own: constants that are no whole numbers.
-/

namespace TypedBytecode

/-! ## Numbers on the stack -/

/-- A whole number on the stack, in two's complement. -/
inductive Integer where
  | int (bits : BitVec 32)
  | long (bits : BitVec 64)
deriving DecidableEq, Repr

namespace Integer

def kind : Integer → IntegralKind
  | .int _ => .int
  | .long _ => .long

def toInt : Integer → Int
  | .int bits => bits.toInt
  | .long bits => bits.toInt

end Integer

/-- What an instruction that pushes or widens a whole number does to a stack of them, its top
first. Immediate operands are narrow words, which are widened with their sign. -/
def Instruction.compute? : Instruction → List Integer → Option (List Integer)
  | .intConstMinusOne, stack => some (.int (-1) :: stack)
  | .intConst value, stack => some (.int (BitVec.ofNat 32 value.val) :: stack)
  | .bytePush value, stack => some (.int (value.toBitVec.signExtend 32) :: stack)
  | .shortPush value, stack => some (.int (value.toBitVec.signExtend 32) :: stack)
  | .loadConstant (.integer value), stack => some (.int value.toBitVec :: stack)
  | .longConst value, stack => some (.long (BitVec.ofNat 64 value.val) :: stack)
  | .loadWideConstant (.long value), stack => some (.long value.toBitVec :: stack)
  | .convert .intToLong, .int bits :: stack => some (.long (bits.signExtend 64) :: stack)
  | _, _ => none

/-- The instructions of straight-line code one after the other. -/
def Code.compute? : Code → List Integer → Option (List Integer)
  | [], stack => some stack
  | instruction :: rest, stack => (instruction.compute? stack).bind (compute? rest)

/-- The kind of whole number that an operation is asked to push, and the number itself. A `char`
is never negative. -/
def Operation.number? : Operation → Option (IntegralKind × Int)
  | .constInt value => some (.int, value.toInt)
  | .constBool value => some (.int, if value then 1 else 0)
  | .constChar value => some (.int, value.toNat)
  | .constByte value => some (.int, value.toInt)
  | .constShort value => some (.int, value.toInt)
  | .constLong value => some (.long, value.toInt)
  | _ => none

/-! ## Words that are narrowed and widened again -/

namespace Integer

/-- The kind and the number are all there is to a whole number on the stack. -/
theorem eq_of_toInt {left right : Integer} (sameKind : left.kind = right.kind)
    (sameNumber : left.toInt = right.toInt) : left = right := by
  cases left with
  | int bits =>
      cases right with
      | int other => rw [BitVec.eq_of_toInt_eq sameNumber]
      | long other => cases sameKind
  | long bits =>
      cases right with
      | int other => cases sameKind
      | long other => rw [BitVec.eq_of_toInt_eq sameNumber]

/-- Words that are pushed are compared as numbers, since most of them have been cut down. -/
theorem pushed_eq {left right : Integer} {stack : List Integer}
    (sameKind : left.kind = right.kind) (sameNumber : left.toInt = right.toInt) :
    some (left :: stack) = some (right :: stack) := by
  rw [eq_of_toInt sameKind sameNumber]

theorem toInt_byte_widened {value : Int32} (low : -128 ≤ value.toInt) (high : value.toInt ≤ 127) :
    (value.toInt8.toBitVec.signExtend 32).toInt = value.toInt := by
  rw [BitVec.toInt_signExtend_of_le (by decide), Int8.toInt_toBitVec, Int32.toInt_toInt8]
  apply Int.bmod_eq_of_le <;> omega

theorem toInt_short_widened {value : Int32} (low : -32768 ≤ value.toInt)
    (high : value.toInt ≤ 32767) :
    (value.toInt16.toBitVec.signExtend 32).toInt = value.toInt := by
  rw [BitVec.toInt_signExtend_of_le (by decide), Int16.toInt_toBitVec, Int32.toInt_toInt16]
  apply Int.bmod_eq_of_le <;> omega

theorem toInt_int_widened {value : Int64} (low : -32768 ≤ value.toInt)
    (high : value.toInt ≤ 32767) :
    (value.toInt32.toBitVec.signExtend 64).toInt = value.toInt := by
  rw [BitVec.toInt_signExtend_of_le (by decide), Int32.toInt_toBitVec, Int64.toInt_toInt32]
  apply Int.bmod_eq_of_le <;> omega

end Integer

/-! ## The code of constants -/

namespace Effect

/-- Whichever form is chosen for an `int`, it pushes the word itself. -/
theorem compute?_intConstant (value : Int32) (stack : List Integer) :
    (intConstant value).compute? stack = some (.int value.toBitVec :: stack) := by
  unfold intConstant
  dsimp only
  split_ifs with minusOne small byte short
  · exact Integer.pushed_eq rfl minusOne.symm
  · refine Integer.pushed_eq rfl ?_
    show (BitVec.ofNat 32 value.toInt.toNat).toInt = value.toInt
    rw [BitVec.toInt_ofNat', Int.toNat_of_nonneg small.1]
    apply Int.bmod_eq_of_le <;> omega
  · exact Integer.pushed_eq rfl (Integer.toInt_byte_widened byte.1 byte.2)
  · exact Integer.pushed_eq rfl (Integer.toInt_short_widened short.1 short.2)
  · rfl

/-- Whichever form is chosen for a `long`, it pushes the word itself. -/
theorem compute?_longConstant (value : Int64) (stack : List Integer) :
    (longConstant value).compute? stack = some (.long value.toBitVec :: stack) := by
  unfold longConstant
  dsimp only
  split_ifs with zero one short
  · exact Integer.pushed_eq rfl zero.symm
  · exact Integer.pushed_eq rfl one.symm
  · rw [Code.compute?, compute?_intConstant]
    exact Integer.pushed_eq rfl (Integer.toInt_int_widened short.1 short.2)
  · rfl

theorem compute?_singleton (value : Int32) (stack : List Integer) :
    Code.compute? [intConstant value] stack = some (.int value.toBitVec :: stack) := by
  rw [Code.compute?, compute?_intConstant]
  rfl

end Effect

theorem Code.PushesConstant.isTerminal_eq_false {value : ValueType} {code : Code}
    (pushes : code.PushesConstant value) : code.isTerminal = false := by
  cases pushes with
  | single pushes => exact pushes.isTerminal_eq_false
  | converted => rfl

namespace Operation

/-- The code of a whole number pushes that number, and the type that is tracked for it is of the
same kind. -/
theorem computes_number {operation : Operation} {kind : IntegralKind} {number : Int}
    (asked : operation.number? = some (kind, number)) :
    ∃ type code pushed, operation.constant? = some (type, code) ∧
      NumericKind.of? true type = some kind.numeric ∧ pushed.kind = kind ∧
      pushed.toInt = number ∧ ∀ stack, code.compute? stack = some (pushed :: stack) := by
  cases operation with
  | constInt value =>
      cases asked
      exact ⟨_, _, .int value.toBitVec, rfl, rfl, rfl, rfl, Effect.compute?_singleton value⟩
  | constBool value =>
      cases asked
      refine ⟨_, _, .int (if value then 1 else 0 : Int32).toBitVec, rfl, rfl, rfl, ?_,
        Effect.compute?_singleton _⟩
      cases value <;> rfl
  | constChar value =>
      cases asked
      refine ⟨_, _, .int (Int32.ofNat value.toNat).toBitVec, rfl, rfl, rfl, ?_,
        Effect.compute?_singleton _⟩
      have bound := value.toNat_lt
      exact Int32.toInt_ofNat_of_lt (by omega)
  | constByte value =>
      cases asked
      exact ⟨_, _, .int value.toInt32.toBitVec, rfl, rfl, rfl, value.toInt_toInt32,
        Effect.compute?_singleton _⟩
  | constShort value =>
      cases asked
      exact ⟨_, _, .int value.toInt32.toBitVec, rfl, rfl, rfl, value.toInt_toInt32,
        Effect.compute?_singleton _⟩
  | constLong value =>
      cases asked
      exact ⟨_, _, .long value.toBitVec, rfl, rfl, rfl, rfl, Effect.compute?_longConstant value⟩
  | _ => cases asked

/-- Constants are planned without a look at the frame. -/
theorem plan_of_constant? {graph : ClassGraph} {routine : Method} {offset : Nat}
    {operation : Operation} {type : ValueType} {code : Code}
    (chosen : operation.constant? = some (type, code)) :
    operation.plan graph routine offset = .ok (Effect.pushing type code) := by
  cases operation with
  | constInt | constBool | constChar | constByte | constShort | constLong | constFloat
  | constDouble | constString | constNull | defaultValue =>
      cases chosen
      rfl
  | _ => cases chosen

end Operation

/-! ## Calls -/

namespace Builder

/-- Wherever code can be reached: an operation that is asked for a whole number succeeds, and the
code that it emits pushes one value more on any stack of numbers, which is of the kind that is asked
for and is that very number. What is tracked grows by one value of that kind. -/
theorem constants_push_numbers (graph : ClassGraph) (builder : Builder) (current : Snapshot)
    (reachable : builder.current = some current) (operation : Operation) (kind : IntegralKind)
    (number : Int) (asked : operation.number? = some (kind, number)) :
    ∃ (next : Builder) (code : Code) (pushed : Integer) (type : ValueType),
      builder.call graph (.operation operation) = .ok next ∧
      next.emissions = builder.emissions ++ code.map .instruction ∧
      (∀ stack, code.compute? stack = some (pushed :: stack)) ∧
      pushed.kind = kind ∧ pushed.toInt = number ∧
      next.current = some { current with frame := current.frame.push type } ∧
      NumericKind.of? true type = some kind.numeric := by
  obtain ⟨type, code, pushed, chosen, tracked, sameKind, sameNumber, computed⟩ :=
    Operation.computes_number asked
  have called : builder.call graph (.operation operation) =
      .ok (builder.afterCode current (current.frame.push type) code) :=
    call_of_plan (Operation.plan_of_constant? chosen) reachable
  have passes := (Operation.pushes_of_constant? chosen).isTerminal_eq_false
  refine ⟨_, code, pushed, type, called, emissions_afterCode, computed, sameKind, sameNumber, ?_,
    tracked⟩
  rw [afterCode, passes]
  rfl

/-- The least number of sixteen bits, as a `long`: it is cut down twice on its way into the code,
and widened twice on its way onto the stack. -/
theorem constants_push_least_short :
    (start plainRoutine).current = some (.ofFrame (entryFrame plainRoutine)) ∧
      Operation.constant? (.constLong (-32768)) =
        some (.long, [.shortPush (-32768), .convert .intToLong]) ∧
      Operation.number? (.constLong (-32768)) = some (.long, -32768) ∧
      ∃ (next : Builder) (code : Code) (pushed : Integer) (type : ValueType),
        (start plainRoutine).call .empty (.operation (.constLong (-32768))) = .ok next ∧
        next.emissions = (start plainRoutine).emissions ++ code.map .instruction ∧
        (∀ stack, code.compute? stack = some (pushed :: stack)) ∧
        pushed.kind = .long ∧ pushed.toInt = -32768 ∧
        next.current = some (.ofFrame ((entryFrame plainRoutine).push type)) ∧
        NumericKind.of? true type = some .long :=
  ⟨rfl, by decide, by decide, constants_push_numbers .empty (start plainRoutine)
    (.ofFrame (entryFrame plainRoutine)) rfl (.constLong (-32768)) .long (-32768) (by decide)⟩

end Builder

end TypedBytecode
