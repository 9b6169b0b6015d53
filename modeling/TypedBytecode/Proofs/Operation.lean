import TypedBytecode.Operation
import Mathlib.Data.List.Forall2

/-!
Contract: what an operation that succeeds does to the frame, and the code it emits.

Owns:
- the inversion of the checks that operations are made of;
- `Operation.Performs`, with one rule for each way in which an operation can succeed;
- `Operation.performs_of_plan`, which finds the rule behind every success.

Every property of straight-line code is a case analysis over these rules, so no later proof
opens an effect.

Does not own: jumps and labels, or any property of the frames.
-/

namespace TypedBytecode

/-! ## Successful checks -/

theorem bind_eq_ok {ε α β : Type} {first : Except ε α} {next : α → Except ε β} {result : β} :
    (first >>= next) = .ok result ↔ ∃ value, first = .ok value ∧ next value = .ok result := by
  cases first with
  | error cause => simp [bind, Except.bind]
  | ok value => simp [bind, Except.bind]

/-- Operands meet requirements one by one, the lowest first. -/
def Requirement.Met (graph : ClassGraph) (requirements : List Requirement)
    (operands : List ValueType) : Prop :=
  List.Forall₂ (fun requirement operand => requirement.accepts graph operand = true)
    requirements operands

theorem Requirement.accepts_category1 {graph : ClassGraph} {value : ValueType} :
    Requirement.category1.accepts graph value = true ↔ value ≠ .top ∧ value.isWide = false := by
  simp [accepts]

namespace Frame

theorem pop1_eq_ok {frame rest : Frame} {operation : String} {value : ValueType} :
    frame.pop1 operation = .ok (value, rest) ↔ frame = ⟨rest.locals, value :: rest.stack⟩ := by
  obtain ⟨locals, stack⟩ := frame
  obtain ⟨restLocals, restStack⟩ := rest
  cases stack with
  | nil => simp [pop1]
  | cons upper stack =>
      simp only [pop1, Except.ok.injEq, Prod.mk.injEq, mk.injEq, List.cons.injEq]
      tauto

theorem pop2_eq_ok {frame rest : Frame} {operation : String} {lower upper : ValueType} :
    frame.pop2 operation = .ok (lower, upper, rest) ↔
      frame = ⟨rest.locals, upper :: lower :: rest.stack⟩ := by
  obtain ⟨locals, stack⟩ := frame
  obtain ⟨restLocals, restStack⟩ := rest
  rcases stack with _ | ⟨first, _ | ⟨second, stack⟩⟩
  · simp [pop2]
  · simp [pop2]
  · simp only [pop2, Except.ok.injEq, Prod.mk.injEq, mk.injEq, List.cons.injEq]
    tauto

theorem pop3_eq_ok {frame rest : Frame} {operation : String}
    {lower middle upper : ValueType} :
    frame.pop3 operation = .ok (lower, middle, upper, rest) ↔
      frame = ⟨rest.locals, upper :: middle :: lower :: rest.stack⟩ := by
  obtain ⟨locals, stack⟩ := frame
  obtain ⟨restLocals, restStack⟩ := rest
  rcases stack with _ | ⟨first, _ | ⟨second, _ | ⟨third, stack⟩⟩⟩
  · simp [pop3]
  · simp [pop3]
  · simp [pop3]
  · simp only [pop3, Except.ok.injEq, Prod.mk.injEq, mk.injEq, List.cons.injEq]
    tauto

theorem topOperands_eq_ok {frame : Frame} {operation : String} {count : Nat}
    {operands : List ValueType} :
    frame.topOperands operation count = .ok operands ↔
      operands.length = count ∧ frame.stack = operands.reverse ++ frame.stack.drop count := by
  unfold topOperands
  split
  · rename_i few
    simp only [reduceCtorEq, false_iff, not_and]
    intro counted split
    have bound := congrArg List.length split
    simp only [List.length_append, List.length_reverse, counted] at bound
    omega
  · rename_i enough
    simp only [Except.ok.injEq]
    constructor
    · rintro rfl
      refine ⟨by simp; omega, ?_⟩
      rw [List.reverse_reverse, List.take_append_drop]
    · rintro ⟨counted, split⟩
      rw [split, List.take_left' (by simp [counted]), List.reverse_reverse]

theorem satisfies_iff {graph : ClassGraph} {requirements : List Requirement}
    {operands : List ValueType} (sameLength : operands.length = requirements.length) :
    satisfies graph requirements operands = true ↔
      Requirement.Met graph requirements operands := by
  unfold satisfies Requirement.Met
  rw [List.forall₂_iff_zip]
  simp [List.all_eq_true, sameLength]

/-- Taking operands succeeds exactly when they are on top and meet the requirements. -/
theorem take_eq_ok {graph : ClassGraph} {frame rest : Frame} {operation : String}
    {requirements : List Requirement} {operands : List ValueType} :
    frame.take graph operation requirements = .ok (operands, rest) ↔
      Requirement.Met graph requirements operands ∧
        frame = ⟨rest.locals, operands.reverse ++ rest.stack⟩ := by
  obtain ⟨locals, stack⟩ := frame
  obtain ⟨restLocals, restStack⟩ := rest
  simp only [take, checkOperands, bind_eq_ok, topOperands_eq_ok]
  constructor
  · rintro ⟨found, ⟨operands', ⟨counted, split⟩, checked⟩, taken⟩
    split at checked
    · rename_i satisfied
      simp only [Except.ok.injEq, Prod.mk.injEq, drop, mk.injEq] at checked taken
      obtain ⟨rfl, rfl, rfl⟩ := taken
      subst checked
      exact ⟨(satisfies_iff counted).mp satisfied, by simpa using split⟩
    · cases checked
  · rintro ⟨met, framed⟩
    have counted : operands.length = requirements.length := (List.Forall₂.length_eq met).symm
    simp only [mk.injEq] at framed
    obtain ⟨rfl, rfl⟩ := framed
    have dropped : (operands.reverse ++ restStack).drop requirements.length = restStack :=
      List.drop_left' (by simp [counted])
    refine ⟨operands, ⟨operands, ⟨counted, by rw [dropped]⟩, ?_⟩, ?_⟩
    · rw [if_pos ((satisfies_iff counted).mpr met)]
    · simp only [drop, dropped]

/-- Ending the last local keeps the locals before it and the stack. -/
theorem kept_of_popLocal? {frame rest : Frame} {value : ValueType}
    (popped : frame.popLocal? = some (value, rest)) :
    rest.locals <+: frame.locals ∧ rest.stack = frame.stack := by
  have kept := List.dropLast_prefix frame.locals
  have keptTwice := (List.dropLast_prefix frame.locals.dropLast).trans kept
  unfold popLocal? at popped
  split at popped
  · cases popped
  · split at popped
    · split at popped
      · cases popped
        exact ⟨keptTwice, rfl⟩
      · cases popped
        exact ⟨kept, rfl⟩
    · cases popped
      exact ⟨kept, rfl⟩
  · cases popped
    exact ⟨kept, rfl⟩

theorem localAt_eq_ok {frame : Frame} {operation : String} {slot : Nat} {value : ValueType} :
    frame.localAt operation slot = .ok value ↔
      frame.locals[slot]? = some value ∧ value ≠ .top := by
  unfold localAt
  split
  · rename_i missing
    simp [missing]
  · rename_i held
    simp only [held, reduceCtorEq, Option.some.injEq, false_iff, not_and, not_not]
    exact fun same => same.symm
  · rename_i found notTop held
    simp only [held, Except.ok.injEq, Option.some.injEq]
    constructor
    · rintro rfl
      exact ⟨rfl, notTop⟩
    · exact fun same => same.1

end Frame

theorem Effect.slotIndex_eq_ok {operation : String} {slot : Nat} {index : UInt16} :
    Effect.slotIndex operation slot = .ok index ↔
      slot ≤ Effect.lastSlot ∧ index = UInt16.ofNat slot := by
  unfold Effect.slotIndex
  split
  · rename_i inRange
    simp only [Except.ok.injEq, inRange, true_and]
    exact eq_comm
  · rename_i outOfRange
    simp [outOfRange]

/-! ## Work on one slot -/

namespace Effect

variable {graph : ClassGraph} {operation : String} {slot : Nat} {before after : Frame}
  {code : Code}

theorem loadSlot_eq_ok :
    loadSlot operation slot before = .ok (after, code) ↔
      ∃ value, before.locals[slot]? = some value ∧ value ≠ .top ∧ slot ≤ lastSlot ∧
        after = before.push value ∧ code = [.load (.ofValue value) (UInt16.ofNat slot)] := by
  simp only [loadSlot, bind_eq_ok, Frame.localAt_eq_ok, slotIndex_eq_ok]
  constructor
  · rintro ⟨value, ⟨held, usable⟩, _, ⟨inRange, rfl⟩, loaded⟩
    cases loaded
    exact ⟨value, held, usable, inRange, rfl, rfl⟩
  · rintro ⟨value, held, usable, inRange, rfl, rfl⟩
    exact ⟨value, ⟨held, usable⟩, _, ⟨inRange, rfl⟩, rfl⟩

/-- A slot is stored to by what is assignable to the value that it holds. -/
theorem storeSlot_eq_ok :
    storeSlot graph operation slot before = .ok (after, code) ↔
      ∃ value found, before.locals[slot]? = some value ∧ value ≠ .top ∧
        found.assignable graph value = true ∧ slot ≤ lastSlot ∧
        before = ⟨after.locals, found :: after.stack⟩ ∧
        code = [.store (.ofValue value) (UInt16.ofNat slot)] := by
  simp only [storeSlot, bind_eq_ok, Prod.exists, Frame.localAt_eq_ok, Frame.take_eq_ok,
    slotIndex_eq_ok]
  constructor
  · rintro ⟨value, ⟨held, usable⟩, operands, rest, ⟨met, taken⟩, _, ⟨inRange, rfl⟩, stored⟩
    cases stored
    cases met with
    | @cons _ found _ _ fits none =>
        cases none
        exact ⟨value, found, held, usable, fits, inRange, taken, rfl⟩
  · rintro ⟨value, found, held, usable, fits, inRange, taken, rfl⟩
    have met : Requirement.Met graph [.assignableTo value] [found] := .cons fits .nil
    exact ⟨value, ⟨held, usable⟩, [found], after, ⟨met, taken⟩, _, ⟨inRange, rfl⟩, rfl⟩

theorem incrementSlot_eq_ok {delta : Int16} :
    incrementSlot operation slot delta before = .ok (after, code) ↔
      ∃ kind, before.locals[slot]? = some (.int kind) ∧ slot ≤ lastSlot ∧ after = before ∧
        code = [.increment (UInt16.ofNat slot) delta] := by
  simp only [incrementSlot, bind_eq_ok, Frame.localAt_eq_ok]
  constructor
  · rintro ⟨value, ⟨held, -⟩, chosen⟩
    split at chosen
    · rename_i intLike
      simp only [bind_eq_ok, slotIndex_eq_ok] at chosen
      obtain ⟨_, ⟨inRange, rfl⟩, incremented⟩ := chosen
      cases incremented
      cases value with
      | int kind => exact ⟨kind, held, inRange, rfl, rfl⟩
      | _ => cases intLike
    · cases chosen
  · rintro ⟨kind, held, inRange, rfl, rfl⟩
    have intLike : (ValueType.int kind).isIntLike = true := rfl
    refine ⟨.int kind, ⟨held, nofun⟩, ?_⟩
    rw [if_pos intLike, bind_eq_ok]
    exact ⟨_, slotIndex_eq_ok.mpr ⟨inRange, rfl⟩, rfl⟩

end Effect

/-! ## The code of constants -/

/-- Instructions that push a constant, and the values they can stand for. -/
inductive Instruction.Pushes : Instruction → ValueType → Prop where
  | null (type : RefType) : Pushes .nullConst (.reference type)
  | minusOne (kind : IntKind) : Pushes .intConstMinusOne (.int kind)
  | smallInt (value : Fin 6) (kind : IntKind) : Pushes (.intConst value) (.int kind)
  | byte (value : Int8) (kind : IntKind) : Pushes (.bytePush value) (.int kind)
  | short (value : Int16) (kind : IntKind) : Pushes (.shortPush value) (.int kind)
  | int (value : Int32) (kind : IntKind) : Pushes (.loadConstant (.integer value)) (.int kind)
  | smallLong (value : Fin 2) : Pushes (.longConst value) .long
  | long (value : Int64) : Pushes (.loadWideConstant (.long value)) .long
  | smallFloat (value : Fin 3) : Pushes (.floatConst value) .float
  | float (pattern : UInt32) : Pushes (.loadConstant (.float pattern)) .float
  | smallDouble (value : Fin 2) : Pushes (.doubleConst value) .double
  | double (pattern : UInt64) : Pushes (.loadWideConstant (.double pattern)) .double
  | string (value : String) : Pushes (.loadConstant (.string value)) (.object .string)

/-- Code that pushes a constant: one instruction, or an `int` and its conversion. -/
inductive Code.PushesConstant (value : ValueType) : Code → Prop where
  | single {instruction : Instruction} (pushes : instruction.Pushes value) :
      PushesConstant value [instruction]
  | converted {instruction : Instruction} {conversion : Conversion}
      (pushes : instruction.Pushes (.int .int)) (source : conversion.source = .int)
      (target : .ofPrimitive conversion.target = value) :
      PushesConstant value [instruction, .convert conversion]

namespace Effect

theorem pushes_intConstant (value : Int32) (kind : IntKind) :
    (intConstant value).Pushes (.int kind) := by
  unfold intConstant
  dsimp only
  split_ifs
  · exact .minusOne kind
  · exact .smallInt _ kind
  · exact .byte _ kind
  · exact .short _ kind
  · exact .int _ kind

theorem pushes_longConstant (value : Int64) : Code.PushesConstant .long (longConstant value) := by
  unfold longConstant
  dsimp only
  split_ifs
  · exact .single (.smallLong 0)
  · exact .single (.smallLong 1)
  · exact .converted (pushes_intConstant _ .int) rfl rfl
  · exact .single (.long value)

theorem pushes_floatConstant (pattern : UInt32) :
    Code.PushesConstant .float (floatConstant pattern) := by
  unfold floatConstant
  split
  · exact .single (.smallFloat 0)
  · exact .single (.smallFloat 1)
  · exact .single (.smallFloat 2)
  · split_ifs
    · exact .converted (pushes_intConstant _ .int) rfl rfl
    · exact .single (.float pattern)
  · exact .single (.float pattern)

theorem pushes_doubleConstant (pattern : UInt64) :
    Code.PushesConstant .double (doubleConstant pattern) := by
  unfold doubleConstant
  split
  · exact .single (.smallDouble 0)
  · exact .single (.smallDouble 1)
  · split_ifs
    · exact .converted (pushes_intConstant _ .int) rfl rfl
    · exact .single (.double pattern)
  · exact .single (.double pattern)

theorem pushes_zeroConstant (type : FieldType) :
    (zeroConstant type).Pushes (.ofFieldType type) := by
  rcases type with primitive | reference
  · cases primitive with
    | long => exact .smallLong 0
    | float => exact .smallFloat 0
    | double => exact .smallDouble 0
    | _ => exact .smallInt 0 _
  · exact .null reference

end Effect

/-! ## What operations do -/

namespace Operation

/-- Index of a local, relative to the parameters, that an operation is given. -/
def relativeIndex? : Operation → Option UInt64
  | .loadLocal index => some index
  | .storeLocalAt index => some index
  | .increment index _ => some index
  | _ => none

theorem relativeSlot_eq_ok {offset : Nat} {index : UInt64} {slot : Nat} :
    relativeSlot offset index = .ok slot ↔
      offset + index.toNat < UInt64.size ∧ slot = offset + index.toNat := by
  unfold relativeSlot
  split
  · rename_i fits
    simp only [Except.ok.injEq, fits, true_and]
    exact eq_comm
  · rename_i exceeds
    simp [exceeds]

theorem relativeSlot_eq_error {offset : Nat} {index : UInt64} {cause : Error} :
    relativeSlot offset index = .error cause ↔
      UInt64.size ≤ offset + index.toNat ∧ cause = .overflow := by
  unfold relativeSlot
  split
  · rename_i fits
    simp [Nat.not_le.mpr fits]
  · rename_i exceeds
    simp only [Except.error.injEq, Nat.le_of_not_lt exceeds, true_and]
    exact eq_comm

/-- Slot that a load reads, if the routine has the local it names. -/
def loadSlot? (routine : Method) (offset : Nat) : Operation → Option Nat
  | .loadThis => if routine.isStatic then none else some 0
  | .loadParameter index =>
    if index.toNat < routine.type.parameters.length then
      some (parameterSlot routine index.toNat)
    else none
  | .loadLocal index => (relativeSlot offset index).toOption
  | _ => none

/-- Field that an operation reads. -/
def readField? (graph : ClassGraph) (routine : Method) : Operation → Option Field
  | .getField field => some field
  | .getOwnField name => graph.findField? routine.owner name
  | _ => none

/-- Field that an operation writes. -/
def writtenField? (graph : ClassGraph) (routine : Method) : Operation → Option Field
  | .putField field => some field
  | .putOwnField name => graph.findField? routine.owner name
  | _ => none

/-- Type and code of the constant that an operation pushes. -/
def constant? : Operation → Option (ValueType × Code)
  | .constInt value => some (.int .int, [Effect.intConstant value])
  | .constBool value => some (.int .boolean, [Effect.intConstant (if value then 1 else 0)])
  | .constChar value => some (.int .char, [Effect.intConstant (Int32.ofNat value.toNat)])
  | .constByte value => some (.int .byte, [Effect.intConstant value.toInt32])
  | .constShort value => some (.int .short, [Effect.intConstant value.toInt32])
  | .constLong value => some (.long, Effect.longConstant value)
  | .constFloat pattern => some (.float, Effect.floatConstant pattern)
  | .constDouble pattern => some (.double, Effect.doubleConstant pattern)
  | .constString value => some (.object .string, [.loadConstant (.string value)])
  | .constNull type => some (.reference type, [.nullConst])
  | .defaultValue type => some (.ofFieldType type, [Effect.zeroConstant type])
  | _ => none

theorem pushes_of_constant? {operation : Operation} {value : ValueType} {code : Code}
    (chosen : operation.constant? = some (value, code)) : code.PushesConstant value := by
  cases operation with
  | constInt | constBool | constChar | constByte | constShort =>
      cases chosen
      exact .single (Effect.pushes_intConstant _ _)
  | constLong value =>
      cases chosen
      exact Effect.pushes_longConstant value
  | constFloat pattern =>
      cases chosen
      exact Effect.pushes_floatConstant pattern
  | constDouble pattern =>
      cases chosen
      exact Effect.pushes_doubleConstant pattern
  | constString value =>
      cases chosen
      exact .single (.string value)
  | constNull type =>
      cases chosen
      exact .single (.null type)
  | defaultValue type =>
      cases chosen
      exact .single (Effect.pushes_zeroConstant type)
  | _ => cases chosen

/-- Method that an operation invokes, the class its receiver is checked against, and how. -/
inductive Invokes (graph : ClassGraph) : Operation → Method → ClassName → InvokeKind → Prop where
  | declared {method : Method} {kind : InvokeKind}
      (chosen : graph.invokeKind method = .ok kind) :
      Invokes graph (.invoke method) method method.owner kind
  | on (method : Method) (target : ClassName) :
      Invokes graph (.invokeOn method target) method target
        (if method.isStatic then .static else .special)

/-- What an operation asks of the values it captures, and the functional method, interface and
handle of the instance that it makes. -/
inductive Captures (graph : ClassGraph) :
    Operation → List Requirement → Method → ClassName → Constant → Prop where
  | method {method functional : Method} {interface : ClassName} (captures : Nat)
      (found : graph.functionalMethod? interface = some functional)
      (counted : method.type.parameters.length + (if method.isStatic then 0 else 1) =
        functional.type.parameters.length + captures) :
      Captures graph (.lambda method interface)
        (Effect.captureRequirements method functional captures) functional interface
        (.methodHandle (graph.methodHandleKind method) method)
  | field {field : Field} {functional : Method} {interface : ClassName} {kind : HandleKind}
      (found : graph.functionalMethod? interface = some functional)
      (accessor : Effect.fieldHandleKind? field functional.type.parameters.length = some kind) :
      Captures graph (.lambdaField field interface)
        (if field.isStatic then [] else [.assignableTo (.object field.owner)])
        functional interface (.fieldHandle kind field)

/-- Instruction that puts a copy of the top value beneath the value under it. -/
def copyBeneath (upper lower : ValueType) : Instruction :=
  match upper.isWide, lower.isWide with
  | false, false => .dupX1
  | false, true => .dupX2
  | true, false => .dup2X1
  | true, true => .dup2X2

/-- Instruction that makes an array with the given elements. -/
def makeArray : FieldType → Instruction
  | .primitive element => .newArray element
  | .reference type => .newReferenceArray type

/-- The frames before and after an operation that succeeds, and the code it emits. -/
inductive Performs (graph : ClassGraph) (routine : Method) (offset : Nat) :
    Operation → Frame → Frame → Code → Prop where
  | arithmetic {locals stack : List ValueType} {lower upper : ValueType} {kind : NumericKind}
      (op : ArithmeticOp) (lowerKind : NumericKind.of? true lower = some kind)
      (upperKind : NumericKind.of? true upper = some kind) :
      Performs graph routine offset (.arithmetic op) ⟨locals, upper :: lower :: stack⟩
        ⟨locals, kind.valueType :: stack⟩ [.arithmetic op kind]
  | negate {locals stack : List ValueType} {value : ValueType} {kind : NumericKind}
      (valueKind : NumericKind.of? false value = some kind) :
      Performs graph routine offset .negate ⟨locals, value :: stack⟩
        ⟨locals, kind.valueType :: stack⟩ [.negate kind]
  | bitwise {locals stack : List ValueType} {lower upper : ValueType} (op : BitwiseOp)
      (kind : IntegralKind) (lowerKind : NumericKind.of? true lower = some kind.numeric)
      (upperKind : NumericKind.of? true upper = some kind.numeric) :
      Performs graph routine offset (.bitwise op) ⟨locals, upper :: lower :: stack⟩
        ⟨locals, kind.numeric.valueType :: stack⟩ [.bitwise op kind]
  | shift {locals stack : List ValueType} {value distance : ValueType} (direction : Shift)
      (kind : IntegralKind) (valueKind : NumericKind.of? false value = some kind.numeric)
      (distanceKind : NumericKind.of? false distance = some .int) :
      Performs graph routine offset (.shift direction) ⟨locals, distance :: value :: stack⟩
        ⟨locals, kind.numeric.valueType :: stack⟩ [.shift kind direction]
  | compareLong {locals stack : List ValueType} (nanIsGreater : Bool) :
      Performs graph routine offset (.compare nanIsGreater) ⟨locals, .long :: .long :: stack⟩
        ⟨locals, .int .int :: stack⟩ [.compareLong]
  | compareFloat {locals stack : List ValueType} (nanIsGreater : Bool) :
      Performs graph routine offset (.compare nanIsGreater) ⟨locals, .float :: .float :: stack⟩
        ⟨locals, .int .int :: stack⟩
        [.compareFloat (if nanIsGreater then .greater else .less)]
  | compareDouble {locals stack : List ValueType} (nanIsGreater : Bool) :
      Performs graph routine offset (.compare nanIsGreater)
        ⟨locals, .double :: .double :: stack⟩ ⟨locals, .int .int :: stack⟩
        [.compareDouble (if nanIsGreater then .greater else .less)]
  | convert {locals stack : List ValueType} {value : ValueType} {kind : NumericKind}
      {target : Primitive} (valueKind : NumericKind.of? false value = some kind)
      (notBoolean : target ≠ .boolean) :
      Performs graph routine offset (.convert target) ⟨locals, value :: stack⟩
        ⟨locals, .ofPrimitive target :: stack⟩ ((Effect.conversions kind target).map .convert)
  | swap {locals stack : List ValueType} {lower upper : ValueType}
      (narrow : Requirement.Met graph [.category1, .category1] [lower, upper]) :
      Performs graph routine offset .swap ⟨locals, upper :: lower :: stack⟩
        ⟨locals, lower :: upper :: stack⟩ [.swap]
  | pop {locals stack : List ValueType} (value : ValueType) :
      Performs graph routine offset .pop ⟨locals, value :: stack⟩ ⟨locals, stack⟩
        [if value.isWide then .pop2 else .pop]
  | dup {locals stack : List ValueType} (value : ValueType) :
      Performs graph routine offset .dup ⟨locals, value :: stack⟩
        ⟨locals, value :: value :: stack⟩ [if value.isWide then .dup2 else .dup]
  | dupUnder {locals stack : List ValueType} (lower upper : ValueType) :
      Performs graph routine offset .dupUnder ⟨locals, upper :: lower :: stack⟩
        ⟨locals, upper :: lower :: upper :: stack⟩ [copyBeneath upper lower]
  | load {locals stack : List ValueType} {value : ValueType} {operation : Operation} {slot : Nat}
      (reads : operation.loadSlot? routine offset = some slot)
      (held : locals[slot]? = some value) (usable : value ≠ .top)
      (inRange : slot ≤ Effect.lastSlot) :
      Performs graph routine offset operation ⟨locals, stack⟩ ⟨locals, value :: stack⟩
        [.load (.ofValue value) (UInt16.ofNat slot)]
  | storeLocal {locals stack : List ValueType} {value : ValueType} (usable : value ≠ .top)
      (inRange : locals.length ≤ Effect.lastSlot) :
      Performs graph routine offset .storeLocal ⟨locals, value :: stack⟩
        ⟨locals ++ Frame.slots value, stack⟩
        [.store (.ofValue value) (UInt16.ofNat locals.length)]
  | storeLocalAt {locals stack : List ValueType} {value found : ValueType} {index : UInt64}
      {slot : Nat} (leads : relativeSlot offset index = .ok slot)
      (held : locals[slot]? = some value) (usable : value ≠ .top)
      (fits : found.assignable graph value = true) (inRange : slot ≤ Effect.lastSlot) :
      Performs graph routine offset (.storeLocalAt index) ⟨locals, found :: stack⟩
        ⟨locals, stack⟩ [.store (.ofValue value) (UInt16.ofNat slot)]
  | increment {locals stack : List ValueType} {kind : IntKind} {index : UInt64} {slot : Nat}
      (delta : Int16) (leads : relativeSlot offset index = .ok slot)
      (held : locals[slot]? = some (.int kind)) (inRange : slot ≤ Effect.lastSlot) :
      Performs graph routine offset (.increment index delta) ⟨locals, stack⟩ ⟨locals, stack⟩
        [.increment (UInt16.ofNat slot) delta]
  | killLocal {before after : Frame} {value : ValueType}
      (popped : before.popLocal? = some (value, after)) :
      Performs graph routine offset .killLocal before after []
  | getStatic {locals stack : List ValueType} {operation : Operation} {field : Field}
      (reads : operation.readField? graph routine = some field)
      (isStatic : field.isStatic = true) :
      Performs graph routine offset operation ⟨locals, stack⟩
        ⟨locals, .ofFieldType field.type :: stack⟩ [.getStatic field]
  | getField {locals stack : List ValueType} {operation : Operation} {field : Field}
      {object : ValueType} (reads : operation.readField? graph routine = some field)
      (isStatic : field.isStatic = false)
      (fits : object.assignable graph (.object field.owner) = true) :
      Performs graph routine offset operation ⟨locals, object :: stack⟩
        ⟨locals, .ofFieldType field.type :: stack⟩ [.getField field]
  | putStatic {locals stack : List ValueType} {operation : Operation} {field : Field}
      {value : ValueType} (writes : operation.writtenField? graph routine = some field)
      (isStatic : field.isStatic = true)
      (fits : value.assignable graph (.ofFieldType field.type) = true) :
      Performs graph routine offset operation ⟨locals, value :: stack⟩ ⟨locals, stack⟩
        [.putStatic field]
  | putField {locals stack : List ValueType} {operation : Operation} {field : Field}
      {object value : ValueType} (writes : operation.writtenField? graph routine = some field)
      (isStatic : field.isStatic = false)
      (objectFits : object.assignable graph (.object field.owner) = true)
      (valueFits : value.assignable graph (.ofFieldType field.type) = true) :
      Performs graph routine offset operation ⟨locals, value :: object :: stack⟩
        ⟨locals, stack⟩ [.putField field]
  | newArray {locals stack : List ValueType} {kind : IntKind} (component : FieldType) :
      Performs graph routine offset (.newArray component) ⟨locals, .int kind :: stack⟩
        ⟨locals, .reference (.array component) :: stack⟩ [makeArray component]
  | arrayLoad {locals stack : List ValueType} {type : RefType} {component : FieldType}
      {kind : IntKind} (elements : type.component? = some component) :
      Performs graph routine offset .arrayLoad
        ⟨locals, .int kind :: .reference type :: stack⟩
        ⟨locals, .ofFieldType component :: stack⟩ [.arrayLoad (.ofComponent component)]
  | arrayStore {locals stack : List ValueType} {type : RefType} {component : FieldType}
      {kind : IntKind} {value : ValueType} (elements : type.component? = some component)
      (fits : value.assignable graph (.ofFieldType component) = true) :
      Performs graph routine offset .arrayStore
        ⟨locals, value :: .int kind :: .reference type :: stack⟩ ⟨locals, stack⟩
        [.arrayStore (.ofComponent component)]
  | arrayLength {locals stack : List ValueType} {type : RefType} (isArray : type.isArray = true) :
      Performs graph routine offset .arrayLength ⟨locals, .reference type :: stack⟩
        ⟨locals, .int .int :: stack⟩ [.arrayLength]
  | newObject {locals stack : List ValueType} (name : ClassName) :
      Performs graph routine offset (.newObject name) ⟨locals, stack⟩
        ⟨locals, .object name :: stack⟩ [.newObject name]
  | cast {locals stack : List ValueType} {type target : RefType} {unchecked : Bool}
      (fits : unchecked = true ∨ type.assignable graph target = true) :
      Performs graph routine offset (.cast target unchecked)
        ⟨locals, .reference type :: stack⟩ ⟨locals, .reference target :: stack⟩
        [.checkCast target]
  | instanceOf {locals stack : List ValueType} {type : RefType} (target : RefType) :
      Performs graph routine offset (.instanceOf target) ⟨locals, .reference type :: stack⟩
        ⟨locals, .int .int :: stack⟩ [.instanceOf target]
  | box {locals stack : List ValueType} {value : ValueType} {primitive : Primitive}
      (boxed : value.primitive? = some primitive) :
      Performs graph routine offset .box ⟨locals, value :: stack⟩
        ⟨locals, .object primitive.boxName :: stack⟩ [.invoke .static primitive.valueOf]
  | unbox {locals stack : List ValueType} (primitive : Primitive) :
      Performs graph routine offset .unbox ⟨locals, .object primitive.boxName :: stack⟩
        ⟨locals, .ofPrimitive primitive :: stack⟩ [.invoke .virtual primitive.unbox]
  | invoke {locals stack operands : List ValueType} {operation : Operation} {method : Method}
      {receiver : ClassName} {kind : InvokeKind}
      (invokes : Invokes graph operation method receiver kind)
      (met : Requirement.Met graph (Effect.callRequirements method receiver) operands) :
      Performs graph routine offset operation ⟨locals, operands.reverse ++ stack⟩
        ⟨locals, (method.type.result.map .ofFieldType).toList ++ stack⟩ [.invoke kind method]
  | capture {locals stack operands : List ValueType} {operation : Operation}
      {requirements : List Requirement} {functional : Method} {interface : ClassName}
      {handle : Constant}
      (captures : Captures graph operation requirements functional interface handle)
      (met : Requirement.Met graph requirements operands) :
      Performs graph routine offset operation ⟨locals, operands.reverse ++ stack⟩
        ⟨locals, .object interface :: stack⟩
        [.invokeDynamic (Effect.lambdaSite functional interface handle
          (operands.filterMap ValueType.fieldType?))]
  | constant {locals stack : List ValueType} {operation : Operation} {value : ValueType}
      {code : Code} (pushes : operation.constant? = some (value, code)) :
      Performs graph routine offset operation ⟨locals, stack⟩ ⟨locals, value :: stack⟩ code
  | throwValue {locals stack : List ValueType} {value : ValueType}
      (fits : value.assignable graph (.object .throwable) = true) :
      Performs graph routine offset .throwValue ⟨locals, value :: stack⟩ ⟨locals, stack⟩
        [.throwReference]
  | returnVoid {frame : Frame} (noResult : routine.type.result = none) :
      Performs graph routine offset .returnValue frame frame [.returnVoid]
  | returnValue {locals stack : List ValueType} {value : ValueType} {type : FieldType}
      (result : routine.type.result = some type)
      (fits : value.assignable graph (.ofFieldType type) = true) :
      Performs graph routine offset .returnValue ⟨locals, value :: stack⟩ ⟨locals, stack⟩
        [.returnValue (.ofValue (.ofFieldType type))]

/-! ## Every success is one of them -/

section Success

variable {graph : ClassGraph} {routine : Method} {offset : Nat} {name : String}
  {before after : Frame} {code : Code}

theorem consuming_eq_ok {requirements : List Requirement} {results : List ValueType}
    {instruction : Instruction} :
    Effect.consuming graph name requirements results instruction before = .ok (after, code) ↔
      ∃ operands stack, Requirement.Met graph requirements operands ∧
        before = ⟨before.locals, operands.reverse ++ stack⟩ ∧
        after = ⟨before.locals, results.reverse ++ stack⟩ ∧ code = [instruction] := by
  have pushAll : ∀ (values : List ValueType) (frame : Frame),
      values.foldl Frame.push frame = ⟨frame.locals, values.reverse ++ frame.stack⟩ := by
    intro values
    induction values with
    | nil => simp
    | cons value values inductionHypothesis =>
        intro frame
        simp [inductionHypothesis, Frame.push]
  simp only [Effect.consuming, bind_eq_ok, Prod.exists, Frame.take_eq_ok, Except.ok.injEq,
    Prod.mk.injEq, pushAll]
  constructor
  · rintro ⟨operands, ⟨locals, stack⟩, ⟨met, rfl⟩, rfl, rfl⟩
    exact ⟨operands, stack, met, rfl, rfl, rfl⟩
  · rintro ⟨operands, stack, met, framed, rfl, rfl⟩
    exact ⟨operands, ⟨before.locals, stack⟩, ⟨met, framed⟩, rfl, rfl⟩

theorem consuming_one {requirement : Requirement} {results : List ValueType}
    {instruction : Instruction}
    (succeeds : Effect.consuming graph name [requirement] results instruction before =
      .ok (after, code)) :
    ∃ locals stack operand, requirement.accepts graph operand = true ∧
      before = ⟨locals, operand :: stack⟩ ∧ after = ⟨locals, results.reverse ++ stack⟩ ∧
      code = [instruction] := by
  obtain ⟨operands, stack, met, framed, rest⟩ := consuming_eq_ok.mp succeeds
  cases met with
  | cons accepted none =>
      cases none
      exact ⟨before.locals, stack, _, accepted, framed, rest⟩

theorem consuming_two {lowerRequirement upperRequirement : Requirement}
    {results : List ValueType} {instruction : Instruction}
    (succeeds : Effect.consuming graph name [lowerRequirement, upperRequirement] results
      instruction before = .ok (after, code)) :
    ∃ locals stack lower upper, lowerRequirement.accepts graph lower = true ∧
      upperRequirement.accepts graph upper = true ∧
      before = ⟨locals, upper :: lower :: stack⟩ ∧
      after = ⟨locals, results.reverse ++ stack⟩ ∧ code = [instruction] := by
  obtain ⟨operands, stack, met, framed, rest⟩ := consuming_eq_ok.mp succeeds
  cases met with
  | cons lowerAccepted met =>
      cases met with
      | cons upperAccepted none =>
          cases none
          exact ⟨before.locals, stack, _, _, lowerAccepted, upperAccepted, framed, rest⟩

/-- All operands of a numeric operation have one of the kinds that the operation is for. -/
theorem numeric_success {count : Nat} {kinds : List NumericKind} {allowBoolean : Bool}
    {select : NumericKind → Instruction}
    (succeeds : Effect.numeric name count kinds allowBoolean select before =
      .ok (after, code)) :
    ∃ (locals stack operands : List ValueType) (kind : NumericKind),
      operands.length = count ∧ kind ∈ kinds ∧
      (∀ operand ∈ operands, NumericKind.of? allowBoolean operand = some kind) ∧
      before = ⟨locals, operands.reverse ++ stack⟩ ∧
      after = ⟨locals, kind.valueType :: stack⟩ ∧ code = [select kind] := by
  simp only [Effect.numeric, bind_eq_ok, Frame.topOperands_eq_ok] at succeeds
  obtain ⟨operands, ⟨counted, split⟩, chosen⟩ := succeeds
  cases common : Effect.commonKind? allowBoolean kinds operands with
  | none =>
      rw [common] at chosen
      cases chosen
  | some kind =>
      rw [common] at chosen
      simp only [Except.ok.injEq, Prod.mk.injEq] at chosen
      obtain ⟨rfl, rfl⟩ := chosen
      have member : kind ∈ kinds := List.mem_of_find?_eq_some common
      have shared := List.find?_some common
      simp only [List.all_eq_true, beq_iff_eq] at shared
      refine ⟨before.locals, before.stack.drop count, operands, kind, counted, member, shared,
        ?_, rfl, rfl⟩
      rw [← split]

theorem performs_arithmetic {op : ArithmeticOp}
    (succeeds : Effect.arithmetic name op before = .ok (after, code)) :
    Performs graph routine offset (.arithmetic op) before after code := by
  obtain ⟨locals, stack, operands, kind, counted, -, shared, rfl, rfl, rfl⟩ :=
    numeric_success succeeds
  obtain ⟨lower, upper, rfl⟩ := List.length_eq_two.mp counted
  exact .arithmetic op (shared lower (by simp)) (shared upper (by simp))

theorem performs_negate (succeeds : Effect.negate name before = .ok (after, code)) :
    Performs graph routine offset .negate before after code := by
  obtain ⟨locals, stack, operands, kind, counted, -, shared, rfl, rfl, rfl⟩ :=
    numeric_success succeeds
  obtain ⟨value, rfl⟩ := List.length_eq_one_iff.mp counted
  exact .negate (shared value (by simp))

theorem performs_bitwise {op : BitwiseOp}
    (succeeds : Effect.bitwise name op before = .ok (after, code)) :
    Performs graph routine offset (.bitwise op) before after code := by
  obtain ⟨locals, stack, operands, kind, counted, member, shared, rfl, rfl, rfl⟩ :=
    numeric_success succeeds
  obtain ⟨lower, upper, rfl⟩ := List.length_eq_two.mp counted
  have lowerKind := shared lower (by simp)
  have upperKind := shared upper (by simp)
  simp only [NumericKind.integral, List.mem_cons, List.not_mem_nil, or_false] at member
  rcases member with rfl | rfl
  · exact .bitwise op .int lowerKind upperKind
  · exact .bitwise op .long lowerKind upperKind

theorem performs_shift {direction : Shift}
    (succeeds : Effect.shift name direction before = .ok (after, code)) :
    Performs graph routine offset (.shift direction) before after code := by
  simp only [Effect.shift, bind_eq_ok, Prod.exists, Frame.pop2_eq_ok] at succeeds
  obtain ⟨value, distance, rest, rfl, chosen⟩ := succeeds
  split at chosen
  · rename_i valueKind distanceKind
    cases chosen
    exact .shift direction .int valueKind distanceKind
  · rename_i valueKind distanceKind
    cases chosen
    exact .shift direction .long valueKind distanceKind
  · cases chosen

theorem performs_compare {nanIsGreater : Bool}
    (succeeds : Effect.compare name (if nanIsGreater then .greater else .less) before =
      .ok (after, code)) :
    Performs graph routine offset (.compare nanIsGreater) before after code := by
  simp only [Effect.compare, bind_eq_ok, Prod.exists, Frame.pop2_eq_ok] at succeeds
  obtain ⟨lower, upper, rest, rfl, chosen⟩ := succeeds
  -- The upper value selects the instruction, and the lower one has to be of the same kind.
  split at chosen
  · split at chosen
    · rename_i same
      cases chosen
      rw [same]
      exact .compareLong nanIsGreater
    · cases chosen
  · split at chosen
    · rename_i same
      cases chosen
      rw [same]
      exact .compareFloat nanIsGreater
    · cases chosen
  · split at chosen
    · rename_i same
      cases chosen
      rw [same]
      exact .compareDouble nanIsGreater
    · cases chosen
  · cases chosen

theorem performs_convert {target : Primitive}
    (succeeds : Effect.convert name target before = .ok (after, code)) :
    Performs graph routine offset (.convert target) before after code := by
  simp only [Effect.convert, bind_eq_ok, Prod.exists, Frame.pop1_eq_ok] at succeeds
  obtain ⟨value, rest, rfl, chosen⟩ := succeeds
  split at chosen
  · rename_i valueKind notBoolean
    cases chosen
    exact .convert valueKind (of_decide_eq_false notBoolean)
  · cases chosen

theorem performs_swap (succeeds : Effect.swap graph name before = .ok (after, code)) :
    Performs graph routine offset .swap before after code := by
  simp only [Effect.swap, bind_eq_ok, Prod.exists, Frame.pop2_eq_ok] at succeeds
  obtain ⟨lower, upper, rest, rfl, chosen⟩ := succeeds
  split at chosen
  · rename_i satisfied
    cases chosen
    exact .swap ((Frame.satisfies_iff rfl).mp satisfied)
  · cases chosen

theorem performs_pop (succeeds : Effect.pop name before = .ok (after, code)) :
    Performs graph routine offset .pop before after code := by
  simp only [Effect.pop, bind_eq_ok, Prod.exists, Frame.pop1_eq_ok] at succeeds
  obtain ⟨value, rest, rfl, chosen⟩ := succeeds
  cases chosen
  exact .pop value

theorem performs_dup (succeeds : Effect.dup name before = .ok (after, code)) :
    Performs graph routine offset .dup before after code := by
  simp only [Effect.dup, bind_eq_ok, Prod.exists, Frame.pop1_eq_ok] at succeeds
  obtain ⟨value, rest, rfl, chosen⟩ := succeeds
  cases chosen
  exact .dup value

theorem performs_dupUnder (succeeds : Effect.dupUnder name before = .ok (after, code)) :
    Performs graph routine offset .dupUnder before after code := by
  simp only [Effect.dupUnder, bind_eq_ok, Prod.exists, Frame.pop2_eq_ok] at succeeds
  obtain ⟨lower, upper, rest, rfl, chosen⟩ := succeeds
  cases chosen
  exact .dupUnder lower upper

/-! ### Locals -/

theorem performs_load {operation : Operation} {slot : Nat}
    (reads : operation.loadSlot? routine offset = some slot)
    (succeeds : Effect.loadSlot name slot before = .ok (after, code)) :
    Performs graph routine offset operation before after code := by
  obtain ⟨value, held, usable, inRange, rfl, rfl⟩ := Effect.loadSlot_eq_ok.mp succeeds
  exact .load reads held usable inRange

theorem performs_storeLocal (succeeds : Effect.storeNew graph name before = .ok (after, code)) :
    Performs graph routine offset .storeLocal before after code := by
  simp only [Effect.storeNew, bind_eq_ok, Prod.exists, Frame.pop1_eq_ok] at succeeds
  obtain ⟨value, rest, rfl, chosen⟩ := succeeds
  split at chosen
  · rename_i accepted
    simp only [bind_eq_ok, Effect.slotIndex_eq_ok] at chosen
    obtain ⟨index, ⟨inRange, rfl⟩, stored⟩ := chosen
    simp only [Except.ok.injEq, Prod.mk.injEq, Frame.pushLocal, Frame.pushLocals,
      List.flatMap_cons, List.flatMap_nil, List.append_nil] at stored
    obtain ⟨rfl, rfl⟩ := stored
    have usable : value ≠ .top := by simpa [Requirement.accepts] using accepted
    exact .storeLocal usable inRange
  · cases chosen

theorem performs_storeLocalAt {index : UInt64} {slot : Nat}
    (leads : relativeSlot offset index = .ok slot)
    (succeeds : Effect.storeSlot graph name slot before = .ok (after, code)) :
    Performs graph routine offset (.storeLocalAt index) before after code := by
  obtain ⟨value, found, held, usable, fits, inRange, rfl, rfl⟩ :=
    Effect.storeSlot_eq_ok.mp succeeds
  exact .storeLocalAt leads held usable fits inRange

theorem performs_increment {index : UInt64} {slot : Nat} {delta : Int16}
    (leads : relativeSlot offset index = .ok slot)
    (succeeds : Effect.incrementSlot name slot delta before = .ok (after, code)) :
    Performs graph routine offset (.increment index delta) before after code := by
  obtain ⟨kind, held, inRange, rfl, rfl⟩ := Effect.incrementSlot_eq_ok.mp succeeds
  exact .increment delta leads held inRange

theorem performs_killLocal (succeeds : Effect.killLast name before = .ok (after, code)) :
    Performs graph routine offset .killLocal before after code := by
  simp only [Effect.killLast] at succeeds
  split at succeeds
  · rename_i popped
    cases succeeds
    exact .killLocal popped
  · cases succeeds

/-! ### Fields, arrays and objects -/

theorem performs_getField {operation : Operation} {field : Field}
    (reads : operation.readField? graph routine = some field)
    (succeeds : Effect.getField graph name field before = .ok (after, code)) :
    Performs graph routine offset operation before after code := by
  unfold Effect.getField at succeeds
  split at succeeds
  · rename_i isStatic
    cases succeeds
    exact .getStatic reads isStatic
  · rename_i notStatic
    obtain ⟨locals, stack, object, fits, rfl, rfl, rfl⟩ := consuming_one succeeds
    exact .getField reads (by simpa using notStatic) fits

theorem performs_putField {operation : Operation} {field : Field}
    (writes : operation.writtenField? graph routine = some field)
    (succeeds : Effect.putField graph name field before = .ok (after, code)) :
    Performs graph routine offset operation before after code := by
  unfold Effect.putField at succeeds
  split at succeeds
  · rename_i isStatic
    obtain ⟨locals, stack, value, fits, rfl, rfl, rfl⟩ := consuming_one succeeds
    exact .putStatic writes isStatic fits
  · rename_i notStatic
    obtain ⟨locals, stack, object, value, objectFits, valueFits, rfl, rfl, rfl⟩ :=
      consuming_two succeeds
    exact .putField writes (by simpa using notStatic) objectFits valueFits

theorem performs_newArray {component : FieldType}
    (succeeds : Effect.newArray graph name component before = .ok (after, code)) :
    Performs graph routine offset (.newArray component) before after code := by
  have made : Effect.newArray graph name component =
      Effect.consuming graph name [.intNumeric] [.reference (.array component)]
        (makeArray component) := by
    cases component <;> rfl
  rw [made] at succeeds
  obtain ⟨locals, stack, length, accepted, rfl, rfl, rfl⟩ := consuming_one succeeds
  cases length with
  | int kind => exact .newArray component
  | _ => cases accepted

theorem performs_arrayLoad (succeeds : Effect.arrayLoad name before = .ok (after, code)) :
    Performs graph routine offset .arrayLoad before after code := by
  simp only [Effect.arrayLoad, bind_eq_ok, Prod.exists, Frame.pop2_eq_ok] at succeeds
  obtain ⟨array, index, rest, rfl, chosen⟩ := succeeds
  split at chosen
  · rename_i elements intLike
    cases chosen
    cases array with
    | reference type =>
        cases index with
        | int kind => exact .arrayLoad elements
        | _ => cases intLike
    | _ => cases elements
  · cases chosen

theorem performs_arrayStore (succeeds : Effect.arrayStore graph name before = .ok (after, code)) :
    Performs graph routine offset .arrayStore before after code := by
  simp only [Effect.arrayStore, bind_eq_ok, Prod.exists, Frame.pop3_eq_ok] at succeeds
  obtain ⟨array, index, value, rest, rfl, chosen⟩ := succeeds
  split at chosen
  · cases chosen
  · rename_i component elements
    split at chosen
    · rename_i satisfied
      cases chosen
      simp only [Frame.satisfies, List.zip_cons_cons, List.zip_nil_right, List.all_cons,
        List.all_nil, Bool.and_true, Bool.and_eq_true] at satisfied
      obtain ⟨-, intLike, fits⟩ := satisfied
      cases array with
      | reference type =>
          cases index with
          | int kind => exact .arrayStore elements fits
          | _ => cases intLike
      | _ => cases elements
    · cases chosen

theorem performs_arrayLength
    (succeeds : Effect.arrayLength graph name before = .ok (after, code)) :
    Performs graph routine offset .arrayLength before after code := by
  obtain ⟨locals, stack, array, isArray, rfl, rfl, rfl⟩ := consuming_one succeeds
  cases array with
  | reference type => exact .arrayLength isArray
  | _ => cases isArray

theorem performs_cast {target : RefType} {unchecked : Bool}
    (succeeds : Effect.cast graph name target unchecked before = .ok (after, code)) :
    Performs graph routine offset (.cast target unchecked) before after code := by
  obtain ⟨locals, stack, value, accepted, rfl, rfl, rfl⟩ := consuming_one succeeds
  cases value with
  | reference type =>
      apply Performs.cast
      cases unchecked with
      | true => exact Or.inl rfl
      | false => exact Or.inr accepted
  | _ => cases unchecked <;> cases accepted

theorem performs_instanceOf {target : RefType}
    (succeeds : Effect.instanceOf graph name target before = .ok (after, code)) :
    Performs graph routine offset (.instanceOf target) before after code := by
  obtain ⟨locals, stack, value, accepted, rfl, rfl, rfl⟩ := consuming_one succeeds
  cases value with
  | reference type => exact .instanceOf target
  | _ => cases accepted

theorem performs_box (succeeds : Effect.box name before = .ok (after, code)) :
    Performs graph routine offset .box before after code := by
  simp only [Effect.box, bind_eq_ok, Prod.exists, Frame.pop1_eq_ok] at succeeds
  obtain ⟨value, rest, rfl, chosen⟩ := succeeds
  split at chosen
  · rename_i boxed
    cases chosen
    exact .box boxed
  · cases chosen

/-- A value with a boxing is an object of the box class of that primitive type. -/
theorem boxingOf_eq_some {value : ValueType} {boxing : Boxing}
    (boxed : Effect.boxingOf? value = some boxing) :
    ∃ primitive : Primitive, value = .object primitive.boxName ∧ boxing = primitive.boxing := by
  unfold Effect.boxingOf? at boxed
  split at boxed
  · simp only [Boxing.ofBox?, Option.map_eq_some_iff] at boxed
    obtain ⟨primitive, found, rfl⟩ := boxed
    have named := List.find?_some found
    rw [beq_iff_eq] at named
    exact ⟨primitive, by rw [named, ValueType.object], rfl⟩
  · cases boxed

theorem performs_unbox (succeeds : Effect.unbox name before = .ok (after, code)) :
    Performs graph routine offset .unbox before after code := by
  simp only [Effect.unbox, bind_eq_ok, Prod.exists, Frame.pop1_eq_ok] at succeeds
  obtain ⟨value, rest, rfl, chosen⟩ := succeeds
  split at chosen
  · rename_i boxed
    cases chosen
    obtain ⟨primitive, rfl, rfl⟩ := boxingOf_eq_some boxed
    exact .unbox primitive
  · cases chosen

/-! ### Calls and lambdas -/

theorem performs_invokeAs {operation : Operation} {method : Method} {receiver : ClassName}
    {kind : InvokeKind} (invokes : Invokes graph operation method receiver kind)
    (succeeds : Effect.invokeAs graph name method receiver kind before = .ok (after, code)) :
    Performs graph routine offset operation before after code := by
  obtain ⟨operands, stack, met, framed, rfl, rfl⟩ := consuming_eq_ok.mp succeeds
  have single : ∀ result : Option ValueType, result.toList.reverse = result.toList := by
    intro result
    cases result <;> rfl
  rw [framed, single]
  exact .invoke invokes met

theorem performs_bindLambda {operation : Operation} {requirements : List Requirement}
    {functional : Method} {interface : ClassName} {handle : Constant}
    (captures : Captures graph operation requirements functional interface handle)
    (succeeds : Effect.bindLambda graph name requirements functional interface handle before =
      .ok (after, code)) :
    Performs graph routine offset operation before after code := by
  simp only [Effect.bindLambda, bind_eq_ok, Prod.exists, Frame.take_eq_ok] at succeeds
  obtain ⟨operands, rest, ⟨met, rfl⟩, chosen⟩ := succeeds
  cases chosen
  exact .capture captures met

theorem functionalMethod_eq_ok {interface : ClassName} {functional : Method} :
    Effect.functionalMethod graph interface = .ok functional ↔
      graph.functionalMethod? interface = some functional := by
  unfold Effect.functionalMethod
  split
  · rename_i found
    rw [found]
    simp
  · rename_i missing
    rw [missing]
    simp

theorem performs_lambda {method : Method} {interface : ClassName} {effect : Effect}
    (planned : Effect.lambda graph name method interface = .ok effect)
    (succeeds : effect before = .ok (after, code)) :
    Performs graph routine offset (.lambda method interface) before after code := by
  simp only [Effect.lambda, bind_eq_ok, functionalMethod_eq_ok] at planned
  obtain ⟨functional, found, chosen⟩ := planned
  by_cases few : method.type.parameters.length + (if method.isStatic then 0 else 1) <
      functional.type.parameters.length
  · rw [if_pos few] at chosen
    cases chosen
  · rw [if_neg few] at chosen
    cases chosen
    exact performs_bindLambda (.method _ found (by omega)) succeeds

theorem performs_lambdaField {field : Field} {interface : ClassName} {effect : Effect}
    (planned : Effect.lambdaField graph name field interface = .ok effect)
    (succeeds : effect before = .ok (after, code)) :
    Performs graph routine offset (.lambdaField field interface) before after code := by
  simp only [Effect.lambdaField, bind_eq_ok, functionalMethod_eq_ok] at planned
  obtain ⟨functional, found, chosen⟩ := planned
  split at chosen
  · cases chosen
  · rename_i accessor
    cases chosen
    exact performs_bindLambda (.field found accessor) succeeds

theorem performs_throwValue
    (succeeds : Effect.throwValue graph name before = .ok (after, code)) :
    Performs graph routine offset .throwValue before after code := by
  obtain ⟨locals, stack, value, fits, rfl, rfl, rfl⟩ := consuming_one succeeds
  exact .throwValue fits

theorem performs_returnValue
    (succeeds : Effect.returnValue graph name routine.type.result before = .ok (after, code)) :
    Performs graph routine offset .returnValue before after code := by
  cases result : routine.type.result with
  | none =>
      rw [result] at succeeds
      cases succeeds
      exact .returnVoid result
  | some type =>
      rw [result] at succeeds
      obtain ⟨locals, stack, value, fits, rfl, rfl, rfl⟩ := consuming_one succeeds
      exact .returnValue result fits

/-- An operation that is planned and then succeeds does what one of the rules says. -/
theorem performs_of_plan {operation : Operation} {effect : Effect}
    (planned : operation.plan graph routine offset = .ok effect)
    (succeeds : effect before = .ok (after, code)) :
    Performs graph routine offset operation before after code := by
  cases operation with
  | arithmetic op => cases planned; exact performs_arithmetic succeeds
  | negate => cases planned; exact performs_negate succeeds
  | bitwise op => cases planned; exact performs_bitwise succeeds
  | shift direction => cases planned; exact performs_shift succeeds
  | compare nanIsGreater => cases planned; exact performs_compare succeeds
  | convert target => cases planned; exact performs_convert succeeds
  | swap => cases planned; exact performs_swap succeeds
  | pop => cases planned; exact performs_pop succeeds
  | dup => cases planned; exact performs_dup succeeds
  | dupUnder => cases planned; exact performs_dupUnder succeeds
  | loadThis =>
      simp only [plan] at planned
      split at planned
      · cases planned
      · rename_i notStatic
        cases planned
        exact performs_load (by simp [loadSlot?, notStatic]) succeeds
  | loadParameter index =>
      simp only [plan] at planned
      split at planned
      · cases planned
      · rename_i declared
        cases planned
        exact performs_load (by simp [loadSlot?, Nat.lt_of_not_le declared]) succeeds
  | loadLocal index =>
      simp only [plan, bind_eq_ok] at planned
      obtain ⟨slot, leads, rest⟩ := planned
      cases rest
      exact performs_load (by rw [loadSlot?, leads]; rfl) succeeds
  | storeLocal => cases planned; exact performs_storeLocal succeeds
  | storeLocalAt index =>
      simp only [plan, bind_eq_ok] at planned
      obtain ⟨slot, leads, rest⟩ := planned
      cases rest
      exact performs_storeLocalAt leads succeeds
  | increment index delta =>
      simp only [plan, bind_eq_ok] at planned
      obtain ⟨slot, leads, rest⟩ := planned
      cases rest
      exact performs_increment leads succeeds
  | killLocal => cases planned; exact performs_killLocal succeeds
  | getField field => cases planned; exact performs_getField rfl succeeds
  | putField field => cases planned; exact performs_putField rfl succeeds
  | getOwnField fieldName =>
      simp only [plan, ownField, bind_eq_ok] at planned
      obtain ⟨field, found, rest⟩ := planned
      split at found
      · rename_i inherited
        cases found
        cases rest
        exact performs_getField inherited succeeds
      · cases found
  | putOwnField fieldName =>
      simp only [plan, ownField, bind_eq_ok] at planned
      obtain ⟨field, found, rest⟩ := planned
      split at found
      · rename_i inherited
        cases found
        cases rest
        exact performs_putField inherited succeeds
      · cases found
  | newArray component => cases planned; exact performs_newArray succeeds
  | arrayLoad => cases planned; exact performs_arrayLoad succeeds
  | arrayStore => cases planned; exact performs_arrayStore succeeds
  | arrayLength => cases planned; exact performs_arrayLength succeeds
  | newObject className => cases planned; cases succeeds; exact .newObject className
  | cast target unchecked => cases planned; exact performs_cast succeeds
  | instanceOf target => cases planned; exact performs_instanceOf succeeds
  | box => cases planned; exact performs_box succeeds
  | unbox => cases planned; exact performs_unbox succeeds
  | invoke method =>
      simp only [plan, Effect.invoke, bind_eq_ok] at planned
      obtain ⟨kind, chosen, rest⟩ := planned
      cases rest
      exact performs_invokeAs (.declared chosen) succeeds
  | invokeOn method target =>
      cases planned
      exact performs_invokeAs (.on method target) succeeds
  | lambda method interface => exact performs_lambda planned succeeds
  | lambdaField field interface => exact performs_lambdaField planned succeeds
  | constInt value => cases planned; cases succeeds; exact .constant rfl
  | constBool value => cases planned; cases succeeds; exact .constant rfl
  | constChar value => cases planned; cases succeeds; exact .constant rfl
  | constByte value => cases planned; cases succeeds; exact .constant rfl
  | constShort value => cases planned; cases succeeds; exact .constant rfl
  | constLong value => cases planned; cases succeeds; exact .constant rfl
  | constFloat pattern => cases planned; cases succeeds; exact .constant rfl
  | constDouble pattern => cases planned; cases succeeds; exact .constant rfl
  | constString value => cases planned; cases succeeds; exact .constant rfl
  | constNull type => cases planned; cases succeeds; exact .constant rfl
  | defaultValue type => cases planned; cases succeeds; exact .constant rfl
  | throwValue => cases planned; exact performs_throwValue succeeds
  | returnValue => cases planned; exact performs_returnValue succeeds

end Success

end Operation

end TypedBytecode
