import TypedBytecode.Builder
import TypedBytecode.Proofs.Operation

/-!
Contract: the slots that code takes off the stack and puts on it.

Owns:
- the widths of values, against those of the types and kinds they are used as;
- the depths of the stack that code comes by, with their greatest one;
- `Code.Fills`: the code of every operation and jump takes and gives just the slots by which the
  tracked stack changes, and no instruction takes more than there is.

Two accounts are compared here: the effects of the single instructions, and the frames of typed
values.

Does not own: runs, or the sizes that are kept over them.
-/

namespace TypedBytecode

/-! ## Widths -/

namespace ValueType

@[simp] theorem width_ofPrimitive (primitive : Primitive) :
    (ofPrimitive primitive).width = primitive.width := by
  cases primitive <;> rfl

@[simp] theorem width_ofFieldType (type : FieldType) : (ofFieldType type).width = type.width := by
  cases type with
  | primitive primitive => exact width_ofPrimitive primitive
  | reference type => rfl

@[simp] theorem width_object (name : ClassName) : (object name).width = 1 := rfl

@[simp] theorem width_reference (type : RefType) : (reference type).width = 1 := rfl

@[simp] theorem width_int (kind : IntKind) : (int kind).width = 1 := rfl

@[simp] theorem width_numeric (kind : NumericKind) : kind.valueType.width = kind.width := by
  cases kind <;> rfl

theorem width_of_number {allowBoolean : Bool} {value : ValueType} {kind : NumericKind}
    (number : NumericKind.of? allowBoolean value = some kind) : value.width = kind.width := by
  unfold NumericKind.of? at number
  split at number
  · split at number <;> cases number
    rfl
  all_goals cases number
  all_goals rfl

/-- A value is as wide as whatever it can be assigned to. -/
theorem width_of_assignable {graph : ClassGraph} {found wanted : ValueType}
    (fits : found.assignable graph wanted = true) : found.width = wanted.width := by
  unfold assignable at fits
  split at fits
  all_goals first | rfl | cases fits

theorem width_of_primitive? {value : ValueType} {primitive : Primitive}
    (boxed : value.primitive? = some primitive) : value.width = primitive.width := by
  cases value with
  | int kind =>
      cases boxed
      cases kind <;> rfl
  | long | float | double =>
      cases boxed
      rfl
  | reference | top => cases boxed

theorem width_of_fieldType? {value : ValueType} {type : FieldType}
    (held : value.fieldType? = some type) : value.width = type.width := by
  cases value with
  | int kind =>
      cases held
      cases kind <;> rfl
  | long | float | double | reference =>
      cases held
      rfl
  | top => cases held

end ValueType

theorem totalWidth_reverse (values : List ValueType) :
    totalWidth ValueType.width values.reverse = totalWidth ValueType.width values := by
  induction values with
  | nil => rfl
  | cons value values inductionHypothesis =>
      simp [inductionHypothesis, Nat.add_comm]

@[simp] theorem SlotKind.width_ofValue (value : ValueType) :
    (SlotKind.ofValue value).width = value.width := by
  cases value <;> rfl

@[simp] theorem ElementKind.width_ofComponent (component : FieldType) :
    (ElementKind.ofComponent component).width = component.width := by
  rcases component with primitive | reference
  · cases primitive <;> rfl
  · rfl

/-! ## The depths that code comes by -/

/-- What a scan passes over two lists it passes over the first, or over the second from where
the first ends. -/
theorem mem_scanl_append {α β : Type} {step : β → α → β} {initial passed : β}
    {front back : List α} :
    passed ∈ (front ++ back).scanl step initial ↔
      passed ∈ front.scanl step initial ∨ passed ∈ back.scanl step (front.foldl step initial) := by
  have ends : front.foldl step initial ∈ front.scanl step initial :=
    List.mem_of_getLast? List.getLast?_scanl
  rw [List.scanl_append, List.mem_append]
  cases back with
  | nil =>
      simp only [List.scanl_nil, List.tail_cons, List.not_mem_nil, or_false, List.mem_singleton]
      constructor
      · exact Or.inl
      · rintro (before | rfl)
        · exact before
        · exact ends
  | cons item back =>
      rw [List.scanl_cons, List.tail_cons, List.mem_cons]
      constructor
      · rintro (before | behind)
        · exact Or.inl before
        · exact Or.inr (Or.inr behind)
      · rintro (before | rfl | behind)
        · exact Or.inl before
        · exact Or.inl ends
        · exact Or.inr behind

namespace Code

/-- Depths of the stack before the first instruction and after each one. -/
def depthsFrom (depth : Int) (code : Code) : List Int :=
  code.scanl (fun depth instruction => depth + instruction.stackEffect) depth

@[simp] theorem depthsFrom_nil (depth : Int) : depthsFrom depth [] = [depth] :=
  List.scanl_nil

@[simp] theorem depthsFrom_cons (depth : Int) (instruction : Instruction) (code : Code) :
    depthsFrom depth (instruction :: code) =
      depth :: depthsFrom (depth + instruction.stackEffect) code :=
  List.scanl_cons

theorem foldl_growth (depth : Int) (code : Code) :
    code.foldl (fun depth instruction => depth + instruction.stackEffect) depth =
      depth + code.growth := by
  induction code generalizing depth with
  | nil => simp [growth]
  | cons instruction code inductionHypothesis =>
      rw [List.foldl_cons, inductionHypothesis, growth, Int.add_assoc]

theorem growth_append (front back : Code) :
    growth (front ++ back) = front.growth + back.growth := by
  induction front with
  | nil => simp [growth]
  | cons instruction front inductionHypothesis =>
      rw [List.cons_append, growth, growth, inductionHypothesis, Int.add_assoc]

theorem maxGrowth_nonneg (code : Code) : 0 ≤ code.maxGrowth := by
  cases code with
  | nil => exact Int.le_refl 0
  | cons instruction code => exact Int.le_max_left _ _

/-- The largest growth is reached, -/
theorem peak_mem_depthsFrom (depth : Int) (code : Code) :
    depth + code.maxGrowth ∈ code.depthsFrom depth := by
  induction code generalizing depth with
  | nil => simp [maxGrowth]
  | cons instruction code inductionHypothesis =>
      have reached := inductionHypothesis (depth + instruction.stackEffect)
      rw [depthsFrom_cons, maxGrowth]
      by_cases grows : 0 ≤ instruction.stackEffect + maxGrowth code
      · rw [Int.max_eq_right grows, ← Int.add_assoc]
        exact List.mem_cons_of_mem depth reached
      · rw [Int.max_eq_left (by omega), Int.add_zero]
        exact List.mem_cons_self

/-- and never passed. -/
theorem le_peak_of_mem_depthsFrom {depth reached : Int} {code : Code}
    (member : reached ∈ code.depthsFrom depth) : reached ≤ depth + code.maxGrowth := by
  induction code generalizing depth with
  | nil =>
      rw [depthsFrom_nil, List.mem_singleton] at member
      simp [member, maxGrowth]
  | cons instruction code inductionHypothesis =>
      rw [depthsFrom_cons] at member
      rw [maxGrowth]
      rcases List.mem_cons.mp member with rfl | later
      · omega
      · have bounded := inductionHypothesis later
        omega

/-- Code that takes a stack of `before` slots to one of `after` slots, and never takes more than
there is. -/
structure Fills (code : Code) (before after : Nat) : Prop where
  balanced : (after : Int) = before + code.growth
  covered : ∀ depth ∈ code.depthsFrom before, 0 ≤ depth

namespace Fills

variable {instruction : Instruction} {before after : Nat} {locals newLocals stack : List ValueType}

theorem nil : Fills [] before before :=
  ⟨by simp [growth], by simp⟩

theorem single (effect : (after : Int) = before + instruction.stackEffect) :
    Fills [instruction] before after := by
  refine ⟨by simpa [growth] using effect, ?_⟩
  simp only [depthsFrom_cons, depthsFrom_nil, ← effect, List.mem_cons, List.not_mem_nil, or_false]
  omega

/-- An instruction that takes operands off the stack and puts results on it. -/
theorem replaces (operands results : List ValueType)
    (effect : instruction.stackEffect =
      (totalWidth ValueType.width results : Int) - totalWidth ValueType.width operands) :
    Fills [instruction] (Frame.stackWidth ⟨locals, operands ++ stack⟩)
      (Frame.stackWidth ⟨newLocals, results ++ stack⟩) := by
  apply single
  simp only [Frame.stackWidth, totalWidth.of_append, effect]
  omega

theorem append {front back : Code} {middle : Nat} (first : Fills front before middle)
    (second : Fills back middle after) : Fills (front ++ back) before after := by
  have reached : (before : Int) + front.growth = middle := first.balanced.symm
  constructor
  · rw [second.balanced, first.balanced, growth_append, Int.add_assoc]
  · intro depth member
    rcases mem_scanl_append.mp member with inFront | inBack
    · exact first.covered depth inFront
    · rw [foldl_growth, reached] at inBack
      exact second.covered depth inBack

theorem converts (conversion : Conversion) (rest : Nat) :
    Fills [.convert conversion] (conversion.source.width + rest)
      (conversion.target.width + rest) := by
  apply single
  simp only [Instruction.stackEffect]
  omega

theorem conversionToInt (kind : NumericKind) (rest : Nat) :
    Fills ((Effect.conversionToInt kind).map .convert) (kind.width + rest) (1 + rest) := by
  cases kind with
  | int => exact nil
  | _ => exact converts _ rest

/-- Conversions take a number to its target. Narrow kinds are reached through `int`, where the
stack can be less deep than before and after. -/
theorem conversions (kind : NumericKind) {target : Primitive} (notBoolean : target ≠ .boolean)
    (rest : Nat) : Fills ((Effect.conversions kind target).map .convert) (kind.width + rest)
      (target.width + rest) := by
  have throughInt := conversionToInt kind rest
  cases target with
  | boolean => exact absurd rfl notBoolean
  | byte =>
      have narrowed := throughInt.append (converts .intToByte rest)
      cases kind <;> exact narrowed
  | char =>
      have narrowed := throughInt.append (converts .intToChar rest)
      cases kind <;> exact narrowed
  | short =>
      have narrowed := throughInt.append (converts .intToShort rest)
      cases kind <;> exact narrowed
  | int => cases kind <;> exact throughInt
  | long =>
      cases kind with
      | long => exact nil
      | _ => exact converts _ rest
  | float =>
      cases kind with
      | float => exact nil
      | _ => exact converts _ rest
  | double =>
      cases kind with
      | double => exact nil
      | _ => exact converts _ rest

theorem pushes {value : ValueType} (pushes : instruction.Pushes value) (rest : Nat) :
    Fills [instruction] rest (value.width + rest) := by
  apply single
  have effect : instruction.stackEffect = value.width := by
    cases pushes <;> rfl
  rw [effect]
  omega

theorem constant {code : Code} {value : ValueType} (pushed : code.PushesConstant value)
    (rest : Nat) : Fills code rest (value.width + rest) := by
  cases pushed with
  | single pushed => exact pushes pushed rest
  | @converted instruction conversion pushed source target =>
      have converted := converts conversion rest
      rw [source] at converted
      rw [← target, ValueType.width_ofPrimitive]
      exact (pushes pushed rest).append converted

end Fills

end Code

/-! ## Operations and jumps -/

namespace Operation

variable {graph : ClassGraph}

theorem stackEffect_of_width (value : ValueType) :
    (if value.isWide then Instruction.pop2 else .pop).stackEffect = -(value.width : Int) ∧
      (if value.isWide then Instruction.dup2 else .dup).stackEffect = value.width := by
  unfold ValueType.width
  cases value.isWide <;> exact ⟨rfl, rfl⟩

theorem stackEffect_copyBeneath (upper lower : ValueType) :
    (copyBeneath upper lower).stackEffect = upper.width := by
  unfold copyBeneath ValueType.width
  cases upper.isWide <;> cases lower.isWide <;> rfl

/-- Operands that are taken as values of given types are as wide as these. -/
theorem totalWidth_of_met {types : List FieldType} {operands : List ValueType}
    (met : Requirement.Met graph (types.map (fun type => .assignableTo (.ofFieldType type)))
      operands) :
    totalWidth ValueType.width operands = totalWidth FieldType.width types := by
  induction types generalizing operands with
  | nil =>
      cases met
      rfl
  | cons type types inductionHypothesis =>
      cases met with
      | cons fits met =>
          have width := ValueType.width_of_assignable fits
          rw [totalWidth.of_cons, totalWidth.of_cons, inductionHypothesis met, width,
            ValueType.width_ofFieldType]

/-- A call takes as many slots as the type of its method says. -/
theorem argumentWidth_of_met {method : Method} {receiver : ClassName}
    {operands : List ValueType}
    (met : Requirement.Met graph (Effect.callRequirements method receiver) operands) :
    totalWidth ValueType.width operands = method.type.argumentWidth (!method.isStatic) := by
  unfold Effect.callRequirements at met
  cases isStatic : method.isStatic with
  | true =>
      rw [isStatic] at met
      rw [totalWidth_of_met met]
      exact (Nat.zero_add _).symm
  | false =>
      rw [isStatic] at met
      cases met with
      | cons fits met =>
          have width := ValueType.width_of_assignable fits
          rw [totalWidth.of_cons, totalWidth_of_met met, width]
          rfl

/-- A method is invoked with a receiver exactly if it is no static one. -/
theorem Invokes.stackEffect {operation : Operation} {method : Method} {receiver : ClassName}
    {kind : InvokeKind} (invokes : Invokes graph operation method receiver kind) :
    (Instruction.invoke kind method).stackEffect =
      method.type.stackEffect (!method.isStatic) := by
  cases invokes with
  | declared chosen =>
      unfold ClassGraph.invokeKind at chosen
      cases isStatic : method.isStatic with
      | true =>
          rw [isStatic, if_pos rfl] at chosen
          cases chosen
          rfl
      | false =>
          simp only [isStatic, Bool.false_eq_true, ↓reduceIte] at chosen
          split at chosen
          · cases chosen
            rfl
          · split at chosen
            · split at chosen <;> cases chosen
              rfl
            · cases chosen
              rfl
  | on => cases method.isStatic <;> rfl

/-- The value that a call gives is as wide as the type of its method says. -/
theorem resultWidth_of_results (type : MethodType) :
    totalWidth ValueType.width (type.result.map .ofFieldType).toList = type.resultWidth := by
  unfold MethodType.resultWidth
  cases type.result with
  | none => rfl
  | some result => simp

/-- No unusable value is captured. -/
theorem Captures.rejects_top {operation : Operation} {requirements : List Requirement}
    {functional : Method} {interface : ClassName} {handle : Constant}
    (captures : Captures graph operation requirements functional interface handle) :
    ∀ requirement ∈ requirements, requirement.accepts graph .top = false := by
  intro requirement member
  cases captures with
  | method captures found counted =>
      unfold Effect.captureRequirements at member
      split at member
      · split at member
        · cases member
        · rw [List.mem_singleton.mp member]
          rfl
      · obtain ⟨place, -, rfl⟩ := List.mem_map.mp member
        split <;> rfl
  | field found accessor =>
      split at member
      · cases member
      · rw [List.mem_singleton.mp member]
        rfl

/-- Every value that is taken is captured, as a value of its own type. -/
theorem captured_of_met {requirements : List Requirement} {operands : List ValueType}
    (usable : ∀ requirement ∈ requirements, requirement.accepts graph .top = false)
    (met : Requirement.Met graph requirements operands) :
    List.Forall₂ (fun operand type => operand.fieldType? = some type) operands
      (operands.filterMap ValueType.fieldType?) := by
  induction met with
  | nil => exact .nil
  | @cons requirement operand requirements operands accepted met inductionHypothesis =>
      have later := inductionHypothesis (fun requirement member =>
        usable requirement (List.mem_cons_of_mem _ member))
      cases held : operand.fieldType? with
      | some type =>
          rw [List.filterMap_cons_some held]
          exact .cons held later
      | none =>
          have unusable : operand = .top := by
            cases operand <;> first | rfl | cases held
          rw [unusable, usable requirement List.mem_cons_self] at accepted
          cases accepted

/-- What is captured is as wide as what is taken. -/
theorem width_of_captured {operands : List ValueType} {types : List FieldType}
    (captured : List.Forall₂ (fun operand type => operand.fieldType? = some type) operands types) :
    totalWidth FieldType.width types = totalWidth ValueType.width operands := by
  induction captured with
  | nil => rfl
  | cons held later inductionHypothesis =>
      rw [totalWidth.of_cons, totalWidth.of_cons, inductionHypothesis,
        ValueType.width_of_fieldType? held]

/-- The code of an operation fills the stack just as far as the tracked frame says. -/
theorem Performs.fills {routine : Method} {offset : Nat} {operation : Operation}
    {before after : Frame} {code : Code}
    (performed : operation.Performs graph routine offset before after code) :
    code.Fills before.stackWidth after.stackWidth := by
  cases performed with
  | @arithmetic _ _ lower upper kind op lowerKind upperKind =>
      apply Code.Fills.replaces [upper, lower] [kind.valueType]
      simp only [Instruction.stackEffect, totalWidth.of_cons, totalWidth.of_nil,
        ValueType.width_numeric, ValueType.width_of_number lowerKind,
        ValueType.width_of_number upperKind]
      omega
  | @negate _ _ value kind valueKind =>
      apply Code.Fills.replaces [value] [kind.valueType]
      simp [Instruction.stackEffect, ValueType.width_of_number valueKind]
  | @bitwise _ _ lower upper op kind lowerKind upperKind =>
      apply Code.Fills.replaces [upper, lower] [kind.numeric.valueType]
      simp only [Instruction.stackEffect, IntegralKind.width, totalWidth.of_cons,
        totalWidth.of_nil, ValueType.width_numeric, ValueType.width_of_number lowerKind,
        ValueType.width_of_number upperKind]
      omega
  | @shift _ _ value distance direction kind valueKind distanceKind =>
      apply Code.Fills.replaces [distance, value] [kind.numeric.valueType]
      simp only [Instruction.stackEffect, totalWidth.of_cons, totalWidth.of_nil,
        ValueType.width_numeric, ValueType.width_of_number valueKind,
        ValueType.width_of_number distanceKind, NumericKind.width]
      omega
  | compareLong => exact .replaces [.long, .long] [.int .int] rfl
  | compareFloat => exact .replaces [.float, .float] [.int .int] rfl
  | compareDouble => exact .replaces [.double, .double] [.int .int] rfl
  | @convert locals stack value kind target valueKind notBoolean =>
      have converted := Code.Fills.conversions kind notBoolean (totalWidth ValueType.width stack)
      rw [← ValueType.width_of_number valueKind, ← ValueType.width_ofPrimitive] at converted
      exact converted
  | @swap _ _ lower upper narrow =>
      apply Code.Fills.replaces [upper, lower] [lower, upper]
      simp only [Instruction.stackEffect, totalWidth.of_cons, totalWidth.of_nil]
      omega
  | pop value =>
      apply Code.Fills.replaces [value] []
      simp [(stackEffect_of_width value).1]
  | dup value =>
      apply Code.Fills.replaces [value] [value, value]
      simp [(stackEffect_of_width value).2]
  | dupUnder lower upper =>
      apply Code.Fills.replaces [upper, lower] [upper, lower, upper]
      simp only [stackEffect_copyBeneath, totalWidth.of_cons, totalWidth.of_nil]
      omega
  | @load _ _ value =>
      apply Code.Fills.replaces [] [value]
      simp [Instruction.stackEffect]
  | @storeLocal _ _ value =>
      apply Code.Fills.replaces [value] []
      simp [Instruction.stackEffect]
  | @storeLocalAt _ _ value found index slot leads held usable fits =>
      apply Code.Fills.replaces [found] []
      simp [Instruction.stackEffect, ValueType.width_of_assignable fits]
  | increment => exact .replaces [] [] rfl
  | killLocal popped =>
      rw [Frame.stackWidth, Frame.stackWidth, (Frame.kept_of_popLocal? popped).2]
      exact .nil
  | @getStatic _ _ _ field =>
      apply Code.Fills.replaces [] [.ofFieldType field.type]
      simp [Instruction.stackEffect]
  | @getField _ _ _ field object reads isStatic fits =>
      apply Code.Fills.replaces [object] [.ofFieldType field.type]
      simp [Instruction.stackEffect, ValueType.width_of_assignable fits]
  | @putStatic _ _ _ field value writes isStatic fits =>
      apply Code.Fills.replaces [value] []
      simp [Instruction.stackEffect, ValueType.width_of_assignable fits]
  | @putField _ _ _ field object value writes isStatic objectFits valueFits =>
      apply Code.Fills.replaces [value, object] []
      simp only [Instruction.stackEffect, totalWidth.of_cons, totalWidth.of_nil,
        ValueType.width_of_assignable objectFits, ValueType.width_of_assignable valueFits,
        ValueType.width_object, ValueType.width_ofFieldType]
      omega
  | @newArray _ _ kind component =>
      apply Code.Fills.replaces [.int kind] [.reference (.array component)]
      cases component <;> rfl
  | @arrayLoad _ _ type component kind elements =>
      apply Code.Fills.replaces [.int kind, .reference type] [.ofFieldType component]
      simp [Instruction.stackEffect]
  | @arrayStore _ _ type component kind value elements fits =>
      apply Code.Fills.replaces [value, .int kind, .reference type] []
      simp only [Instruction.stackEffect, totalWidth.of_cons, totalWidth.of_nil,
        ValueType.width_of_assignable fits, ValueType.width_int, ValueType.width_reference,
        ValueType.width_ofFieldType, ElementKind.width_ofComponent]
      omega
  | @arrayLength _ _ type => exact .replaces [.reference type] [.int .int] rfl
  | newObject name => exact .replaces [] [.object name] rfl
  | @cast _ _ type target => exact .replaces [.reference type] [.reference target] rfl
  | @instanceOf _ _ type target => exact .replaces [.reference type] [.int .int] rfl
  | @box _ _ value primitive boxed =>
      apply Code.Fills.replaces [value] [.object primitive.boxName]
      have effect : (Instruction.invoke .static primitive.valueOf).stackEffect =
          1 - (0 + primitive.width : Nat) := rfl
      simp [effect, ValueType.width_of_primitive? boxed]
  | unbox primitive =>
      apply Code.Fills.replaces [.object primitive.boxName] [.ofPrimitive primitive]
      rw [totalWidth.of_cons, ValueType.width_ofPrimitive]
      rfl
  | @invoke _ _ operands _ method receiver kind invokes met =>
      apply Code.Fills.replaces operands.reverse (method.type.result.map .ofFieldType).toList
      rw [invokes.stackEffect, resultWidth_of_results, totalWidth_reverse,
        argumentWidth_of_met met]
      rfl
  | @capture _ _ operands _ requirements functional interface handle captures met =>
      apply Code.Fills.replaces operands.reverse [.object interface]
      rw [totalWidth_reverse, ← width_of_captured (captured_of_met captures.rejects_top met)]
      have effect : ∀ captured, (Instruction.invokeDynamic
          (Effect.lambdaSite functional interface handle captured)).stackEffect =
            1 - (0 + totalWidth FieldType.width captured : Nat) := fun _ => rfl
      simp [effect]
  | @constant _ stack _ value code pushes =>
      exact .constant (pushes_of_constant? pushes) (totalWidth ValueType.width stack)
  | @throwValue _ _ value fits =>
      apply Code.Fills.replaces [value] []
      simp [Instruction.stackEffect, ValueType.width_of_assignable fits]
  | returnVoid => exact .single (by simp [Instruction.stackEffect])
  | @returnValue _ _ value type result fits =>
      apply Code.Fills.replaces [value] []
      simp [Instruction.stackEffect, ValueType.width_of_assignable fits]

/-- The code of an operation that control does not pass leaves the locals as they were. -/
theorem Performs.locals_of_isTerminal {routine : Method} {offset : Nat} {operation : Operation}
    {before after : Frame} {code : Code}
    (performed : operation.Performs graph routine offset before after code)
    (terminal : code.isTerminal = true) : after.locals = before.locals := by
  cases performed with
  | storeLocal | killLocal => cases terminal
  | _ => rfl

end Operation

namespace Branch

theorem width_of_operand {graph : ClassGraph} {branch : Branch} {requirement : Requirement}
    {operand : ValueType} (asked : requirement ∈ branch.requirements)
    (accepted : requirement.accepts graph operand = true) : operand.width = 1 := by
  have kinds : requirement = .intLike ∨ requirement = .anyReference := by
    cases branch <;> simp [requirements] at asked <;> simp [asked]
  rcases kinds with rfl | rfl
  all_goals cases operand <;> first | rfl | cases accepted

theorem operandWidth_of_met {graph : ClassGraph} {branch : Branch} {operands : List ValueType}
    (met : Requirement.Met graph branch.requirements operands) :
    totalWidth ValueType.width operands = branch.requirements.length := by
  have narrow : ∀ requirement ∈ branch.requirements, ∀ operand,
      requirement.accepts graph operand = true → operand.width = 1 :=
    fun _ asked _ accepted => width_of_operand asked accepted
  unfold Requirement.Met at met
  generalize branch.requirements = requirements at met narrow
  induction met with
  | nil => rfl
  | @cons requirement operand requirements operands accepted met inductionHypothesis =>
      have later := inductionHypothesis (fun requirement member =>
        narrow requirement (List.mem_cons_of_mem _ member))
      rw [totalWidth.of_cons, later, narrow requirement List.mem_cons_self operand accepted,
        List.length_cons, Nat.add_comm]

theorem stackEffect_instruction (branch : Branch) (target : Label) :
    (branch.instruction target).stackEffect = -(branch.requirements.length : Int) := by
  cases branch <;> rfl

/-- A jump takes just its operands. -/
theorem fills {graph : ClassGraph} {branch : Branch} {locals stack operands : List ValueType}
    {target : Label} (met : Requirement.Met graph branch.requirements operands) :
    Code.Fills [branch.instruction target] (Frame.stackWidth ⟨locals, operands.reverse ++ stack⟩)
      (Frame.stackWidth ⟨locals, stack⟩) := by
  apply Code.Fills.replaces operands.reverse []
  rw [stackEffect_instruction, totalWidth_reverse, operandWidth_of_met met]
  simp

end Branch

end TypedBytecode
