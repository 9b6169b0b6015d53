import Mathlib
import TypedBytecode.Proofs.Agreement
import TypedBytecode.Proofs.Joins

/-!
Contract: the code that calls emit follows the typing rules of the machine.

Owns:
- what operations, jumps and declarations emit, run by the rules from the tracked frame;
- the run theorem: no step of a run emits code that gets stuck, and the outcome of the code
  agrees with the frame that is tracked after it.

Does not own: the rules, agreement with a tracked frame, or the layout of locals that loads and
stores rest on.
-/

namespace TypedBytecode

/-! ## Calls -/

namespace Operation

variable {graph : ClassGraph} {operation : Operation} {method : Method} {receiver : ClassName}
  {kind : InvokeKind}

/-- An operation that invokes a method on a class of the caller's choice does so on one that
can be used as the class of the method. -/
def Targeted (graph : ClassGraph) : Operation → Prop
  | .invokeOn method target => graph.classAssignable target method.owner = true
  | _ => True

theorem Invokes.suits (invokes : Invokes graph operation method receiver kind) :
    kind.suits method = true := by
  cases invokes with
  | declared chosen =>
      unfold ClassGraph.invokeKind at chosen
      cases static : method.isStatic with
      | true =>
          rw [static, if_pos rfl] at chosen
          cases chosen
          exact static
      | false =>
          cases overridable : method.isOverridable with
          | false =>
              simp only [static, overridable, Bool.false_eq_true, ↓reduceIte,
                Bool.not_false] at chosen
              cases chosen
              simp [InvokeKind.suits, static]
          | true =>
              have named : method.isConstructor = false := by
                simp only [Method.isOverridable, Bool.and_eq_true,
                  Bool.not_eq_true'] at overridable
                exact overridable.1.2
              simp only [static, overridable, Bool.false_eq_true, ↓reduceIte,
                Bool.not_true] at chosen
              split at chosen
              · split at chosen
                · rename_i counted
                  cases chosen
                  have counts : (UInt8.ofNat (method.type.argumentWidth true)).toNat =
                      method.type.argumentWidth true :=
                    UInt8.toNat_ofNat_of_lt' counted
                  simp [InvokeKind.suits, static, named, counts]
                · cases chosen
              · cases chosen
                simp [InvokeKind.suits, static, named]
  | on =>
      cases static : method.isStatic with
      | true => simp [InvokeKind.suits, static]
      | false => simp [InvokeKind.suits, static]

/-- The class that the receiver is checked against can be used as the class of the method. -/
theorem Invokes.usable (invokes : Invokes graph operation method receiver kind)
    (targeted : operation.Targeted graph) :
    RefType.Usable graph (.object receiver) (.object method.owner) := by
  cases invokes with
  | declared => exact RefType.usable_of_assigns (RefType.assigns_self _)
  | on => exact RefType.usable_of_assigns targeted

theorem Invokes.met (invokes : Invokes graph operation method receiver kind)
    (targeted : operation.Targeted graph) {operands : List ValueType}
    (met : Requirement.Met graph (Effect.callRequirements method receiver) operands) :
    List.Forall₂ (Demand.MetBy graph) method.demands (operands.map .ofValue) := by
  have arguments : List.Forall₂ (fun requirement demand => ∀ value,
      Requirement.accepts graph requirement value = true →
        Demand.MetBy graph demand (.ofValue value))
      (method.type.parameters.map (fun parameter => .assignableTo (.ofFieldType parameter)))
      (method.type.parameters.map (fun type => .value (.ofField type))) := by
    rw [List.forall₂_map_left_iff, List.forall₂_map_right_iff, List.forall₂_same]
    intro parameter _ value accepted
    exact Demand.metBy_of_assignable accepted
  apply Demand.met_of_requirements met
  unfold Effect.callRequirements Method.demands
  cases static : method.isStatic with
  | true => simpa using arguments
  | false =>
      refine .cons ?_ arguments
      intro value accepted
      have fits := (MachineType.fits_of_assignable accepted).usable
      exact .value (fits.trans (invokes.usable targeted))

/-- A value can be passed as what it is captured as. -/
theorem ofField_of_fieldType? {value : ValueType} (usable : value ≠ .top) :
    ∃ type, value.fieldType? = some type ∧ MachineType.ofField type = .ofValue value := by
  cases value with
  | int kind => exact ⟨.primitive kind.primitive, rfl, by cases kind <;> rfl⟩
  | long => exact ⟨.primitive .long, rfl, rfl⟩
  | float => exact ⟨.primitive .float, rfl, rfl⟩
  | double => exact ⟨.primitive .double, rfl, rfl⟩
  | reference type => exact ⟨.reference type, rfl, rfl⟩
  | top => exact absurd rfl usable

theorem met_of_captured {operands : List ValueType} (usable : .top ∉ operands) :
    List.Forall₂ (Demand.MetBy graph)
      ((operands.filterMap ValueType.fieldType?).map (fun type => .value (.ofField type)))
      (operands.map .ofValue) := by
  induction operands with
  | nil => exact .nil
  | cons value operands inductionHypothesis =>
      simp only [List.mem_cons, not_or] at usable
      obtain ⟨type, captured, same⟩ := ofField_of_fieldType? (Ne.symm usable.1)
      rw [List.filterMap_cons_some captured]
      have met : Demand.MetBy graph (.value (.ofField type)) (.ofValue value) := by
        rw [same]
        exact Demand.metBy_self value
      exact .cons met (inductionHypothesis usable.2)

end Operation

/-! ## Operations -/

theorem ElementKind.accesses_ofComponent (component : FieldType) :
    (ElementKind.ofComponent component).accesses component = true := by
  rcases component with primitive | reference
  · cases primitive <;> rfl
  · rfl

namespace Operation

theorem ofField_of_primitive? {value : ValueType} {primitive : Primitive}
    (boxed : value.primitive? = some primitive) :
    MachineType.ofField (.primitive primitive) = .ofValue value := by
  cases value with
  | int kind =>
      cases boxed
      cases kind <;> rfl
  | long | float | double =>
      cases boxed
      rfl
  | reference | top => cases boxed

theorem signature?_of_suits (result : Option FieldType) {method : Method} {kind : InvokeKind}
    (suits : kind.suits method = true) :
    Instruction.signature? result (.invoke kind method) =
      some ⟨method.demands, method.type.results⟩ :=
  if_pos suits

theorem signature?_valueOf {result : Option FieldType} (primitive : Primitive) :
    Instruction.signature? result (.invoke .static primitive.valueOf) =
      some ⟨[.value (.ofField (.primitive primitive))], [.object primitive.boxName]⟩ := by
  have static : primitive.valueOf.isStatic = true := by
    show (MethodFlags.publicBit ||| .staticBit).contains .staticBit = true
    decide
  have suits : InvokeKind.suits primitive.valueOf .static = true := static
  have demands : primitive.valueOf.demands = [.value (.ofField (.primitive primitive))] := by
    rw [Method.demands, if_pos static]
    rfl
  rw [signature?_of_suits result suits, demands]
  rfl

theorem signature?_unbox {result : Option FieldType} (primitive : Primitive) :
    Instruction.signature? result (.invoke .virtual primitive.unbox) =
      some ⟨[.value (.object primitive.boxName)], [.ofField (.primitive primitive)]⟩ := by
  have notStatic : primitive.unbox.isStatic = false := by
    show MethodFlags.contains .publicBit .staticBit = false
    decide
  have named : primitive.unbox.isConstructor = false := by
    cases primitive <;> decide
  have suits : InvokeKind.suits primitive.unbox .virtual = true := by
    rw [InvokeKind.suits, notStatic, named]
    rfl
  have demands : primitive.unbox.demands = [.value (.object primitive.boxName)] := by
    rw [Method.demands, if_neg (by simp [notStatic])]
    rfl
  rw [signature?_of_suits result suits, demands]
  rfl

theorem dropped?_of_width (value : ValueType) :
    (if value.isWide then Instruction.pop2 else .pop).dropped? = some value.width := by
  unfold ValueType.width
  split <;> rfl

theorem copied?_of_width (value : ValueType) :
    (if value.isWide then Instruction.dup2 else .dup).copied? = some (value.width, 0) := by
  unfold ValueType.width
  split <;> rfl

theorem copied?_copyBeneath (upper lower : ValueType) :
    (copyBeneath upper lower).copied? = some (upper.width, lower.width) := by
  unfold copyBeneath ValueType.width
  cases upper.isWide <;> cases lower.isWide <;> rfl

/-- What an operation emits is sound, as long as there is room for its locals. -/
theorem Performs.sound {graph : ClassGraph} {routine : Method} {offset size : Nat}
    {operation : Operation} {before after : Frame} {code : Code}
    (performed : operation.Performs graph routine offset before after code)
    (laid : before.Laid) (targeted : operation.Targeted graph)
    (large : after.locals.length ≤ size) :
    code.Sound graph routine.type.result size before after := by
  have usable : ∀ value ∈ before.stack, value ≠ .top := by
    rintro value member rfl
    exact laid.stack_values member
  cases performed with
  | @arithmetic _ _ lower upper kind op lowerKind upperKind =>
      exact .replaces [lower, upper] [kind.valueType] rfl
        (.cons (Demand.metBy_of_number lowerKind) (.cons (Demand.metBy_of_number upperKind) .nil))
  | @negate _ _ value kind valueKind =>
      exact .replaces [value] [kind.valueType] rfl
        (.cons (Demand.metBy_of_number valueKind) .nil)
  | @bitwise _ _ lower upper op kind lowerKind upperKind =>
      exact .replaces [lower, upper] [kind.numeric.valueType] rfl
        (.cons (Demand.metBy_of_number lowerKind) (.cons (Demand.metBy_of_number upperKind) .nil))
  | @shift _ _ value distance direction kind valueKind distanceKind =>
      exact .replaces [value, distance] [kind.numeric.valueType] rfl
        (.cons (Demand.metBy_of_number valueKind)
          (.cons (Demand.metBy_of_number distanceKind) .nil))
  | compareLong =>
      exact .replaces [.long, .long] [.int .int] rfl
        (.cons (Demand.metBy_self .long) (.cons (Demand.metBy_self .long) .nil))
  | compareFloat =>
      exact .replaces [.float, .float] [.int .int] rfl
        (.cons (Demand.metBy_self .float) (.cons (Demand.metBy_self .float) .nil))
  | compareDouble =>
      exact .replaces [.double, .double] [.int .int] rfl
        (.cons (Demand.metBy_self .double) (.cons (Demand.metBy_self .double) .nil))
  | convert valueKind notBoolean => exact .convert valueKind notBoolean
  | swap narrow =>
      cases narrow with
      | cons lowerNarrow narrow =>
          cases narrow with
          | cons upperNarrow narrow =>
              exact .swap (MachineType.isBlock_of_category1 lowerNarrow)
                (MachineType.isBlock_of_category1 upperNarrow)
  | pop value =>
      have drops := dropped?_of_width value
      exact .drop (usable value (by simp)) drops
  | dup value =>
      have block := MachineType.isBlock_ofValue (usable value (by simp))
      exact .copy [value] [] (copied?_of_width value) block MachineType.isBlock_nil
  | dupUnder lower upper =>
      have upperBlock := MachineType.isBlock_ofValue (usable upper (by simp))
      have lowerBlock := MachineType.isBlock_ofValue (usable lower (by simp))
      exact .copy [upper] [lower] (copied?_copyBeneath upper lower) upperBlock lowerBlock
  | load reads held notTop inRange => exact .load laid.wellLaid held notTop inRange
  | storeLocal notTop inRange => exact .storeLast laid.wellLaid notTop inRange large
  | storeLocalAt leads held notTop fits inRange =>
      exact .storeAt laid.wellLaid held notTop fits inRange
  | increment delta leads held inRange => exact .increment delta held inRange
  | killLocal popped =>
      obtain ⟨kept, sameStack⟩ := Frame.kept_of_popLocal? popped
      exact .nil kept sameStack
  | @getStatic _ _ _ field reads isStatic =>
      exact .replaces [] [.ofFieldType field.type] (if_pos isStatic) .nil
  | @getField _ _ _ field object reads isStatic fits =>
      exact .replaces [object] [.ofFieldType field.type] (if_neg (by simp [isStatic]))
        (.cons (Demand.metBy_of_assignable fits) .nil)
  | @putStatic _ _ _ field value writes isStatic fits =>
      exact .replaces [value] [] (if_pos isStatic) (.cons (Demand.metBy_of_assignable fits) .nil)
  | @putField _ _ _ field object value writes isStatic objectFits valueFits =>
      exact .replaces [object, value] [] (if_neg (by simp [isStatic]))
        (.cons (Demand.metBy_of_assignable objectFits)
          (.cons (Demand.metBy_of_assignable valueFits) .nil))
  | @newArray _ _ kind component =>
      cases component with
      | primitive element =>
          exact .replaces [.int kind] [.reference (.array (.primitive element))] rfl
            (.cons (.value .int) .nil)
      | reference type =>
          exact .replaces [.int kind] [.reference (.array (.reference type))] rfl
            (.cons (.value .int) .nil)
  | @arrayLoad _ _ _ component _ elements =>
      have accessed := ElementKind.accesses_ofComponent component
      apply Code.Sound.of_stack [.ofField component] [.ofFieldType component]
      · exact .cons (.arrayLoad elements accessed) (.nil _)
      · exact .cons (MachineType.fits_self _) .nil
  | @arrayStore _ _ _ component _ _ elements fits =>
      have accessed := ElementKind.accesses_ofComponent component
      have stored := (MachineType.fits_of_assignable fits).usable
      apply Code.Sound.of_stack [] []
      · exact .cons (.arrayStore elements accessed stored) (.nil _)
      · exact .nil
  | @arrayLength _ _ type isArray =>
      exact .replaces [.reference type] [.int .int] rfl (.cons (.array isArray) .nil)
  | newObject name => exact .replaces [] [.object name] rfl .nil
  | @cast _ _ type target unchecked fits =>
      exact .replaces [.reference type] [.reference target] rfl (.cons (.reference type) .nil)
  | @instanceOf _ _ type target =>
      exact .replaces [.reference type] [.int .int] rfl (.cons (.reference type) .nil)
  | @box _ _ value primitive boxed =>
      have met : Demand.MetBy graph (.value (.ofField (.primitive primitive)))
          (.ofValue value) := by
        rw [ofField_of_primitive? boxed]
        exact Demand.metBy_self value
      exact .replaces [value] [.object primitive.boxName] (signature?_valueOf primitive)
        (.cons met .nil)
  | unbox primitive =>
      exact .replaces [.object primitive.boxName] [.ofPrimitive primitive]
        (signature?_unbox primitive)
        (.cons (Demand.metBy_self (.object primitive.boxName)) .nil)
  | @invoke _ _ operands _ method _ _ invokes met =>
      have table := signature?_of_suits routine.type.result invokes.suits
      have demanded := invokes.met targeted met
      rw [MethodType.results] at table
      cases result : method.type.result with
      | none =>
          rw [result] at table
          exact .replaces operands [] table demanded
      | some type =>
          rw [result] at table
          exact .replaces operands [.ofFieldType type] table demanded
  | @capture _ _ operands _ _ functional interface handle captures met =>
      have noTop : .top ∉ operands := by
        intro member
        exact usable .top (by simp [member]) rfl
      exact .replaces operands [.object interface] rfl (met_of_captured noTop)
  | constant chosen => exact .constant (pushes_of_constant? chosen)
  | @throwValue _ _ value fits =>
      exact .replaces [value] [] rfl (.cons (Demand.metBy_of_assignable fits) .nil)
  | returnVoid noResult =>
      rw [noResult]
      exact .replaces [] [] rfl .nil
  | @returnValue _ _ value type result fits =>
      have admitted := SlotKind.admits_ofValue (ValueType.ofFieldType_ne_top type)
      rw [result]
      exact .replaces [value] [] (if_pos admitted) (.cons (Demand.metBy_of_assignable fits) .nil)

end Operation

/-! ## Runs -/

/-- Calls whose receivers, if they are named, can be used as the class of the method. -/
def Call.Targeted (graph : ClassGraph) : Call → Prop
  | .operation performed => performed.Targeted graph
  | _ => True

/-- A jump takes what the machine takes. -/
theorem Branch.sound {graph : ClassGraph} {result : Option FieldType} {size : Nat}
    {branch : Branch} {target : Label} {operands : List ValueType} {frame : Frame}
    (met : Requirement.Met graph branch.requirements operands) :
    Code.Sound graph result size [branch.instruction target]
      ⟨frame.locals, operands.reverse ++ frame.stack⟩ frame := by
  have integer : ∀ value, Requirement.accepts graph .intLike value = true →
      Demand.MetBy graph (.value .int) (.ofValue value) := by
    intro value accepted
    cases value with
    | int kind => exact .value .int
    | _ => cases accepted
  have reference : ∀ value, Requirement.accepts graph .anyReference value = true →
      Demand.MetBy graph .anyReference (.ofValue value) := by
    intro value accepted
    cases value with
    | reference type => exact .reference type
    | _ => cases accepted
  cases branch with
  | goto => exact .replaces operands [] rfl (Demand.met_of_requirements met .nil)
  | ifZero =>
      exact .replaces operands [] rfl (Demand.met_of_requirements met (.cons integer .nil))
  | ifInt =>
      exact .replaces operands [] rfl
        (Demand.met_of_requirements met (.cons integer (.cons integer .nil)))
  | ifReference =>
      exact .replaces operands [] rfl
        (Demand.met_of_requirements met (.cons reference (.cons reference .nil)))
  | ifNull =>
      exact .replaces operands [] rfl (Demand.met_of_requirements met (.cons reference .nil))

namespace Step

/-- The instructions that a step emits. -/
def code (step : Step) : Code :=
  step.emitted.filterMap Emission.instruction?

variable {step : Step}

theorem code_of_code {current : Snapshot} {frame : Frame} {code : Code}
    (reached : step.after = step.before.afterCode current frame code) : step.code = code := by
  rw [Step.code, emitted_of_code reached, List.filterMap_map]
  exact List.filterMap_some

theorem code_of_jump {current : Snapshot} {frame : Frame} {labels : LabelFrames}
    {instruction : Instruction}
    (reached : step.after = step.before.afterJump current frame labels instruction) :
    step.code = [instruction] := by
  rw [code, emitted_of_jump reached]
  rfl

theorem code_of_label {label : Label} {settled : LabelFrame}
    (reached : step.after = step.before.afterLabel label settled) : step.code = [] := by
  rw [code, emitted_of_label reached]
  rfl

theorem code_of_freshLabel (reached : step.after = step.before.freshLabel.2) :
    step.code = [] := by
  rw [code, emitted_of_freshLabel reached]
  rfl

/-- What a step emits is sound, and the builder goes on from the tracked outcome unless control
does not pass on. Where the code cannot be reached, nothing is emitted. -/
theorem sound {size : Nat} (laidOut : step.before.LaidOut)
    (made : Builder.Makes step.request.graph step.before step.request.call step.after)
    (tracked : step.request.call.isTracked = true)
    (targeted : step.request.call.Targeted step.request.graph)
    (large : step.after.maxLocals ≤ size) :
    (step.before.current = none → step.code = []) ∧
      ∀ current, step.before.current = some current →
        ∃ frame, step.code.Sound step.request.graph step.before.routine.type.result size
            current.frame frame ∧
          step.after.current.map Snapshot.frame =
            if step.code.isTerminal then none else some frame := by
  generalize called : step.request.call = call at made tracked targeted
  generalize reached : step.after = after at made large
  cases made with
  | @operation operation current frame code reachable performed =>
      rw [code_of_code reached, reachable]
      refine ⟨by simp, ?_⟩
      rintro _ ⟨⟩
      have room : frame.locals.length ≤ size := by
        exact Nat.le_trans (Nat.le_max_right _ _) large
      refine ⟨frame, performed.sound (laidOut.current current reachable) targeted room, ?_⟩
      cases terminal : code.isTerminal with
      | true => simp [Builder.afterCode, terminal]
      | false => simp [Builder.afterCode, terminal]
  | splice => cases tracked
  | @jump branch source target current base frame operands labels reachable met taken =>
      rw [code_of_jump reached, reachable]
      refine ⟨by simp, ?_⟩
      rintro _ ⟨⟩
      refine ⟨frame, ?_, ?_⟩
      · rw [taken]
        exact Branch.sound met
      · cases terminal : (branch.instruction target).isTerminal with
        | true => simp [Builder.afterJump, Code.isTerminal, terminal]
        | false => simp [Builder.afterJump, Code.isTerminal, terminal]
  | declare unplaced settles =>
      rw [code_of_label reached]
      refine ⟨by simp, ?_⟩
      intro current reachable
      -- The frame made current is the one that falls in, so nothing has to be run.
      have arrives := (settles.agrees tracked).arrives
      simp only [Builder.arriving?, reachable, Option.some.injEq] at arrives
      refine ⟨current.frame, .nil (List.prefix_refl _) rfl, ?_⟩
      simp [Builder.afterLabel, Code.isTerminal, arrives]
  | freshLabel =>
      rw [code_of_freshLabel reached]
      refine ⟨by simp, ?_⟩
      intro current reachable
      refine ⟨current.frame, .nil (List.prefix_refl _) rfl, ?_⟩
      simp [Builder.freshLabel, reachable, Code.isTerminal]

end Step

namespace Builder

/-- Whatever calls are made, successful or not: the instructions of every step run by the rules
of the machine from the tracked frame before it, with one outcome. Unless control does not pass
on, the outcome agrees with the frame that is tracked after the step. Room for the locals counted
so far is enough. -/
theorem emitted_code_typed (routine : Method) (requests : List Request)
    (allowed : ∀ request ∈ requests,
      request.call.isTracked = true ∧ request.call.Targeted request.graph) :
    ∀ step ∈ (start routine).steps requests, ∀ size, step.after.maxLocals ≤ size →
      (step.before.current = none → step.code = []) ∧
        ∀ current, step.before.current = some current →
          ∃ machine,
            (∀ other, step.code.Typed step.request.graph routine.type.result
              (.ofFrame size current.frame) other ↔ other = machine) ∧
            (step.code.isTerminal = true → step.after.current = none) ∧
            (step.code.isTerminal = false → ∃ tracked, step.after.current = some tracked ∧
              machine.Fits step.request.graph tracked.frame) := by
  intro step member size large
  have keeps : ∀ request ∈ requests, request.call.KeepsLayout := by
    intro request asked
    exact Call.keepsLayout_of_isTracked (allowed request asked).1
  have laidOut := laidOut_before keeps member
  obtain ⟨front, back, rfl, reached, stepped⟩ := mem_steps member
  have sameRoutine : step.before.routine = routine := by
    rw [reached]
    exact routine_run routine front
  obtain ⟨tracked, targeted⟩ := allowed step.request (by simp)
  obtain ⟨unreached, sound⟩ :=
    Step.sound laidOut (makes_of_call stepped) tracked targeted large
  refine ⟨unreached, ?_⟩
  intro current reachable
  obtain ⟨frame, ⟨machine, typed, fits⟩, continues⟩ := sound current reachable
  rw [sameRoutine] at typed
  refine ⟨machine, ?_, ?_, ?_⟩
  · intro other
    constructor
    · exact fun otherTyped => typed.unique otherTyped
    · rintro rfl
      exact typed
  · intro terminal
    rw [if_pos terminal] at continues
    exact Option.map_eq_none_iff.mp continues
  · intro passesOn
    rw [if_neg (by simp [passesOn])] at continues
    obtain ⟨snapshot, after, same⟩ := Option.map_eq_some_iff.mp continues
    exact ⟨snapshot, after, same ▸ fits⟩

/-- Classes `A` and `B`, of which `B` is below `A`. -/
def twoClasses : ClassGraph :=
  ⟨[⟨⟨"B"⟩, some ⟨"A"⟩, [], .empty, [], []⟩, ⟨⟨"A"⟩, none, [], .empty, [], []⟩]⟩

/-- An instance method of the upper class. -/
def upperMethod : Method :=
  ⟨⟨"A"⟩, ⟨"g"⟩, ⟨[.primitive .long], some (.primitive .short)⟩, .empty⟩

/-- A static routine with a reference and a wide parameter. -/
def narrowingRoutine : Method :=
  ⟨⟨"C"⟩, ⟨"f"⟩, ⟨[.object ⟨"B"⟩, .primitive .long], some (.primitive .int)⟩, .staticBit⟩

/-- Calls that store a reference in a local of a wider type, invoke a method of the upper class
on the lower one with a copy of the wide parameter, and return that parameter narrowed in one of
two ways. A swap with the wide parameter fails, and so does what follows the first return. -/
def narrowingRequests : List Request :=
  [.operation (.constNull (.object ⟨"A"⟩)), .operation .storeLocal,
    .operation (.loadParameter 0), .operation (.storeLocalAt 0),
    .operation (.loadParameter 0), .operation (.loadParameter 1), .operation .dupUnder,
    .operation .swap, .operation (.invokeOn upperMethod ⟨"B"⟩),
    .jump (.ifZero .lt) none ⟨0⟩, .operation (.convert .byte), .operation .returnValue,
    .operation .pop, .declare ⟨0⟩ .recorded, .operation .killLocal,
    .operation (.convert .int), .operation .returnValue].map (⟨twoClasses, ·⟩)

theorem emitted_code_typed_when_narrowing :
    (∀ request ∈ narrowingRequests,
      request.call.isTracked = true ∧ request.call.Targeted request.graph) ∧
      ((start narrowingRoutine).steps narrowingRequests).flatMap Step.code =
        [.nullConst, .store .reference 3, .load .reference 0, .store .reference 3,
          .load .reference 0, .load .long 1, .dup2X1, .invoke .special upperMethod,
          .ifZero .lt ⟨0⟩, .convert .longToInt, .convert .intToByte, .returnValue .int,
          .convert .longToInt, .returnValue .int] ∧
      ∀ step ∈ (start narrowingRoutine).steps narrowingRequests, ∀ size,
        step.after.maxLocals ≤ size →
          (step.before.current = none → step.code = []) ∧
            ∀ current, step.before.current = some current →
              ∃ machine,
                (∀ other, step.code.Typed step.request.graph narrowingRoutine.type.result
                  (.ofFrame size current.frame) other ↔ other = machine) ∧
                (step.code.isTerminal = true → step.after.current = none) ∧
                (step.code.isTerminal = false → ∃ tracked, step.after.current = some tracked ∧
                  machine.Fits step.request.graph tracked.frame) := by
  have below : twoClasses.classAssignable ⟨"B"⟩ ⟨"A"⟩ = true := by cbv
  have allowed : ∀ request ∈ narrowingRequests,
      request.call.isTracked = true ∧ request.call.Targeted request.graph := by
    simp [narrowingRequests, Call.isTracked, Call.Targeted, Operation.Targeted, upperMethod,
      below]
  exact ⟨allowed, by cbv, emitted_code_typed narrowingRoutine narrowingRequests allowed⟩

end Builder

end TypedBytecode
