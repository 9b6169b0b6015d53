import TypedBytecode.Proofs.Growth
import TypedBytecode.Proofs.OneLine

/-!
Contract: routines under construction in which every name is one line.

Owns:
- frames, class graphs and operations all of whose names are one line;
- the step: an operation that succeeds pushes values and emits instructions on one line;
- `Builder.OneLine`, and that calls keep it.

Does not own: where class graphs and operations come from.
-/

namespace TypedBytecode

open Text

/-! ## Frames -/

namespace Frame

/-- All values of a frame are written on one line. -/
structure OneLine (frame : Frame) : Prop where
  locals : ∀ value ∈ frame.locals, Text.OneLine value.text
  stack : ∀ value ∈ frame.stack, Text.OneLine value.text

theorem oneLine_of_slots {value slot : ValueType} (oneLine : Text.OneLine value.text)
    (member : slot ∈ slots value) : Text.OneLine slot.text := by
  have either : slot = value ∨ slot = .top := by
    cases wide : value.isWide with
    | true => simpa [slots_of_wide wide] using member
    | false =>
        rw [slots_of_narrow wide] at member
        exact .inl (List.mem_singleton.mp member)
  rcases either with rfl | rfl
  · exact oneLine
  · decide

theorem mem_of_mem_valuesFrom {afterWide : Bool} {locals : List ValueType} {value : ValueType}
    (member : value ∈ valuesFrom afterWide locals) : value ∈ locals := by
  induction locals generalizing afterWide with
  | nil => cases member
  | cons first rest inductionHypothesis =>
      rw [valuesFrom] at member
      split at member
      · exact List.mem_cons_of_mem first (inductionHypothesis member)
      · rcases List.mem_cons.mp member with same | later
        · exact same ▸ List.mem_cons_self
        · exact List.mem_cons_of_mem first (inductionHypothesis later)

namespace OneLine

variable {frame previous rest : Frame} {locals stack values : List ValueType}

theorem ofValues (oneLine : ∀ value ∈ values, Text.OneLine value.text) :
    OneLine (ofValues values []) := by
  refine ⟨?_, List.forall_mem_nil _⟩
  intro slot member
  obtain ⟨value, listed, inSlots⟩ := List.mem_flatMap.mp member
  exact oneLine_of_slots (oneLine value listed) inSlots

/-- Operands on top of the stack give way to results. -/
theorem replace (operands results : List ValueType) (oneLine : OneLine ⟨locals, operands ++ stack⟩)
    (resultsOneLine : ∀ value ∈ results, Text.OneLine value.text) :
    OneLine ⟨locals, results ++ stack⟩ := by
  refine ⟨oneLine.locals, ?_⟩
  intro value member
  rcases List.mem_append.mp member with result | below
  · exact resultsOneLine value result
  · exact oneLine.stack value (List.mem_append_right operands below)

theorem storeLast {value : ValueType} (oneLine : OneLine ⟨locals, value :: stack⟩) :
    OneLine ⟨locals ++ slots value, stack⟩ := by
  have stored := oneLine.stack value List.mem_cons_self
  refine ⟨?_, fun other member => oneLine.stack other (List.mem_cons_of_mem value member)⟩
  intro slot member
  rcases List.mem_append.mp member with before | added
  · exact oneLine.locals slot before
  · exact oneLine_of_slots stored added

theorem popLocal {value : ValueType} (oneLine : frame.OneLine)
    (popped : frame.popLocal? = some (value, rest)) : rest.OneLine := by
  obtain ⟨shorter, sameStack⟩ := kept_of_popLocal? popped
  refine ⟨fun other member => oneLine.locals other (shorter.subset member), ?_⟩
  rw [sameStack]
  exact oneLine.stack

/-- A description lists values of the two frames only. -/
theorem diff (oneLine : frame.OneLine) (previousOneLine : previous.OneLine) :
    Text.OneLine (frame.diff previous).text := by
  have locals : ∀ value ∈ frame.localValues, Text.OneLine value.text :=
    fun value member => oneLine.locals value (mem_of_mem_valuesFrom member)
  have previousLocals : ∀ value ∈ previous.localValues, Text.OneLine value.text :=
    fun value member => previousOneLine.locals value (mem_of_mem_valuesFrom member)
  rw [FrameDelta.oneLine_text]
  have diffs := diffs_diff frame previous
  generalize frame.diff previous = delta at diffs ⊢
  intro value member
  cases diffs with
  | same equal => cases member
  | append different empty extended listed =>
      exact locals value (extended ▸ List.mem_append_right _ member)
  | chop different empty extended listed =>
      exact previousLocals value (extended ▸ List.mem_append_right _ member)
  | sameOneStack different single unchanged => exact oneLine.stack value (single ▸ member)
  | full different =>
      rcases List.mem_append.mp member with inLocals | inStack
      · exact locals value inLocals
      · exact oneLine.stack value inStack

end OneLine

end Frame

/-! ## Standard types and members -/

theorem NumericKind.oneLine_valueType (kind : NumericKind) : OneLine kind.valueType.text := by
  cases kind <;> decide

theorem Primitive.oneLine_boxName (primitive : Primitive) : OneLine primitive.boxName.text := by
  cases primitive <;> simp [boxName]

theorem Primitive.oneLine_valueOf (primitive : Primitive) : OneLine primitive.valueOf.text := by
  rw [Method.oneLine_text, MethodType.oneLine_render]
  simp [valueOf, primitive.oneLine_boxName]

theorem Primitive.oneLine_unbox (primitive : Primitive) : OneLine primitive.unbox.text := by
  rw [Method.oneLine_text, MethodType.oneLine_render]
  simp [unbox, primitive.oneLine_boxName, primitive.oneLine_keyword]

theorem Standard.oneLine_metafactory : OneLine Standard.metafactory.text := by
  rw [Method.oneLine_text, MethodType.oneLine_render]
  simp [Standard.metafactory, ClassName.lambdaMetafactory, ClassName.methodHandlesLookup,
    ClassName.string, ClassName.methodType, ClassName.methodHandle, ClassName.callSite]

/-! ## Class graphs -/

/-- All members of a class are written on one line. -/
structure ClassEntry.OneLine (entry : ClassEntry) : Prop where
  methods : ∀ method ∈ entry.methods, Text.OneLine method.text
  fields : ∀ field ∈ entry.fields, Text.OneLine field.text

theorem ClassEntry.oneLine_iff {entry : ClassEntry} :
    entry.OneLine ↔ (∀ method ∈ entry.methods, Text.OneLine method.text) ∧
      ∀ field ∈ entry.fields, Text.OneLine field.text :=
  ⟨fun oneLine => ⟨oneLine.methods, oneLine.fields⟩, fun both => ⟨both.1, both.2⟩⟩

namespace ClassEntry.OneLine

variable {entry : ClassEntry}

theorem of_bare (noMethods : entry.methods = []) (noFields : entry.fields = []) :
    entry.OneLine := by
  refine ⟨?_, ?_⟩
  · rw [noMethods]
    exact List.forall_mem_nil _
  · rw [noFields]
    exact List.forall_mem_nil _

theorem withField {field : Field} (oneLine : entry.OneLine) (named : Text.OneLine field.text) :
    (entry.withField field).OneLine :=
  ⟨oneLine.methods, List.forall_mem_append.mpr
    ⟨oneLine.fields, List.forall_mem_singleton.mpr named⟩⟩

theorem withMethod {method : Method} (oneLine : entry.OneLine)
    (named : Text.OneLine method.text) : (entry.withMethod method).OneLine :=
  ⟨List.forall_mem_append.mpr ⟨oneLine.methods, List.forall_mem_singleton.mpr named⟩,
    oneLine.fields⟩

end ClassEntry.OneLine

namespace ClassGraph

/-- All members that are declared are written on one line. -/
def OneLine (graph : ClassGraph) : Prop :=
  ∀ entry ∈ graph.entries, entry.OneLine

theorem oneLine_standard : Standard.graph.OneLine := by
  have initializer : Text.OneLine Standard.objectInit.text := by
    rw [Method.oneLine_text, MethodType.oneLine_render]
    simp [Standard.objectInit, ClassName.object, Method.initializerName]
  have functional : ∀ (owner : ClassName) (name : String) (type : MethodType),
      Text.OneLine (Standard.abstractMethod owner name type).text ↔
        Text.OneLine owner.text ∧ Text.OneLine name ∧ Text.OneLine type.render :=
    fun _ _ _ => Method.oneLine_text
  -- every other member of a standard class is one of a box or the bootstrap method
  unfold OneLine
  simp [Standard.graph, Standard.classes, Standard.interface, Standard.subclass, Standard.box,
    ClassEntry.oneLine_iff, initializer, functional, MethodType.oneLine_render, ClassName.object,
    ClassName.runnable, ClassName.consumer, ClassName.function, ClassName.intUnaryOperator,
    ClassName.supplier, Primitive.oneLine_valueOf, Primitive.oneLine_unbox,
    Standard.oneLine_metafactory]

theorem mem_of_mem_chainIn {entries : List ClassEntry} {name : ClassName} {entry : ClassEntry}
    (member : entry ∈ chainIn entries name) : entry ∈ entries := by
  induction entries generalizing name with
  | nil => cases member
  | cons first older inductionHypothesis =>
      rw [chainIn] at member
      split at member
      · split at member
        · rcases List.mem_cons.mp member with same | later
          · exact same ▸ List.mem_cons_self
          · exact List.mem_cons_of_mem first (inductionHypothesis later)
        · exact List.mem_singleton.mp member ▸ List.mem_cons_self
      · exact List.mem_cons_of_mem first (inductionHypothesis member)

namespace OneLine

variable {graph : ClassGraph} {entry : ClassEntry} {field : Field} {method : Method}

theorem findField? {owner : ClassName} {name : String} (oneLine : graph.OneLine)
    (found : graph.findField? owner name = some field) : Text.OneLine field.text := by
  obtain ⟨entry, member, declared⟩ := List.exists_of_findSome?_eq_some found
  have entryOneLine := oneLine entry (mem_of_mem_chainIn member)
  exact entryOneLine.fields field (List.mem_of_find?_eq_some declared)

theorem ownField {routine : Method} {name : String} (oneLine : graph.OneLine)
    (found : Operation.ownField graph routine name = .ok field) : Text.OneLine field.text := by
  unfold Operation.ownField at found
  split at found
  · rename_i existing declared
    cases found
    exact oneLine.findField? declared
  · cases found

theorem functionalMethod? {interface : ClassName} (oneLine : graph.OneLine)
    (found : graph.functionalMethod? interface = some method) : Text.OneLine method.text := by
  obtain ⟨entry, isFound, functional⟩ := Option.bind_eq_some_iff.mp found
  have member : method ∈ entry.methods := by
    unfold ClassEntry.functionalMethod? at functional
    split at functional
    · split at functional
      · rename_i only single
        cases functional
        exact (List.mem_filter.mp (single ▸ List.mem_singleton_self method)).1
      · cases functional
    · cases functional
  exact (oneLine entry (mem_of_find? isFound).1).methods method member

theorem insert (oneLine : graph.OneLine) (entryOneLine : entry.OneLine) :
    (graph.insert entry).OneLine := by
  by_cases known : graph.contains entry.name = true
  · rw [insert_of_contains known]
    exact oneLine
  · rw [insert_of_missing known]
    exact List.forall_mem_cons.mpr ⟨entryOneLine, oneLine⟩

theorem modify {name : ClassName} {change : ClassEntry → ClassEntry} (oneLine : graph.OneLine)
    (kept : ∀ entry : ClassEntry, entry.OneLine → (change entry).OneLine) :
    (graph.modify name change).OneLine := by
  intro entry member
  obtain ⟨old, oldMember, rfl⟩ := List.mem_map.mp member
  have oldOneLine := oneLine old oldMember
  split
  · exact kept old oldOneLine
  · exact oldOneLine

/-- The field that is added and the one that is given back are both one line. -/
theorem addField (oneLine : graph.OneLine) (named : Text.OneLine field.text) :
    Text.OneLine (graph.addField field).1.text ∧ (graph.addField field).2.OneLine := by
  rcases declared : graph.declaredField? field.owner field.name with _ | existing
  · rw [addField_of_none declared]
    exact ⟨named, oneLine.modify fun _ entryOneLine => entryOneLine.withField named⟩
  · rw [addField_of_some declared]
    obtain ⟨entry, isFound, listed⟩ := Option.bind_eq_some_iff.mp declared
    have entryOneLine := oneLine entry (mem_of_find? isFound).1
    exact ⟨entryOneLine.fields existing (List.mem_of_find?_eq_some listed), oneLine⟩

theorem addMethod (oneLine : graph.OneLine) (named : Text.OneLine method.text) :
    Text.OneLine (graph.addMethod method).1.text ∧ (graph.addMethod method).2.OneLine := by
  rcases declared : graph.declaredMethod? method.owner method.key with _ | existing
  · rw [addMethod_of_none declared]
    exact ⟨named, oneLine.modify fun _ entryOneLine => entryOneLine.withMethod named⟩
  · rw [addMethod_of_some declared]
    obtain ⟨entry, isFound, listed⟩ := Option.bind_eq_some_iff.mp declared
    have entryOneLine := oneLine entry (mem_of_find? isFound).1
    exact ⟨entryOneLine.methods existing (List.mem_of_find?_eq_some listed), oneLine⟩

end OneLine

end ClassGraph

/-! ## Operations -/

namespace Operation

/-- Texts of the members and types that an operation is given. -/
def operandTexts : Operation → List String
  | .getField field | .putField field => [field.text]
  | .newArray type | .defaultValue type => [type.render]
  | .newObject name => [name.text]
  | .cast type _ | .instanceOf type | .constNull type => [type.render]
  | .invoke method | .invokeOn method _ => [method.text]
  | .lambda method interface => [method.text, interface.text]
  | .lambdaField field interface => [field.text, interface.text]
  | _ => []

def OneLine (operation : Operation) : Prop :=
  ∀ text ∈ operation.operandTexts, Text.OneLine text

section Members

variable {graph : ClassGraph} {routine : Method} {operation : Operation} {field : Field}

theorem oneLine_iff_of_operand {text : String} (operands : operation.operandTexts = [text]) :
    operation.OneLine ↔ Text.OneLine text := by
  rw [OneLine, operands, List.forall_mem_singleton]

theorem oneLine_iff_of_operands {first second : String}
    (operands : operation.operandTexts = [first, second]) :
    operation.OneLine ↔ Text.OneLine first ∧ Text.OneLine second := by
  rw [OneLine, operands, List.forall_mem_cons, List.forall_mem_singleton]

theorem oneLine_of_readField? (named : graph.OneLine) (oneLine : operation.OneLine)
    (reads : operation.readField? graph routine = some field) : Text.OneLine field.text := by
  cases operation with
  | getField =>
      cases reads
      exact oneLine _ List.mem_cons_self
  | getOwnField name => exact named.findField? reads
  | _ => cases reads

theorem oneLine_of_writtenField? (named : graph.OneLine) (oneLine : operation.OneLine)
    (writes : operation.writtenField? graph routine = some field) : Text.OneLine field.text := by
  cases operation with
  | putField =>
      cases writes
      exact oneLine _ List.mem_cons_self
  | putOwnField name => exact named.findField? writes
  | _ => cases writes

theorem Invokes.oneLine {method : Method} {receiver : ClassName} {kind : InvokeKind}
    (invokes : Invokes graph operation method receiver kind) (oneLine : operation.OneLine) :
    Text.OneLine method.text := by
  cases invokes with
  | declared | on => exact oneLine _ List.mem_cons_self

/-- What is captured goes into a call site on one line. -/
theorem Captures.oneLine {requirements : List Requirement} {functional : Method}
    {interface : ClassName} {handle : Constant}
    (captures : Captures graph operation requirements functional interface handle)
    (named : graph.OneLine) (oneLine : operation.OneLine) :
    Text.OneLine functional.text ∧ Text.OneLine interface.text ∧ Text.OneLine handle.text := by
  cases captures with
  | method count found counted =>
      obtain ⟨target, interfaceOneLine⟩ := (oneLine_iff_of_operands rfl).mp oneLine
      refine ⟨named.functionalMethod? found, interfaceOneLine, ?_⟩
      exact Constant.oneLine_methodHandle.mpr target
  | field found accessor =>
      obtain ⟨target, interfaceOneLine⟩ := (oneLine_iff_of_operands rfl).mp oneLine
      refine ⟨named.functionalMethod? found, interfaceOneLine, ?_⟩
      exact Constant.oneLine_fieldHandle.mpr target

theorem oneLine_of_constant? {value : ValueType} {code : Code} (oneLine : operation.OneLine)
    (pushes : operation.constant? = some (value, code)) : Text.OneLine value.text := by
  cases operation with
  | constNull type =>
      cases pushes
      exact ValueType.oneLine_reference.mpr (oneLine _ List.mem_cons_self)
  | defaultValue type =>
      cases pushes
      exact ValueType.oneLine_ofFieldType.mpr (oneLine _ List.mem_cons_self)
  | constInt | constBool | constChar | constByte | constShort | constLong | constFloat | constDouble
  | constString =>
      cases pushes
      decide
  | _ => cases pushes

end Members

end Operation

theorem Instruction.Pushes.oneLine {instruction : Instruction} {value : ValueType}
    (pushes : instruction.Pushes value) : Text.OneLine instruction.text := by
  apply Instruction.oneLine_text
  cases pushes <;> simp [operandTexts, Constant.text]

theorem Code.PushesConstant.oneLine {value : ValueType} {code : Code}
    (pushes : code.PushesConstant value) : ∀ instruction ∈ code, Text.OneLine instruction.text := by
  cases pushes with
  | single pushes =>
      intro instruction member
      exact List.mem_singleton.mp member ▸ pushes.oneLine
  | converted pushes source target =>
      intro instruction member
      rcases List.mem_cons.mp member with rfl | conversion
      · exact pushes.oneLine
      · rw [List.mem_singleton.mp conversion]
        exact Instruction.oneLine_of_plain rfl

/-- The call site of a lambda names the functional method, the interface, the handle and the types
of the values that it captures. -/
theorem Effect.oneLine_lambdaSite {functional : Method} {interface : ClassName} {handle : Constant}
    {captured : List ValueType} (method : Text.OneLine functional.text)
    (interfaceOneLine : Text.OneLine interface.text) (handleOneLine : Text.OneLine handle.text)
    (values : ∀ value ∈ captured, Text.OneLine value.text) :
    Text.OneLine
      (lambdaSite functional interface handle (captured.filterMap ValueType.fieldType?)).text := by
  obtain ⟨-, name, type⟩ := Method.oneLine_text.mp method
  refine CallSite.oneLine_text name ?_ Standard.oneLine_metafactory ?_
  · rw [MethodType.oneLine_render]
    refine ⟨?_, ?_⟩
    · intro parameter member
      obtain ⟨value, isCaptured, held⟩ := List.mem_filterMap.mp member
      exact ValueType.oneLine_of_fieldType? held (values value isCaptured)
    · rintro result ⟨⟩
      exact FieldType.oneLine_object.mpr interfaceOneLine
  · intro argument member
    have either : argument = .methodType functional.type ∨ argument = handle := by
      simpa [lambdaSite, or_comm, or_left_comm] using member
    rcases either with rfl | rfl
    · exact type
    · exact handleOneLine

namespace Operation.Performs

variable {graph : ClassGraph} {routine : Method} {offset : Nat} {operation : Operation}
  {before after : Frame} {code : Code}

/-- What an operation pushes is a value it takes or one of a type that it is given or finds. -/
theorem oneLine_frame (performed : operation.Performs graph routine offset before after code)
    (named : graph.OneLine) (operands : operation.OneLine) (oneLine : before.OneLine) :
    after.OneLine := by
  have one : ∀ {value : ValueType}, Text.OneLine value.text →
      ∀ result ∈ [value], Text.OneLine result.text :=
    fun oneLine => List.forall_mem_singleton.mpr oneLine
  have none : ∀ result ∈ ([] : List ValueType), Text.OneLine result.text :=
    List.forall_mem_nil _
  cases performed with
  | storeLocal => exact oneLine.storeLast
  | killLocal popped => exact oneLine.popLocal popped
  | returnVoid | increment => exact oneLine
  | swap | dup | dupUnder =>
      -- the same values in another order
      refine ⟨oneLine.locals, ?_⟩
      have stack := oneLine.stack
      simp only [List.forall_mem_cons] at stack ⊢
      tauto
  | load reads held =>
      exact oneLine.replace [] [_] (one (oneLine.locals _ (List.mem_of_getElem? held)))
  | pop | storeLocalAt | putStatic | throwValue | returnValue => exact oneLine.replace [_] [] none
  | putField => exact oneLine.replace [_, _] [] none
  | arrayStore => exact oneLine.replace [_, _, _] [] none
  | arithmetic op kind | bitwise op kind | shift op kind =>
      exact oneLine.replace [_, _] [_] (one (NumericKind.oneLine_valueType _))
  | negate => exact oneLine.replace [_] [_] (one (NumericKind.oneLine_valueType _))
  | compareLong | compareFloat | compareDouble =>
      exact oneLine.replace [_, _] [_] (one (ValueType.oneLine_int .int))
  | convert => exact oneLine.replace [_] [_] (one (ValueType.oneLine_ofPrimitive _))
  | getStatic reads =>
      have field := Field.oneLine_text.mp (oneLine_of_readField? named operands reads)
      exact oneLine.replace [] [_] (one (ValueType.oneLine_ofFieldType.mpr field.2.2))
  | getField reads =>
      have field := Field.oneLine_text.mp (oneLine_of_readField? named operands reads)
      exact oneLine.replace [_] [_] (one (ValueType.oneLine_ofFieldType.mpr field.2.2))
  | newArray component =>
      have given := RefType.oneLine_array.mpr (operands _ List.mem_cons_self)
      exact oneLine.replace [_] [_] (one (ValueType.oneLine_reference.mpr given))
  | arrayLoad elements =>
      have array := oneLine.stack _ (List.mem_cons_of_mem _ List.mem_cons_self)
      rw [RefType.component?_eq_some.mp elements, ValueType.oneLine_reference,
        RefType.oneLine_array] at array
      exact oneLine.replace [_, _] [_] (one (ValueType.oneLine_ofFieldType.mpr array))
  | arrayLength | instanceOf =>
      exact oneLine.replace [_] [_] (one (ValueType.oneLine_int .int))
  | newObject name => exact oneLine.replace [] [_] (one (operands _ List.mem_cons_self))
  | cast =>
      exact oneLine.replace [_] [_]
        (one (ValueType.oneLine_reference.mpr (operands _ List.mem_cons_self)))
  | box => exact oneLine.replace [_] [_] (one (Primitive.oneLine_boxName _))
  | unbox => exact oneLine.replace [_] [_] (one (ValueType.oneLine_ofPrimitive _))
  | @invoke _ _ _ _ method _ _ invokes met =>
      apply oneLine.replace
      intro value member
      obtain ⟨type, result, rfl⟩ : ∃ type, method.type.result = some type ∧
          value = .ofFieldType type := by
        simpa [eq_comm] using member
      have types := MethodType.oneLine_render.mp
        (Method.oneLine_text.mp (invokes.oneLine operands)).2.2
      exact ValueType.oneLine_ofFieldType.mpr (types.2 type result)
  | capture captures met =>
      exact oneLine.replace _ [_] (one (captures.oneLine named operands).2.1)
  | constant pushes =>
      exact oneLine.replace [] [_] (one (oneLine_of_constant? operands pushes))

/-- An operation emits instructions on one line each. -/
theorem oneLine_code (performed : operation.Performs graph routine offset before after code)
    (named : graph.OneLine) (operands : operation.OneLine) (oneLine : before.OneLine) :
    ∀ instruction ∈ code, Text.OneLine instruction.text := by
  have one : ∀ {instruction : Instruction} {text : String},
      instruction.operandTexts = [text] → Text.OneLine text →
        ∀ emitted ∈ [instruction], Text.OneLine emitted.text :=
    fun single text => List.forall_mem_singleton.mpr (Instruction.oneLine_of_operand single text)
  have plain : ∀ {instruction : Instruction}, instruction.operandTexts = [] →
      ∀ emitted ∈ [instruction], Text.OneLine emitted.text :=
    fun none => List.forall_mem_singleton.mpr (Instruction.oneLine_of_plain none)
  cases performed with
  | getStatic reads | getField reads => exact one rfl (oneLine_of_readField? named operands reads)
  | putStatic writes | putField writes =>
      exact one rfl (oneLine_of_writtenField? named operands writes)
  | newArray component =>
      have given : Text.OneLine component.render := operands _ List.mem_cons_self
      cases component with
      | primitive element => exact plain rfl
      | reference type => exact one rfl (RefType.oneLine_operandText.mpr given)
  | newObject name => exact one rfl (operands _ List.mem_cons_self)
  | cast | instanceOf =>
      exact one rfl (RefType.oneLine_operandText.mpr (operands _ List.mem_cons_self))
  | box => exact one rfl (Primitive.oneLine_valueOf _)
  | unbox => exact one rfl (Primitive.oneLine_unbox _)
  | invoke invokes met => exact one rfl (invokes.oneLine operands)
  | capture captures met =>
      obtain ⟨functional, interface, handle⟩ := captures.oneLine named operands
      refine one rfl (Effect.oneLine_lambdaSite functional interface handle ?_)
      intro value captured
      -- the values that are captured lie on the stack the other way round
      exact oneLine.stack value (List.mem_append_left _ (List.mem_reverse.mpr captured))
  | constant pushes => exact (pushes_of_constant? pushes).oneLine
  | convert =>
      intro instruction member
      obtain ⟨conversion, -, rfl⟩ := List.mem_map.mp member
      exact Instruction.oneLine_of_plain rfl
  | killLocal => exact List.forall_mem_nil _
  | @pop _ _ value | @dup _ _ value => cases wide : value.isWide <;> exact plain rfl
  | @dupUnder _ _ lower upper =>
      unfold copyBeneath
      cases upper.isWide <;> cases lower.isWide <;> exact plain rfl
  | _ => exact plain rfl

end Operation.Performs

/-! ## Routines under construction -/

theorem Branch.oneLine_instruction (branch : Branch) (target : Label) :
    OneLine (branch.instruction target).text := by
  cases branch <;> exact Instruction.oneLine_of_plain rfl

/-- Calls that hand in nothing but members and types on one line. -/
def Call.OneLine : Call → Prop
  | .operation performed => performed.OneLine
  | .splice _ => False
  | .declare _ (.described _) => False
  | _ => True

/-- All that a builder holds is written on one line: its routine, the values of its frames, the
descriptions that jumps have brought to labels, and what it has emitted. -/
structure Builder.OneLine (builder : Builder) : Prop where
  routine : Text.OneLine builder.routine.text
  frames : builder.AllFrames Frame.OneLine
  deltas : ∀ label state, builder.labels.find? label = some state →
    Text.OneLine state.frame.delta.text
  emissions : ∀ emission ∈ builder.emissions, Text.OneLine emission.text

namespace Builder.OneLine

variable {graph : ClassGraph} {builder next : Builder} {label : Label}

theorem start {routine : Method} (named : Text.OneLine routine.text) : (start routine).OneLine := by
  obtain ⟨owner, -, type⟩ := Method.oneLine_text.mp named
  have nothing : ∀ emission ∈ (Builder.start routine).emissions, Text.OneLine emission.text := by
    simp [Builder.start, Builder.emissions]
  refine ⟨named, .start (.ofValues ?_), by simp [Builder.start], nothing⟩
  intro value member
  rcases List.mem_append.mp member with receiver | parameter
  · split at receiver
    · cases receiver
    · exact List.mem_singleton.mp receiver ▸ owner
  · obtain ⟨parameterType, listed, rfl⟩ := List.mem_map.mp parameter
    have types := MethodType.oneLine_render.mp type
    exact ValueType.oneLine_ofFieldType.mpr (types.1 parameterType listed)

theorem placed (oneLine : builder.OneLine) {settled : LabelFrame}
    (found : builder.labels.placed? label = some settled) : settled.snapshot.frame.OneLine :=
  oneLine.frames.labels label _ (LabelFrames.placed?_eq_some.mp found)

theorem base (oneLine : builder.OneLine) {source : Option Label} {target : Label}
    {base : Snapshot} (based : builder.jumpBase source target = .ok base) :
    base.frame.OneLine := by
  rcases jumpBase_eq_ok.mp based with ⟨-, rfl⟩ | ⟨_, settled, -, found, rfl⟩
  · exact oneLine.frames.entry
  · exact oneLine.placed found

/-- The description of a label that is declared is recorded, or is computed from two frames. -/
theorem settles (oneLine : builder.OneLine) {framing : Framing} {settled : LabelFrame}
    (given : (Call.declare label framing).OneLine)
    (settles : builder.Settles label framing settled) : Text.OneLine settled.delta.text := by
  cases settles with
  | recorded found agreed =>
      exact oneLine.deltas label _ (LabelFrames.pending?_eq_some.mp found)
  | fromEntry agreed => exact (oneLine.frames.arriving agreed.arrives).diff oneLine.frames.entry
  | fromLabel found agreed =>
      exact (oneLine.frames.arriving agreed.arrives).diff (oneLine.placed found)
  | arriving | applied => cases given

theorem deltas_set (oneLine : builder.OneLine) {state : LabelState}
    (delta : Text.OneLine state.frame.delta.text) :
    ∀ other found, (builder.labels.set label state).find? other = some found →
      Text.OneLine found.frame.delta.text := by
  intro other found isSet
  rcases LabelFrames.find?_set_eq_some.mp isSet with ⟨-, rfl⟩ | ⟨-, before⟩
  · exact delta
  · exact oneLine.deltas other found before

/-- One call keeps everything on one line, if what it is given is. -/
theorem makes (oneLine : builder.OneLine) {call : Call} (named : graph.OneLine)
    (given : call.OneLine) (made : Makes graph builder call next) : next.OneLine := by
  have taken : ∀ locals operands stack, Frame.OneLine ⟨locals, operands ++ stack⟩ →
      Frame.OneLine ⟨locals, stack⟩ :=
    fun locals operands stack before => before.replace operands [] (List.forall_mem_nil _)
  have routine : Text.OneLine next.routine.text := made.routine ▸ oneLine.routine
  have frames : next.AllFrames Frame.OneLine := by
    refine oneLine.frames.makes ?_ ?_ taken ?_ made
    · cases call with
      | splice => cases given
      | operation | jump | declare | freshLabel => rfl
    · rintro operation current after code rfl _ performed before
      exact performed.oneLine_frame named given before
    · rintro declared delta frame rfl _
      cases given
  cases made with
  | @operation operation current frame code reachable performed =>
      refine ⟨routine, frames, oneLine.deltas, ?_⟩
      have code := performed.oneLine_code named given
        (oneLine.frames.current current reachable)
      rw [emissions_afterCode, List.forall_mem_append, List.forall_mem_map]
      exact ⟨oneLine.emissions, fun instruction member =>
        Emission.oneLine_instruction (code instruction member)⟩
  | splice => cases given
  | @jump branch source target current base frame jumpOperands labels reachable met took based
      recorded =>
      have left : frame.OneLine := by
        have before := oneLine.frames.current current reachable
        rw [took] at before
        exact taken _ _ _ before
      refine ⟨routine, frames, ?_, ?_⟩
      · rcases LabelFrames.recordJump_eq_ok.mp recorded with ⟨-, rfl⟩ | ⟨_, -, -, rfl⟩
        · exact oneLine.deltas_set (left.diff (oneLine.base based))
        · exact oneLine.deltas
      · rw [emissions_afterJump, List.forall_mem_append, List.forall_mem_singleton]
        exact ⟨oneLine.emissions, Emission.oneLine_instruction (branch.oneLine_instruction target)⟩
  | @declare label framing settled unplaced settles =>
      have delta := oneLine.settles given settles
      refine ⟨routine, frames, oneLine.deltas_set delta, ?_⟩
      rw [emissions_afterLabel, List.forall_mem_append, List.forall_mem_cons,
        List.forall_mem_singleton]
      exact ⟨oneLine.emissions, Emission.oneLine_label label, Emission.oneLine_frame delta⟩
  | freshLabel => exact ⟨routine, frames, oneLine.deltas, oneLine.emissions⟩

end Builder.OneLine

end TypedBytecode
