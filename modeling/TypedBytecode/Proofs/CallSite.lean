import TypedBytecode.Proofs.Balance
import TypedBytecode.Proofs.Shuffle

/-!
Contract: the call sites that make functional interface instances, and what they capture.

Owns:
- the number of arguments that a handle is called with, by its kind;
- the number of values that are captured, which together with the arguments of the functional
  method are the arguments of the handle;
- the call theorem: the call site takes exactly the values that come off the stack and gives the
  interface, and the numbers agree, unless a constructor is bound.

A constructor is counted with a receiver, but its handle makes the object by itself. So one value
too many is captured.

Does not own: whether the types of the handle and of the functional method agree.
-/

namespace TypedBytecode

/-! ## Handles -/

/-- Number of arguments that a handle is called with. A handle that makes an object has no
receiver. -/
def Constant.handleArity? : Constant → Option Nat
  | .methodHandle .invokeStatic method => some method.type.parameters.length
  | .methodHandle .newInvokeSpecial method => some method.type.parameters.length
  | .methodHandle .invokeVirtual method => some (method.type.parameters.length + 1)
  | .methodHandle .invokeSpecial method => some (method.type.parameters.length + 1)
  | .methodHandle .invokeInterface method => some (method.type.parameters.length + 1)
  | .fieldHandle .getStatic _ => some 0
  | .fieldHandle .putStatic _ => some 1
  | .fieldHandle .getField _ => some 1
  | .fieldHandle .putField _ => some 2
  | _ => none

namespace Operation

/-- Interface that an operation makes an instance of. -/
def interface? : Operation → Option ClassName
  | .lambda _ interface => some interface
  | .lambdaField _ interface => some interface
  | _ => none

/-- Does an operation make an instance out of a constructor? -/
def bindsConstructor : Operation → Bool
  | .lambda method _ => method.isConstructor && !method.isStatic
  | _ => false

/-- A handle to the member that an operation makes an instance out of. -/
inductive BoundTo : Operation → Constant → Prop where
  | method {method : Method} {interface : ClassName} (kind : HandleKind) :
      BoundTo (.lambda method interface) (.methodHandle kind method)
  | field {field : Field} {interface : ClassName} (kind : HandleKind) :
      BoundTo (.lambdaField field interface) (.fieldHandle kind field)

end Operation

theorem ClassGraph.handleArity?_methodHandle (graph : ClassGraph) (method : Method) :
    (Constant.methodHandle (graph.methodHandleKind method) method).handleArity? =
      some (method.type.parameters.length +
        if method.isStatic || method.isConstructor then 0 else 1) := by
  unfold ClassGraph.methodHandleKind
  split_ifs <;> simp_all [Constant.handleArity?]

/-- Reading a field takes the object, if there is one, and writing it one argument more. -/
theorem Effect.handleArity?_fieldHandle {field : Field} {parameters : Nat} {kind : HandleKind}
    (accessor : fieldHandleKind? field parameters = some kind) :
    (Constant.fieldHandle kind field).handleArity? =
      some (parameters + if field.isStatic then 0 else 1) := by
  unfold fieldHandleKind? at accessor
  split at accessor <;> cases accessor
  all_goals
    rename_i static
    rw [static]
    rfl

/-! ## Captured values -/

/-- There are as many requirements as values to capture, also where just a receiver is. -/
theorem Effect.length_captureRequirements {method functional : Method} {captures : Nat}
    (counted : method.type.parameters.length + (if method.isStatic then 0 else 1) =
      functional.type.parameters.length + captures) :
    (captureRequirements method functional captures).length = captures := by
  unfold captureRequirements
  split
  · rename_i same
    split
    · rename_i static
      rw [if_pos static] at counted
      rw [List.length_nil]
      omega
    · rename_i receiver
      rw [if_neg receiver] at counted
      rw [List.length_singleton]
      omega
  · rw [List.length_map, List.length_reverse, List.length_range]

namespace Operation

variable {graph : ClassGraph} {operation : Operation} {requirements : List Requirement}
  {functional : Method} {interface : ClassName} {handle : Constant}

theorem Captures.boundTo
    (captures : Captures graph operation requirements functional interface handle) :
    operation.BoundTo handle := by
  cases captures with
  | method => exact .method _
  | field => exact .field _

theorem Captures.interface?
    (captures : Captures graph operation requirements functional interface handle) :
    operation.interface? = some interface := by
  cases captures <;> rfl

theorem Captures.functionalMethod?
    (captures : Captures graph operation requirements functional interface handle) :
    graph.functionalMethod? interface = some functional := by
  cases captures with
  | method _ found => exact found
  | field found => exact found

/-- The values that are captured and the arguments of the functional method are the arguments of
the handle, and one more where a constructor is bound. -/
theorem Captures.handleArity
    (captures : Captures graph operation requirements functional interface handle) :
    ∃ arity, handle.handleArity? = some arity ∧
      requirements.length + functional.type.parameters.length =
        arity + if operation.bindsConstructor then 1 else 0 := by
  cases captures with
  | @method method _ _ captures found counted =>
      refine ⟨_, graph.handleArity?_methodHandle method, ?_⟩
      rw [Effect.length_captureRequirements counted, bindsConstructor]
      -- What is left is arithmetic, with a receiver unless the method is static.
      cases static : method.isStatic <;> cases constructor : method.isConstructor <;>
        simp_all <;> omega
  | @field field functional _ kind found accessor =>
      refine ⟨_, Effect.handleArity?_fieldHandle accessor, ?_⟩
      cases static : field.isStatic <;> simp [bindsConstructor, Nat.add_comm]

theorem interface?_eq_some :
    operation.interface? = some interface ↔
      (∃ method, operation = .lambda method interface) ∨
        ∃ field, operation = .lambdaField field interface := by
  cases operation <;> simp [Operation.interface?]

/-- An operation that makes an instance of an interface captures what comes off the stack. -/
theorem Performs.capture_of_interface? {routine : Method} {offset : Nat} {before after : Frame}
    {code : Code} (performed : operation.Performs graph routine offset before after code)
    (makes : operation.interface? = some interface) :
    ∃ requirements functional handle operands rest,
      Captures graph operation requirements functional interface handle ∧
      Requirement.Met graph requirements operands ∧ before.stack = operands.reverse ++ rest ∧
      after = ⟨before.locals, .object interface :: rest⟩ ∧
      code = [.invokeDynamic (Effect.lambdaSite functional interface handle
        (operands.filterMap ValueType.fieldType?))] := by
  cases performed with
  | capture captures met =>
      have same := captures.interface?
      rw [makes] at same
      cases same
      exact ⟨_, _, _, _, _, captures, met, rfl, rfl, rfl⟩
  | load absent | getStatic absent | getField absent | putStatic absent | putField absent
  | invoke absent | constant absent =>
      rcases interface?_eq_some.mp makes with ⟨_, rfl⟩ | ⟨_, rfl⟩ <;> cases absent
  | _ => cases makes

end Operation

/-- A call site that takes captured values and gives an instance of an interface. It hands on a
handle, and the type of the functional method on both sides of it. -/
structure CallSite.Binds (site : CallSite) (functional : Method) (interface : ClassName)
    (handle : Constant) (captured : List ValueType) : Prop where
  name : site.name = functional.name
  takes : List.Forall₂ (fun value type => value.fieldType? = some type) captured
    site.type.parameters
  gives : site.type.result = some (.object interface)
  bootstrap : site.bootstrap = Standard.metafactory
  hands : site.arguments = [.methodType functional.type, handle, .methodType functional.type]

/-! ## Calls -/

namespace Builder

/-- A call has emitted one call site. This takes the values that come off the stack, in stack order,
and gives the interface, which is what the stack has in their place. The values that are captured
and the arguments of the functional method are just the arguments of the handle, unless the handle
is to a constructor: then they are one too many. -/
structure MakesInstance (builder next : Builder) (operation : Operation) (interface : ClassName)
    (functional : Method) (current : Snapshot) (captured rest : List ValueType)
    (site : CallSite) (handle : Constant) (arity : Nat) : Prop where
  reachable : builder.current = some current
  taken : current.frame.stack = captured.reverse ++ rest
  given : next.current =
    some { current with frame := ⟨current.frame.locals, .object interface :: rest⟩ }
  emitted : next.emissions = builder.emissions ++ [.instruction (.invokeDynamic site)]
  binds : site.Binds functional interface handle captured
  boundTo : operation.BoundTo handle
  called : handle.handleArity? = some arity
  plain : operation.bindsConstructor = false →
    captured.length + functional.type.parameters.length = arity
  constructing : operation.bindsConstructor = true →
    captured.length + functional.type.parameters.length = arity + 1

/-- Whatever is on the stack: an operation that makes an instance of a functional interface and
succeeds emits one call site, which captures what comes off the stack. -/
theorem lambda_sites_capture (graph : ClassGraph) (builder next : Builder)
    (operation : Operation) (interface : ClassName) (functional : Method)
    (makes : operation.interface? = some interface)
    (found : graph.functionalMethod? interface = some functional)
    (succeeds : builder.call graph (.operation operation) = .ok next) :
    ∃ (current : Snapshot) (captured rest : List ValueType) (site : CallSite)
        (handle : Constant) (arity : Nat),
      builder.MakesInstance next operation interface functional current captured rest site handle
        arity := by
  cases makes_of_call succeeds with
  | @operation _ current after code reachable performed =>
      obtain ⟨requirements, other, handle, captured, rest, captures, met, taken, rfl, rfl⟩ :=
        performed.capture_of_interface? makes
      have same := captures.functionalMethod?
      rw [found] at same
      cases same
      obtain ⟨arity, called, counted⟩ := captures.handleArity
      rw [List.Forall₂.length_eq met] at counted
      have binds : (Effect.lambdaSite functional interface handle
          (captured.filterMap ValueType.fieldType?)).Binds functional interface handle captured :=
        ⟨rfl, Operation.captured_of_met captures.rejects_top met, rfl, rfl, rfl⟩
      refine ⟨current, captured, rest, _, handle, arity, reachable, taken, rfl,
        emissions_afterCode, binds, captures.boundTo, called, ?_, ?_⟩
      · intro plain
        rwa [plain, if_neg Bool.false_ne_true] at counted
      · intro constructor
        rwa [constructor, if_pos rfl] at counted

/-- A static method with a wide parameter and two `int` parameters. -/
def wideFirstMethod : Method :=
  ⟨⟨"A"⟩, ⟨"g"⟩, ⟨[.primitive .long, .primitive .int, .primitive .int], some (.primitive .int)⟩,
    .staticBit⟩

/-- The method `applyAsInt` of its interface. -/
def applyAsInt : Method :=
  Standard.abstractMethod .intUnaryOperator "applyAsInt"
    ⟨[.primitive .int], some (.primitive .int)⟩

/-- The `long` and the `int` are captured, and the functional method brings the third argument. -/
theorem lambda_sites_capture_long :
    Operation.interface? (.lambda wideFirstMethod .intUnaryOperator) = some .intUnaryOperator ∧
      Standard.graph.functionalMethod? .intUnaryOperator = some applyAsInt ∧
      ∃ next, intAboveLong.call Standard.graph
          (.operation (.lambda wideFirstMethod .intUnaryOperator)) = .ok next ∧
        ∃ (current : Snapshot) (captured rest : List ValueType) (site : CallSite)
            (handle : Constant) (arity : Nat),
          intAboveLong.MakesInstance next (.lambda wideFirstMethod .intUnaryOperator)
            .intUnaryOperator applyAsInt current captured rest site handle arity :=
  ⟨rfl, by decide, _, rfl, lambda_sites_capture Standard.graph intAboveLong _
    (.lambda wideFirstMethod .intUnaryOperator) .intUnaryOperator applyAsInt rfl (by decide) rfl⟩

/-- The method `get` of its interface. -/
def supplierGet : Method :=
  Standard.abstractMethod .supplier "get" ⟨[], some (.object .object)⟩

/-- A constructor with one parameter. -/
def argumentConstructor : Method :=
  ⟨⟨"A"⟩, Method.initializerName, ⟨[.primitive .int], none⟩, .empty⟩

/-- An object that is just made, and an argument for its constructor. -/
def objectAndArgument : List Request :=
  [.newObject ⟨"A"⟩, .constInt 1].map (fun operation => ⟨Standard.graph, .operation operation⟩)

/-- The call site that captures the object with the argument, for a handle that takes the argument
alone. -/
def objectCapturingSite : CallSite :=
  Effect.lambdaSite supplierGet .supplier (.methodHandle .newInvokeSpecial argumentConstructor)
    [.object ⟨"A"⟩, .primitive .int]

/-- The numbers do not always agree: a constructor with one parameter is bound with two values
captured. -/
theorem constructor_site_captures_object :
    ((start plainRoutine).run (objectAndArgument ++
        [⟨Standard.graph, .operation (.lambda argumentConstructor .supplier)⟩])).emissions =
      [.newObject ⟨"A"⟩, .intConst 1, .invokeDynamic objectCapturingSite].map .instruction ∧
    ¬ ∀ (routine : Method) (requests : List Request) (graph : ClassGraph)
        (operation : Operation) (interface : ClassName) (functional : Method) (next : Builder),
      operation.interface? = some interface →
      graph.functionalMethod? interface = some functional →
      ((start routine).run requests).call graph (.operation operation) = .ok next →
      ∀ (site : CallSite) (handle : Constant) (captured : List ValueType) (arity : Nat),
        next.emissions =
          ((start routine).run requests).emissions ++ [.instruction (.invokeDynamic site)] →
        site.Binds functional interface handle captured → handle.handleArity? = some arity →
          captured.length + functional.type.parameters.length = arity := by
  refine ⟨by decide, ?_⟩
  intro always
  have binds : objectCapturingSite.Binds supplierGet .supplier
      (.methodHandle .newInvokeSpecial argumentConstructor) [.object ⟨"A"⟩, .int .int] :=
    ⟨rfl, .cons rfl (.cons rfl .nil), rfl, rfl, rfl⟩
  have agree := always plainRoutine objectAndArgument Standard.graph
    (.lambda argumentConstructor .supplier) .supplier supplierGet _ rfl (by decide) rfl
    objectCapturingSite _ _ 1 (by decide) binds rfl
  exact absurd agree (by decide)

end Builder

end TypedBytecode
