import TypedBytecode.ClassGraph.Standard
import TypedBytecode.Operation.Effect

/-!
Contract: invoking methods and turning members into functional interface instances.

Owns:
- how a method is invoked and what its handle does;
- receivers and arguments, checked against the declared types;
- the values that a lambda captures, and its call site.

Some causes are found before any frame is looked at. Functions that can fail this way give
their effect inside the result.
-/

namespace TypedBytecode

namespace ClassGraph

/-- The only way to invoke a method, calls to a superclass apart. An interface call counts its
argument slots in one byte. -/
def invokeKind (graph : ClassGraph) (method : Method) : Except Error InvokeKind :=
  if method.isStatic then .ok .static
  else if !method.isOverridable then .ok .special
  else if graph.isInterface method.owner then
    let slots := method.type.argumentWidth true
    if slots < 256 then .ok (.interface (UInt8.ofNat slots))
    else .error (.tooManyArguments method slots)
  else .ok .virtual

def methodHandleKind (graph : ClassGraph) (method : Method) : HandleKind :=
  if method.isStatic then .invokeStatic
  else if method.isConstructor then .newInvokeSpecial
  else if graph.isInterface method.owner then .invokeInterface
  else if !method.isOverridable then .invokeSpecial
  else .invokeVirtual

end ClassGraph

namespace Effect

/-- What a call asks for: the receiver, if there is one, then the arguments. -/
def callRequirements (method : Method) (receiver : ClassName) : List Requirement :=
  (if method.isStatic then [] else [.assignableTo (.object receiver)]) ++
    method.type.parameters.map (fun parameter => .assignableTo (.ofFieldType parameter))

def invokeAs (graph : ClassGraph) (operation : String) (method : Method)
    (receiver : ClassName) (kind : InvokeKind) : Effect :=
  consuming graph operation (callRequirements method receiver)
    (method.type.result.map .ofFieldType).toList (.invoke kind method)

def invoke (graph : ClassGraph) (operation : String) (method : Method) :
    Except Error Effect := do
  let kind ← graph.invokeKind method
  .ok (invokeAs graph operation method method.owner kind)

/-- Invoke just this implementation, with the receiver checked against `target`. -/
def invokeOn (graph : ClassGraph) (operation : String) (method : Method)
    (target : ClassName) : Effect :=
  invokeAs graph operation method target (if method.isStatic then .static else .special)

/-! ## Lambdas -/

def functionalMethod (graph : ClassGraph) (interface : ClassName) : Except Error Method :=
  match graph.functionalMethod? interface with
  | some functional => .ok functional
  | none => .error (.missingMember (.functionalMethod interface))

/-- Call site that captures values of the given types and makes an instance of the interface
out of a handle. -/
def lambdaSite (functional : Method) (interface : ClassName) (handle : Constant)
    (captured : List FieldType) : CallSite where
  name := functional.name
  type := ⟨captured, some (.object interface)⟩
  bootstrap := Standard.metafactory
  arguments := [.methodType functional.type, handle, .methodType functional.type]

/-- Capture operands in an instance of the interface. -/
def bindLambda (graph : ClassGraph) (operation : String) (requirements : List Requirement)
    (functional : Method) (interface : ClassName) (handle : Constant) : Effect :=
  fun frame => do
    let (operands, rest) ← frame.take graph operation requirements
    let captured := operands.filterMap ValueType.fieldType?
    .ok (rest.push (.object interface),
      [.invokeDynamic (lambdaSite functional interface handle captured)])

/-- What is asked of the values that a method captures. With equal numbers of parameters only
a receiver is captured. Otherwise the value taken off the stack in place `n` lines up with
parameter `n` of the functional method, and values beyond its parameters are free. -/
def captureRequirements (method functional : Method) (captures : Nat) : List Requirement :=
  if method.type.parameters.length = functional.type.parameters.length then
    if method.isStatic then [] else [.assignableTo (.object method.owner)]
  else
    (List.range captures).reverse.map (fun place =>
      match functional.type.parameters[place]? with
      | some parameter => .assignableTo (.ofFieldType parameter)
      | none => .any)

/-- Make a method an instance of an interface. -/
def lambda (graph : ClassGraph) (operation : String) (method : Method)
    (interface : ClassName) : Except Error Effect := do
  let functional ← functionalMethod graph interface
  let available := method.type.parameters.length + (if method.isStatic then 0 else 1)
  let needed := functional.type.parameters.length
  if available < needed then
    .error (.typeMismatch operation (.parameterCount needed) (.method method))
  else
    .ok (bindLambda graph operation
      (captureRequirements method functional (available - needed)) functional interface
      (.methodHandle (graph.methodHandleKind method) method))

/-- A functional method without parameters reads a field, one with a parameter writes it. -/
def fieldHandleKind? (field : Field) (parameters : Nat) : Option HandleKind :=
  match parameters, field.isStatic with
  | 0, true => some .getStatic
  | 0, false => some .getField
  | 1, true => some .putStatic
  | 1, false => some .putField
  | _, _ => none

/-- Make a field an instance of an interface. An instance field captures its object. -/
def lambdaField (graph : ClassGraph) (operation : String) (field : Field)
    (interface : ClassName) : Except Error Effect := do
  let functional ← functionalMethod graph interface
  match fieldHandleKind? field functional.type.parameters.length with
  | none => .error (.typeMismatch operation .accessor (.functional functional))
  | some kind =>
    .ok (bindLambda graph operation
      (if field.isStatic then [] else [.assignableTo (.object field.owner)])
      functional interface (.fieldHandle kind field))

end Effect

end TypedBytecode
