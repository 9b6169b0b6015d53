import TypedBytecode.Descriptor.Reader
import TypedBytecode.Frame.Delta
import TypedBytecode.Frame.Requirement
import TypedBytecode.Label
import TypedBytecode.NumericKind
import TypedBytecode.Text.Quoted
import TypedBytecode.Text.Record

/-!
Contract: the causes for which assembling fails.

Owns:
- one constructor per cause, carrying the frames, types and members that were found;
- the one-line message of every cause;
- the record of every cause, in which each field is spelled out.

Does not own: line numbers, or the moment at which a cause arises.
-/

namespace TypedBytecode

/-- What an operation would have accepted. -/
inductive Expectation where
  | operands (requirements : List Requirement)
  | sameKind (count : Nat) (kinds : List NumericKind)
  | shiftOperands
  | bothOf (kind : NumericKind)
  | comparableOperands
  | convertibleTo (target : Primitive)
  | arrayStoreOperands
  | primitiveValue
  | boxedValue
  | intLocal
  | parameterCount (atLeast : Nat)
  | accessor

/-- What an operation found instead. -/
inductive Finding where
  | operands (values : List ValueType)
  | localType (value : ValueType)
  | method (found : Method)
  | functional (found : Method)

/-- Why a local slot cannot be used. -/
inductive LocalFault where
  | outOfRange (inUse : Nat)
  | placeholder
  | noReceiver
  | noSuchParameter (parameters : Nat)
deriving DecidableEq, Repr

/-- Why the frame at a label is not settled. -/
inductive LabelFault where
  | incompatibleFrames (found expected : Frame)
  | backwardJumpMismatch (found expected : Frame)
  | missingSourceFrame (source : Label)
  | unreferenced
  | alreadyPlaced
  | unfitDelta (delta : FrameDelta)
deriving DecidableEq, Repr

/-- A member, or the root class, that does not exist. -/
inductive Absence where
  | field (owner : ClassName) (name : String)
  | functionalMethod (interface : ClassName)
  | rootClass

/-- An overflow is no refusal: the run is cut off at a sum that is too great for its machine
word. -/
inductive Error where
  | typeMismatch (operation : String) (expected : Expectation) (found : Finding)
  | invalidLocal (operation : String) (slot : Nat) (fault : LocalFault)
  | stackUnderflow (operation : String) (required found : Nat)
  | frameConsistency (label : Label) (fault : LabelFault)
  | unresolvedLabels (labels : List Label)
  | unreachableCode (operation : String)
  | tooManyArguments (method : Method) (slots : Nat)
  | missingMember (absence : Absence)
  | badDescriptor (error : Descriptor.ReadError)
  | overflow

/-- The cause of a descriptor that could not be read. -/
def Error.ofReading : Descriptor.Halt Descriptor.ReadError → Error
  | .refused error => .badDescriptor error
  | .overflow => .overflow

/-! ## Messages -/

def Expectation.text : Expectation → String
  | .operands requirements => Requirement.listText requirements
  | .sameKind count kinds =>
    toString count ++ " operands, all " ++
      String.intercalate " or " (kinds.map NumericKind.text)
  | .shiftOperands => "int-like or long value, then int-like distance"
  | .bothOf kind => "[" ++ kind.text ++ ", " ++ kind.text ++ "]"
  | .comparableOperands => "two long, float or double"
  | .convertibleTo target => "numeric value convertible to " ++ target.keyword
  | .arrayStoreOperands => "[array, int-like, component]"
  | .primitiveValue => "primitive"
  | .boxedValue => "box of a primitive"
  | .intLocal => "int-like local"
  | .parameterCount atLeast => "method with at least " ++ toString atLeast ++ " parameters"
  | .accessor => "functional method with at most one parameter"

def Finding.text : Finding → String
  | .operands values => ValueType.listText values
  | .localType value => value.text
  | .method found => found.text
  | .functional found =>
    found.text ++ " with " ++ toString found.type.parameters.length ++ " parameters"

def LocalFault.message : LocalFault → String
  | .outOfRange inUse => "only " ++ toString inUse ++ " slots are in use"
  | .placeholder => "second half of a wide value"
  | .noReceiver => "routine is static"
  | .noSuchParameter parameters => "routine has " ++ toString parameters ++ " parameters"

def LabelFault.message : LabelFault → String
  | .incompatibleFrames found expected =>
    "incoming frame " ++ found.text ++ " does not match " ++ expected.text
  | .backwardJumpMismatch found expected =>
    "backward jump brings " ++ found.text ++ " but the label was declared with " ++
      expected.text
  | .missingSourceFrame source => "source label " ++ source.text ++ " has not been declared"
  | .unreferenced => "declared without any jump referring to it"
  | .alreadyPlaced => "declared twice"
  | .unfitDelta delta => "frame " ++ delta.text ++ " does not fit the entry frame"

def Absence.text : Absence → String
  | .field owner name => owner.text ++ "." ++ name
  | .functionalMethod interface =>
    interface.text ++ " is not an interface with a single abstract method"
  | .rootClass => ClassName.object.text

namespace Error

def message : Error → String
  | .typeMismatch operation expected found =>
    operation ++ ": expected " ++ expected.text ++ " on the stack but found " ++ found.text
  | .invalidLocal operation slot fault =>
    operation ++ ": local " ++ toString slot ++ " cannot be used (" ++ fault.message ++ ")"
  | .stackUnderflow operation required found =>
    operation ++ ": needs " ++ toString required ++
      " values on the stack but there are only " ++ toString found
  | .frameConsistency label fault => "label " ++ label.text ++ ": " ++ fault.message
  | .unresolvedLabels labels =>
    "labels jumped to but never declared: " ++ Label.listText labels
  | .unreachableCode operation =>
    operation ++ ": unreachable, declare a label before adding more code"
  | .tooManyArguments method slots =>
    method.text ++ " takes " ++ toString slots ++ " argument slots, more than 255"
  | .missingMember absence => "cannot find member " ++ absence.text
  | .badDescriptor error => "bad descriptor: " ++ error.text
  | .overflow => "attempt to add with overflow"

end Error

/-! ## Records -/

def LocalFault.record : LocalFault → String
  | .outOfRange inUse => Record.fields "OutOfRange" [("locals", toString inUse)]
  | .placeholder => "Placeholder"
  | .noReceiver => "NoReceiver"
  | .noSuchParameter parameters =>
    Record.fields "NoSuchParameter" [("parameters", toString parameters)]

def LabelFault.record : LabelFault → String
  | .incompatibleFrames found expected =>
    Record.fields "IncompatibleFrames"
      [("found", Text.quoted found.text), ("expected", Text.quoted expected.text)]
  | .backwardJumpMismatch found expected =>
    Record.fields "BackwardJumpMismatch"
      [("found", Text.quoted found.text), ("expected", Text.quoted expected.text)]
  | .missingSourceFrame source => Record.single "MissingSourceFrame" source.text
  | .unreferenced => "UnreferencedLabel"
  | .alreadyPlaced => "AlreadyPlaced"
  | .unfitDelta delta => Record.single "UnfitDescriptor" (Text.quoted delta.text)

namespace Error

/-- Name of the kind of cause. -/
def kind : Error → String
  | .typeMismatch _ _ _ => "TypeMismatch"
  | .invalidLocal _ _ _ => "InvalidLocal"
  | .stackUnderflow _ _ _ => "StackUnderflow"
  | .frameConsistency _ _ => "FrameConsistency"
  | .unresolvedLabels _ => "UnresolvedLabel"
  | .unreachableCode _ => "UnreachableCode"
  | .tooManyArguments _ _ => "TooManyArguments"
  | .missingMember _ => "MissingMember"
  | .badDescriptor _ => "BadDescriptor"
  | .overflow => "Overflow"

def record (error : Error) : String :=
  match error with
  | .typeMismatch operation expected found =>
    Record.fields error.kind
      [("operation", Text.quoted operation), ("expected", Text.quoted expected.text),
        ("found", Text.quoted found.text)]
  | .invalidLocal operation slot fault =>
    Record.fields error.kind
      [("operation", Text.quoted operation), ("slot", toString slot), ("reason", fault.record)]
  | .stackUnderflow operation required found =>
    Record.fields error.kind
      [("operation", Text.quoted operation), ("required", toString required),
        ("found", toString found)]
  | .frameConsistency label fault =>
    Record.fields error.kind [("label", label.text), ("kind", fault.record)]
  | .unresolvedLabels labels => Record.single error.kind (Label.listText labels)
  | .unreachableCode operation =>
    Record.fields error.kind [("operation", Text.quoted operation)]
  | .tooManyArguments method slots =>
    Record.fields error.kind
      [("method", Text.quoted method.text), ("slots", toString slots)]
  | .missingMember absence => Record.single error.kind (Text.quoted absence.text)
  | .badDescriptor cause => Record.single error.kind (Text.quoted cause.text)
  | .overflow => error.kind

end Error

end TypedBytecode
