import TypedBytecode.Error

/-!
Contract: the operands that operations take off a frame.

Owns:
- the topmost values of the stack, and the failure when there are too few;
- the check of operands against requirements, listed from the lowest operand to the top;
- the type of a local slot, and the failure when it cannot be used.

Nothing here changes a frame that fails a check.
-/

namespace TypedBytecode.Frame

def underflow (frame : Frame) (operation : String) (required : Nat) : Error :=
  .stackUnderflow operation required frame.stack.length

/-- The topmost `count` values, the lowest first. -/
def topOperands (frame : Frame) (operation : String) (count : Nat) :
    Except Error (List ValueType) :=
  if frame.stack.length < count then .error (frame.underflow operation count)
  else .ok (frame.stack.take count).reverse

/-- The topmost value, and the frame without it. -/
def pop1 (frame : Frame) (operation : String) : Except Error (ValueType × Frame) :=
  match frame.stack with
  | upper :: rest => .ok (upper, { frame with stack := rest })
  | _ => .error (frame.underflow operation 1)

/-- The two topmost values, the lower one first, and the frame without them. -/
def pop2 (frame : Frame) (operation : String) : Except Error (ValueType × ValueType × Frame) :=
  match frame.stack with
  | upper :: lower :: rest => .ok (lower, upper, { frame with stack := rest })
  | _ => .error (frame.underflow operation 2)

/-- The three topmost values, the lowest first, and the frame without them. -/
def pop3 (frame : Frame) (operation : String) :
    Except Error (ValueType × ValueType × ValueType × Frame) :=
  match frame.stack with
  | upper :: middle :: lower :: rest =>
    .ok (lower, middle, upper, { frame with stack := rest })
  | _ => .error (frame.underflow operation 3)

def satisfies (graph : ClassGraph) (requirements : List Requirement)
    (operands : List ValueType) : Bool :=
  (requirements.zip operands).all (fun pair => pair.1.accepts graph pair.2)

/-- The topmost values, if they meet the requirements one by one. -/
def checkOperands (graph : ClassGraph) (frame : Frame) (operation : String)
    (requirements : List Requirement) : Except Error (List ValueType) := do
  let operands ← frame.topOperands operation requirements.length
  if satisfies graph requirements operands then .ok operands
  else .error (.typeMismatch operation (.operands requirements) (.operands operands))

/-- Take operands that meet the requirements off the stack. -/
def take (graph : ClassGraph) (frame : Frame) (operation : String)
    (requirements : List Requirement) : Except Error (List ValueType × Frame) := do
  let operands ← checkOperands graph frame operation requirements
  .ok (operands, frame.drop requirements.length)

/-- The type in a local slot that holds a value. -/
def localAt (frame : Frame) (operation : String) (slot : Nat) : Except Error ValueType :=
  match frame.locals[slot]? with
  | none => .error (.invalidLocal operation slot (.outOfRange frame.locals.length))
  | some .top => .error (.invalidLocal operation slot .placeholder)
  | some value => .ok value

end TypedBytecode.Frame
