import TypedBytecode.Frame

/-!
Contract: compact descriptions of a frame relative to an earlier frame.

Owns:
- the five kinds of description;
- `Frame.diff`, which finds the description of a frame, and `Frame.applyDelta?`, which decodes one.

Does not own: which earlier frame a description is relative to.
-/

namespace TypedBytecode

/-- Description of a frame relative to an earlier one. Locals are listed by value, and a stack
has its top first. -/
inductive FrameDelta where
  | same
  | sameOneStack (value : ValueType)
  | append (locals : List ValueType)
  | chop (locals : List ValueType)
  | full (locals stack : List ValueType)
deriving DecidableEq, Repr

def FrameDelta.text : FrameDelta → String
  | .same => "same"
  | .sameOneStack value => "same1 " ++ value.text
  | .append locals => "append " ++ ValueType.listText locals
  | .chop locals => "chop " ++ ValueType.listText locals
  | .full locals stack =>
    "full locals=" ++ ValueType.listText locals ++ " stack=" ++ ValueType.listText stack.reverse

namespace Frame

/-- Most locals that one description adds or removes. -/
def maxLocalsDelta : Nat := 3

/-- The locals that `longer` has after those of `shorter`, if these come first and the rest
is short enough to be listed. -/
def extension? (shorter longer : List ValueType) : Option (List ValueType) :=
  if shorter.length < longer.length ∧ longer.length - shorter.length ≤ maxLocalsDelta ∧
      longer.take shorter.length = shorter then
    some (longer.drop shorter.length)
  else none

/-- Description of a frame relative to `previous`. Equal frames come first, then added and
removed locals with an empty stack, then one stack value over the same locals. -/
def diff (frame previous : Frame) : FrameDelta :=
  if frame = previous then .same
  else
    match frame.stack with
    | [] =>
      match extension? previous.localValues frame.localValues with
      | some added => .append added
      | none =>
        match extension? frame.localValues previous.localValues with
        | some removed => .chop removed
        | none => .full frame.localValues []
    | [value] =>
      if frame.localValues = previous.localValues then .sameOneStack value
      else .full frame.localValues [value]
    | stack => .full frame.localValues stack

/-- The frame that a description describes relative to `previous`, unless it names locals to
remove that are not the last ones. -/
def applyDelta? (previous : Frame) : FrameDelta → Option Frame
  | .same => some (ofValues previous.localValues [])
  | .sameOneStack value => some (ofValues previous.localValues [value])
  | .append locals => some (ofValues (previous.localValues ++ locals) [])
  | .chop locals =>
    let values := previous.localValues
    let kept := values.length - locals.length
    if locals.length ≤ values.length ∧ values.drop kept = locals then
      some (ofValues (values.take kept) [])
    else none
  | .full locals stack => some (ofValues locals stack)

end Frame

end TypedBytecode
