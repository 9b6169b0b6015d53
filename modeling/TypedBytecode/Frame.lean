import TypedBytecode.ValueType

/-!
Contract: the local slots and the operand stack at one point of the code.

Owns:
- frames, with locals by slot and the stack by value, its top first;
- the value view of the locals, in which a wide local counts once;
- adding and removing the last local;
- snapshots, which remember the frames they were described against.

Does not own: how one frame is described relative to another.
-/

namespace TypedBytecode

/-- Locals are indexed by slot, and a wide local is followed by `top`. The stack has one
entry per value, the top of the stack first. -/
structure Frame where
  locals : List ValueType
  stack : List ValueType
deriving DecidableEq, Repr

namespace Frame

def empty : Frame := ⟨[], []⟩

def push (frame : Frame) (value : ValueType) : Frame :=
  { frame with stack := value :: frame.stack }

def drop (frame : Frame) (count : Nat) : Frame :=
  { frame with stack := frame.stack.drop count }

/-- Size of the operand stack in slots. -/
def stackWidth (frame : Frame) : Nat :=
  totalWidth ValueType.width frame.stack

/-- The slots that one local takes. -/
def slots (value : ValueType) : List ValueType :=
  if value.isWide then [value, .top] else [value]

/-- Locals with one entry per value: a `top` right after a wide local is left out, any other
`top` is a slot of its own and stays. -/
def valuesFrom : Bool → List ValueType → List ValueType
  | _, [] => []
  | afterWide, value :: rest =>
    let values := valuesFrom (!afterWide && value.isWide) rest
    if afterWide && value == .top then values else value :: values

def localValues (frame : Frame) : List ValueType :=
  valuesFrom false frame.locals

/-- Frame with the given locals, one entry per value. -/
def ofValues (values stack : List ValueType) : Frame :=
  ⟨values.flatMap slots, stack⟩

/-- Add locals, one entry per value, after those in use. -/
def pushLocals (frame : Frame) (values : List ValueType) : Frame :=
  { frame with locals := frame.locals ++ values.flatMap slots }

def pushLocal (frame : Frame) (value : ValueType) : Frame :=
  frame.pushLocals [value]

/-- Remove the last local, with both slots if it is wide. -/
def popLocal? (frame : Frame) : Option (ValueType × Frame) :=
  match frame.locals.getLast? with
  | none => none
  | some .top =>
    match frame.locals.dropLast.getLast? with
    | some value =>
      if value.isWide then
        some (value, { frame with locals := frame.locals.dropLast.dropLast })
      else some (.top, { frame with locals := frame.locals.dropLast })
    | none => some (.top, { frame with locals := frame.locals.dropLast })
  | some value => some (value, { frame with locals := frame.locals.dropLast })

def text (frame : Frame) : String :=
  "\x7blocals: " ++ ValueType.listText frame.locals ++ ", stack: " ++
    ValueType.listText frame.stack.reverse ++ "\x7d"

end Frame

/-- A frame with the chain of frames it was described against, the nearest first. The chain
is kept for diagnosis only. -/
structure Snapshot where
  frame : Frame
  origins : List Frame
deriving DecidableEq, Repr

namespace Snapshot

def ofFrame (frame : Frame) : Snapshot := ⟨frame, []⟩

/-- A frame described against a snapshot. -/
def describedAgainst (frame : Frame) (base : Snapshot) : Snapshot :=
  ⟨frame, base.frame :: base.origins⟩

def history (snapshot : Snapshot) : List Frame :=
  snapshot.frame :: snapshot.origins

end Snapshot

end TypedBytecode
