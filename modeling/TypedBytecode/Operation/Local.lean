import TypedBytecode.Operation.Effect

/-!
Contract: reading and writing local slots.

Owns:
- loads, stores and increments of a slot, which has to hold a value;
- new locals, which come after those in use, and the end of the last one;
- the bound of 16 bits on the slots that an instruction can name.

Does not own: how an operation finds its slot.
-/

namespace TypedBytecode.Effect

/-- The last slot that an instruction can name. -/
def lastSlot : Nat := 65535

def slotIndex (operation : String) (slot : Nat) : Except Error UInt16 :=
  if slot ≤ lastSlot then .ok (UInt16.ofNat slot)
  else .error (.invalidLocal operation slot (.outOfRange lastSlot))

def loadSlot (operation : String) (slot : Nat) : Effect :=
  fun frame => do
    let value ← frame.localAt operation slot
    let index ← slotIndex operation slot
    .ok (frame.push value, [.load (.ofValue value) index])

/-- Move the top value to a new local. -/
def storeNew (graph : ClassGraph) (operation : String) : Effect :=
  fun frame => do
    let (value, rest) ← frame.pop1 operation
    if Requirement.any.accepts graph value then
      let index ← slotIndex operation rest.locals.length
      .ok (rest.pushLocal value, [.store (.ofValue value) index])
    else .error (.typeMismatch operation (.operands [.any]) (.operands [value]))

/-- Move the top value to a slot in use, which keeps its type. -/
def storeSlot (graph : ClassGraph) (operation : String) (slot : Nat) : Effect :=
  fun frame => do
    let value ← frame.localAt operation slot
    let (_, rest) ← frame.take graph operation [.assignableTo value]
    let index ← slotIndex operation slot
    .ok (rest, [.store (.ofValue value) index])

def incrementSlot (operation : String) (slot : Nat) (delta : Int16) : Effect :=
  fun frame => do
    let value ← frame.localAt operation slot
    if value.isIntLike then
      let index ← slotIndex operation slot
      .ok (frame, [.increment index delta])
    else .error (.typeMismatch operation .intLocal (.localType value))

/-- End the last local. No code is emitted. -/
def killLast (operation : String) : Effect :=
  fun frame =>
    match frame.popLocal? with
    | some (_, rest) => .ok (rest, [])
    | none => .error (.invalidLocal operation 0 (.outOfRange 0))

end TypedBytecode.Effect
