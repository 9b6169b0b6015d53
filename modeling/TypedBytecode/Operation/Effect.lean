import TypedBytecode.Code
import TypedBytecode.Frame.Operands

/-!
Contract: what a straight-line operation does.

An effect takes the frame before an operation to the frame after it and the code that is
emitted, or fails with a cause and does nothing.
-/

namespace TypedBytecode

abbrev Effect := Frame → Except Error (Frame × Code)

namespace Effect

/-- Push a value of the given type with the given code. -/
def pushing (value : ValueType) (code : Code) : Effect :=
  fun frame => .ok (frame.push value, code)

/-- Check and take operands, with one instruction that pushes the given results, the last of
them on top. -/
def consuming (graph : ClassGraph) (operation : String) (requirements : List Requirement)
    (results : List ValueType) (instruction : Instruction) : Effect :=
  fun frame => do
    let (_, rest) ← frame.take graph operation requirements
    .ok (results.foldl Frame.push rest, [instruction])

end Effect

end TypedBytecode
