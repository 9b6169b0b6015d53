import TypedBytecode.Operation.Effect

/-!
Contract: moving, copying and dropping values on the stack.

Owns: the choice of an instruction by the widths of the values it moves, so that no value is
ever split.
-/

namespace TypedBytecode.Effect

/-- Swap two values of one slot each. -/
def swap (graph : ClassGraph) (operation : String) : Effect :=
  fun frame => do
    let (lower, upper, rest) ← frame.pop2 operation
    if Frame.satisfies graph [.category1, .category1] [lower, upper] then
      .ok ((rest.push upper).push lower, [.swap])
    else
      .error (.typeMismatch operation (.operands [.category1, .category1])
        (.operands [lower, upper]))

def pop (operation : String) : Effect :=
  fun frame => do
    let (value, rest) ← frame.pop1 operation
    .ok (rest, [if value.isWide then .pop2 else .pop])

def dup (operation : String) : Effect :=
  fun frame => do
    let (value, _) ← frame.pop1 operation
    .ok (frame.push value, [if value.isWide then .dup2 else .dup])

/-- Put a copy of the top value beneath the value under it. -/
def dupUnder (operation : String) : Effect :=
  fun frame => do
    let (lower, upper, rest) ← frame.pop2 operation
    let instruction : Instruction :=
      match upper.isWide, lower.isWide with
      | false, false => .dupX1
      | false, true => .dupX2
      | true, false => .dup2X1
      | true, true => .dup2X2
    .ok (((rest.push upper).push lower).push upper, [instruction])

end TypedBytecode.Effect
