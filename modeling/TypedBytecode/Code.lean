import TypedBytecode.Instruction

/-!
Contract: straight-line code without type tracking, and how far it grows the stack.
-/

namespace TypedBytecode

abbrev Code := List Instruction

namespace Code

/-- Net change of the stack over the whole code, in slots. -/
def growth : Code → Int
  | [] => 0
  | instruction :: rest => instruction.stackEffect + growth rest

/-- Largest growth of the stack that any beginning of the code reaches. The empty beginning
counts, so the growth is never negative. -/
def maxGrowth : Code → Int
  | [] => 0
  | instruction :: rest => max 0 (instruction.stackEffect + maxGrowth rest)

/-- Does the last instruction keep control from passing on? -/
def isTerminal (code : Code) : Bool :=
  code.getLast?.any Instruction.isTerminal

end Code

end TypedBytecode
