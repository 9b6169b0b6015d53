import TypedBytecode.Code
import TypedBytecode.Frame.Delta
import TypedBytecode.Instruction.Text

/-!
Contract: assembled code as it is handed out.

Owns:
- emissions: labels, frames and instructions in code order;
- the space that a routine needs;
- listings and their text, one line for each emission and one for the size.
-/

namespace TypedBytecode

/-- Deepest operand stack and most local slots in use, both in slots. -/
structure CodeSize where
  maxStack : Nat
  maxLocals : Nat
deriving DecidableEq, Repr

inductive Emission where
  | label (position : Label)
  | frame (delta : FrameDelta)
  | instruction (emitted : Instruction)
deriving DecidableEq, Repr

structure Listing where
  emissions : List Emission
  size : CodeSize
deriving DecidableEq, Repr

namespace Emission

def text : Emission → String
  | .label position => position.text ++ ":"
  | .frame delta => "  [frame " ++ delta.text ++ "]"
  | .instruction emitted => "  " ++ emitted.text

def instruction? : Emission → Option Instruction
  | .instruction emitted => some emitted
  | _ => none

def isInstruction : Emission → Bool
  | .instruction _ => true
  | _ => false

end Emission

def CodeSize.text (size : CodeSize) : String :=
  "  ; max_stack=" ++ toString size.maxStack ++ " max_locals=" ++ toString size.maxLocals

namespace Listing

def instructions (listing : Listing) : Code :=
  listing.emissions.filterMap Emission.instruction?

/-- Lines, each ended by a line feed. -/
def unlines (lines : List String) : String :=
  String.join (lines.map (fun line => line ++ "\n"))

def lines (listing : Listing) : List String :=
  listing.emissions.map Emission.text ++ [listing.size.text]

def text (listing : Listing) : String :=
  unlines listing.lines

/-- The listing without its instructions. -/
def framesOnly (listing : Listing) : Listing :=
  { listing with emissions := listing.emissions.filter (fun emission => !emission.isInstruction) }

end Listing

end TypedBytecode
