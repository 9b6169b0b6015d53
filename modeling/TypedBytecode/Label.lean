/-!
Contract: labels, and a supply that never gives the same label twice.
-/

namespace TypedBytecode

/-- A position in the code of a routine. -/
structure Label where
  index : Nat
deriving DecidableEq, Repr

namespace Label

def text (label : Label) : String :=
  "l" ++ toString label.index

def listText (labels : List Label) : String :=
  "[" ++ String.intercalate ", " (labels.map text) ++ "]"

end Label

/-- The label that is given out next; those after it follow in order. -/
structure LabelSupply where
  upcoming : Label
deriving DecidableEq, Repr

namespace LabelSupply

def startingAt (label : Label) : LabelSupply := ⟨label⟩

def fresh (supply : LabelSupply) : Label × LabelSupply :=
  (supply.upcoming, ⟨⟨supply.upcoming.index + 1⟩⟩)

end LabelSupply

end TypedBytecode
