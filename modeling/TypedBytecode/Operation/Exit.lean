import TypedBytecode.ClassGraph.Standard
import TypedBytecode.Operation.Effect

/-!
Contract: leaving a routine by a throw or a return.
-/

namespace TypedBytecode.Effect

def throwValue (graph : ClassGraph) (operation : String) : Effect :=
  consuming graph operation [.assignableTo (.object .throwable)] [] .throwReference

/-- Return the declared result, or nothing. -/
def returnValue (graph : ClassGraph) (operation : String) (result : Option FieldType) : Effect :=
  match result with
  | none => fun frame => .ok (frame, [.returnVoid])
  | some type =>
    consuming graph operation [.assignableTo (.ofFieldType type)] []
      (.returnValue (.ofValue (.ofFieldType type)))

end TypedBytecode.Effect
