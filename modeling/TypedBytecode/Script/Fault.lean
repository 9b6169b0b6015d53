import TypedBytecode.Error

/-!
Contract: the causes for which a script is refused.

Owns:
- what can be wrong with the wording of a line;
- the error of a script: the line and either its wording or the cause found in assembling it;
- messages and records of both.
-/

namespace TypedBytecode

namespace Script

/-- What is wrong with the wording of a line. -/
inductive SyntaxFault where
  | missingHeader
  | notHeader (line : String)
  | argumentCount (operation : String) (expected found : Nat)
  | staticness (found : String)
  | unknownMethodKind (found : String)
  | unknownConstantKind (found : String)
  | incompleteConstant
  | unknownPrimitive (found : String)
  | unknownComparison (found : String)
  | storeArguments
  | unknownOperation (found : String)
  | notReference (descriptor : String)
  | value (role found : String)
  | name (error : NameError)

def SyntaxFault.message : SyntaxFault → String
  | .missingHeader => "missing `routine` header"
  | .notHeader line => s!"expected `routine` header but found `{line}`"
  | .argumentCount operation expected found =>
    s!"`{operation}` takes {expected} arguments but got {found}"
  | .staticness found => s!"expected `static` or `instance` but found `{found}`"
  | .unknownMethodKind found => s!"unknown method kind `{found}`"
  | .unknownConstantKind found => s!"unknown constant kind `{found}`"
  | .incompleteConstant => "`const` needs a kind and a value"
  | .unknownPrimitive found => s!"unknown primitive type `{found}`"
  | .unknownComparison found => s!"unknown comparison `{found}`"
  | .storeArguments => "`store` takes at most one argument"
  | .unknownOperation found => s!"unknown operation `{found}`"
  | .notReference descriptor => s!"expected a reference type but found `{descriptor}`"
  | .value role found => s!"invalid {role} `{found}`"
  | .name error => error.message

/-- Why one line is refused. -/
inductive Fault where
  | wording (fault : SyntaxFault)
  | assembly (error : Error)

def Fault.message : Fault → String
  | .wording fault => fault.message
  | .assembly error => error.message

end Script

/-- Why a script is refused: the number of a line and what is wrong there. -/
structure ScriptError where
  line : Nat
  fault : Script.Fault

namespace ScriptError

def message (error : ScriptError) : String :=
  s!"line {error.line}: " ++ error.fault.message

def kind (error : ScriptError) : String :=
  match error.fault with
  | .wording _ => "Syntax"
  | .assembly cause => cause.kind

/-- The cause found in assembling the line, if its wording is right. -/
def cause? (error : ScriptError) : Option Error :=
  match error.fault with
  | .wording _ => none
  | .assembly cause => some cause

def record (error : ScriptError) : String :=
  match error.fault with
  | .wording fault =>
    Record.fields "Syntax" [("line", s!"{error.line}"), ("message", Text.quoted fault.message)]
  | .assembly cause =>
    Record.fields "Assembly" [("line", s!"{error.line}"), ("error", cause.record)]

end ScriptError

end TypedBytecode
