import TypedBytecode.Text.Word

/-!
Contract: names of classes and of their members.

Owns:
- the two name types and the rules that admit a text as a name;
- the causes for which a text is refused, and their wording.

Does not own: whether a class of that name exists.
-/

namespace TypedBytecode

/-- Name of a class or interface, its package segments separated by `/`. -/
structure ClassName where
  text : String
deriving DecidableEq, Repr, Inhabited

/-- Name of a method or field. -/
structure MemberName where
  text : String
deriving DecidableEq, Repr, Inhabited

inductive NameError where
  | emptyMember
  | illegalCharacter (text : String)
  | angleBracket (text : String)
  | emptyClass
  | malformedSegment (text : String)
deriving DecidableEq, Repr

def NameError.message : NameError → String
  | .emptyMember => "unqualified name is empty"
  | .illegalCharacter text => "unqualified name '" ++ text ++ "' has an illegal character"
  | .angleBracket text => "unqualified name '" ++ text ++ "' has an angle bracket"
  | .emptyClass => "binary name is empty"
  | .malformedSegment text => "binary name '" ++ text ++ "' has a malformed segment"

namespace ClassName

/-- A package segment is not empty and has none of the characters that descriptors,
member references and constructor names reserve. -/
def isSegment (segment : List Char) : Bool :=
  !segment.isEmpty && segment.all (fun c => !(['.', ';', '[', '<', '>'].contains c))

/-- A class name is a non-empty sequence of segments. -/
def isLegal (text : List Char) : Bool :=
  !text.isEmpty && (Text.splitWhere (· == '/') text).all isSegment

def ofString (text : String) : Except NameError ClassName :=
  if text.toList.isEmpty then .error .emptyClass
  else if isLegal text.toList then .ok ⟨text⟩
  else .error (.malformedSegment text)

def spell (name : ClassName) : List Char :=
  name.text.toList

end ClassName

namespace MemberName

/-- Angle brackets are kept for the two initialiser names. -/
def isSpecial (text : String) : Bool :=
  text == "<init>" || text == "<clinit>"

def ofString (text : String) : Except NameError MemberName :=
  if text.toList.isEmpty then .error .emptyMember
  else if text.toList.any (fun c => ['.', ';', '[', '/'].contains c) then
    .error (.illegalCharacter text)
  else if !isSpecial text && text.toList.any (fun c => ['<', '>'].contains c) then
    .error (.angleBracket text)
  else .ok ⟨text⟩

end MemberName

end TypedBytecode
