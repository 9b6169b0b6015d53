/-!
Contract: the primitive types, their keyword, descriptor letter and width.
-/

namespace TypedBytecode

inductive Primitive where
  | boolean
  | byte
  | char
  | short
  | int
  | long
  | float
  | double
deriving DecidableEq, Repr

namespace Primitive

def all : List Primitive :=
  [.boolean, .byte, .char, .short, .int, .long, .float, .double]

def letter : Primitive → Char
  | .boolean => 'Z'
  | .byte => 'B'
  | .char => 'C'
  | .short => 'S'
  | .int => 'I'
  | .long => 'J'
  | .float => 'F'
  | .double => 'D'

def ofLetter? (c : Char) : Option Primitive :=
  all.find? (fun primitive => primitive.letter == c)

def keyword : Primitive → String
  | .boolean => "boolean"
  | .byte => "byte"
  | .char => "char"
  | .short => "short"
  | .int => "int"
  | .long => "long"
  | .float => "float"
  | .double => "double"

def ofKeyword? (word : String) : Option Primitive :=
  all.find? (fun primitive => primitive.keyword == word)

/-- Number of slots a value takes, on the operand stack and in the locals. -/
def width : Primitive → Nat
  | .long | .double => 2
  | _ => 1

end Primitive

end TypedBytecode
