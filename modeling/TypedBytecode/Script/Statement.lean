import TypedBytecode.Builder
import TypedBytecode.Number.Reader
import TypedBytecode.Script.Fault
import TypedBytecode.Text.Word

/-!
Contract: the wording of script lines.

Owns:
- statements, in which class names, member names and descriptors are still words;
- the header of a routine;
- reading both from the words of a line.

Does not own: what the words stand for in a class graph.
-/

namespace TypedBytecode.Script

/-- Words for a method: its class, name and descriptor. -/
structure MethodWords where
  owner : String
  name : String
  descriptor : String
deriving DecidableEq, Repr

/-- How a script calls a method. -/
inductive MethodKind where
  | static
  | virtual
  | special
  | interface
deriving DecidableEq, Repr

inductive Statement where
  | field (isStatic : Bool) (name descriptor : String)
  /-- An operation that needs nothing of the class graph. -/
  | operation (operation : Operation)
  | null (descriptor : String)
  | default (descriptor : String)
  | newArray (descriptor : String)
  | newObject (name : String)
  | cast (descriptor : String) (unchecked : Bool)
  | instanceOf (descriptor : String)
  | invoke (kind : MethodKind) (words : MethodWords)
  | lambda (interface staticness : String) (words : MethodWords)
  | lambdaField (interface name : String)
  | jump (branch : Branch) (source : Option String) (target : String)
  | label (name : String)
  | labelFromEntry (name : String)
  | labelFrom (source name : String)
deriving DecidableEq, Repr

/-- The header of a routine. -/
structure Header where
  isStatic : Bool
  words : MethodWords
deriving DecidableEq, Repr

/-! ## Words of fixed meaning -/

def staticness : String → Except SyntaxFault Bool
  | "static" => .ok true
  | "instance" => .ok false
  | found => .error (.staticness found)

def methodKind : String → Except SyntaxFault MethodKind
  | "static" => .ok .static
  | "virtual" => .ok .virtual
  | "instance" => .ok .virtual
  | "special" => .ok .special
  | "interface" => .ok .interface
  | found => .error (.unknownMethodKind found)

/-- Operations that are named by one word without arguments. -/
def plainOperation? : String → Option Operation
  | "add" => some (.arithmetic .add)
  | "sub" => some (.arithmetic .sub)
  | "mul" => some (.arithmetic .mul)
  | "div" => some (.arithmetic .div)
  | "rem" => some (.arithmetic .rem)
  | "neg" => some .negate
  | "and" => some (.bitwise .and)
  | "or" => some (.bitwise .or)
  | "xor" => some (.bitwise .xor)
  | "shl" => some (.shift .left)
  | "shr" => some (.shift .arithmeticRight)
  | "ushr" => some (.shift .logicalRight)
  | "cmpl" => some (.compare false)
  | "cmpg" => some (.compare true)
  | "pop" => some .pop
  | "dup" => some .dup
  | "dup_under" => some .dupUnder
  | "swap" => some .swap
  | "this" => some .loadThis
  | "kill" => some .killLocal
  | "return" => some .returnValue
  | "throw" => some .throwValue
  | "array_load" => some .arrayLoad
  | "array_store" => some .arrayStore
  | "array_length" => some .arrayLength
  | "box" => some .box
  | "unbox" => some .unbox
  | _ => none

/-- The label before a target. A dash stands for the entry of the routine. -/
def sourceLabel (word : String) : Option String :=
  if word = "-" then none else some word

/-! ## Values -/

/-- What a reader makes of a word, with the role of the word in the message. -/
def valueOf {α : Type} (role word : String) (read : List Char → Option α) :
    Except SyntaxFault α :=
  match read word.toList with
  | some value => .ok value
  | none => .error (.value role word)

/-- An index that fits a machine word. -/
def index (role word : String) : Except SyntaxFault UInt64 := do
  let value ← valueOf role word (Number.unsigned? 64)
  .ok (UInt64.ofNat value)

def boolean? : List Char → Option Bool
  | ['t', 'r', 'u', 'e'] => some true
  | ['f', 'a', 'l', 's', 'e'] => some false
  | _ => none

/-- A constant of the given kind. -/
def constant (kind word : String) : Except SyntaxFault Statement :=
  let reading {α : Type} (read : List Char → Option α) (operation : α → Operation) :
      Except SyntaxFault Statement := do
    let value ← valueOf kind word read
    .ok (.operation (operation value))
  match kind with
  | "int" => reading (Number.signed? 32) (fun value => .constInt (Int32.ofInt value))
  | "long" => reading (Number.signed? 64) (fun value => .constLong (Int64.ofInt value))
  | "float" =>
    reading (Number.float? .single) (fun pattern => .constFloat (UInt32.ofNat pattern))
  | "double" =>
    reading (Number.float? .double) (fun pattern => .constDouble (UInt64.ofNat pattern))
  | "bool" => reading boolean? .constBool
  | "char" => reading (Number.unsigned? 16) (fun value => .constChar (UInt16.ofNat value))
  | "byte" => reading (Number.signed? 8) (fun value => .constByte (Int8.ofInt value))
  | "short" => reading (Number.signed? 16) (fun value => .constShort (Int16.ofInt value))
  | "null" => .ok (.null word)
  | found => .error (.unknownConstantKind found)

/-! ## Arguments -/

def noArguments (operation : String) (arguments : List String) (result : Statement) :
    Except SyntaxFault Statement :=
  match arguments with
  | [] => .ok result
  | _ => .error (.argumentCount operation 0 arguments.length)

def oneArgument (operation : String) (arguments : List String)
    (result : String → Except SyntaxFault Statement) : Except SyntaxFault Statement :=
  match arguments with
  | [first] => result first
  | _ => .error (.argumentCount operation 1 arguments.length)

def twoArguments (operation : String) (arguments : List String)
    (result : String → String → Except SyntaxFault Statement) : Except SyntaxFault Statement :=
  match arguments with
  | [first, second] => result first second
  | _ => .error (.argumentCount operation 2 arguments.length)

/-- A conditional jump: the comparison, the source and the target. -/
def conditional {α : Type} (operation : String) (arguments : List String)
    (ofMnemonic? : String → Option α) (branch : α → Branch) : Except SyntaxFault Statement :=
  match arguments with
  | [mnemonic, source, target] =>
    match ofMnemonic? mnemonic with
    | some comparison => .ok (.jump (branch comparison) (sourceLabel source) target)
    | none => .error (.unknownComparison mnemonic)
  | _ => .error (.argumentCount operation 3 arguments.length)

/-! ## Lines -/

/-- The statement of a line, given its text and its words. The text of a string constant is
taken as it stands in the line. -/
def Statement.ofWords (text : List Char) (operation : String) (arguments : List String) :
    Except SyntaxFault Statement :=
  match plainOperation? operation with
  | some plain => noArguments operation arguments (.operation plain)
  | none =>
    match operation with
    | "field" =>
      match arguments with
      | [kind, name, descriptor] => do
        let isStatic ← staticness kind
        .ok (.field isStatic name descriptor)
      | _ => .error (.argumentCount operation 3 arguments.length)
    | "const" =>
      match arguments with
      | kind :: word :: further =>
        if kind = "string" then
          .ok (.operation (.constString (String.ofList (Text.restAfter text 2))))
        else if further.isEmpty then constant kind word
        else .error (.argumentCount operation 2 arguments.length)
      | _ => .error .incompleteConstant
    | "default" => oneArgument operation arguments (fun descriptor => .ok (.default descriptor))
    | "convert" =>
      oneArgument operation arguments (fun keyword =>
        match Primitive.ofKeyword? keyword with
        | some primitive => .ok (.operation (.convert primitive))
        | none => .error (.unknownPrimitive keyword))
    | "load_param" =>
      oneArgument operation arguments (fun word => do
        let parameter ← index "parameter index" word
        .ok (.operation (.loadParameter parameter)))
    | "load" =>
      oneArgument operation arguments (fun word => do
        let slot ← index "local index" word
        .ok (.operation (.loadLocal slot)))
    | "store" =>
      match arguments with
      | [] => .ok (.operation .storeLocal)
      | [word] => do
        let slot ← index "local index" word
        .ok (.operation (.storeLocalAt slot))
      | _ => .error .storeArguments
    | "inc" =>
      twoArguments operation arguments (fun word deltaWord => do
        let slot ← index "local index" word
        let delta ← valueOf "increment" deltaWord (Number.signed? 16)
        .ok (.operation (.increment slot (Int16.ofInt delta))))
    | "label" => oneArgument operation arguments (fun name => .ok (.label name))
    | "label_from_entry" =>
      oneArgument operation arguments (fun name => .ok (.labelFromEntry name))
    | "label_from" =>
      twoArguments operation arguments (fun source name => .ok (.labelFrom source name))
    | "goto" =>
      twoArguments operation arguments (fun source target =>
        .ok (.jump .goto (sourceLabel source) target))
    | "if_zero" => conditional operation arguments OrdComparison.ofMnemonic? .ifZero
    | "if_icmp" => conditional operation arguments OrdComparison.ofMnemonic? .ifInt
    | "if_acmp" => conditional operation arguments EqComparison.ofMnemonic? .ifReference
    | "if_null" => conditional operation arguments EqComparison.ofMnemonic? .ifNull
    | "get_field" =>
      oneArgument operation arguments (fun name => .ok (.operation (.getOwnField name)))
    | "put_field" =>
      oneArgument operation arguments (fun name => .ok (.operation (.putOwnField name)))
    | "new_array" =>
      oneArgument operation arguments (fun descriptor => .ok (.newArray descriptor))
    | "new" => oneArgument operation arguments (fun name => .ok (.newObject name))
    | "cast" => oneArgument operation arguments (fun descriptor => .ok (.cast descriptor false))
    | "cast_unchecked" =>
      oneArgument operation arguments (fun descriptor => .ok (.cast descriptor true))
    | "instance_of" =>
      oneArgument operation arguments (fun descriptor => .ok (.instanceOf descriptor))
    | "invoke" =>
      match arguments with
      | [kindWord, owner, name, descriptor] => do
        let kind ← methodKind kindWord
        .ok (.invoke kind ⟨owner, name, descriptor⟩)
      | _ => .error (.argumentCount operation 4 arguments.length)
    | "lambda" =>
      match arguments with
      | [interface, kindWord, owner, name, descriptor] =>
        .ok (.lambda interface kindWord ⟨owner, name, descriptor⟩)
      | _ => .error (.argumentCount operation 5 arguments.length)
    | "lambda_field" =>
      twoArguments operation arguments (fun interface name => .ok (.lambdaField interface name))
    | found => .error (.unknownOperation found)

/-- The header of a routine, read from the text of a line. -/
def Header.ofLine (text : List Char) : Except SyntaxFault Header :=
  match (Text.words text).map String.ofList with
  | "routine" :: [kind, owner, name, descriptor] => do
    let isStatic ← staticness kind
    .ok ⟨isStatic, ⟨owner, name, descriptor⟩⟩
  | "routine" :: arguments => .error (.argumentCount "routine" 4 arguments.length)
  | _ => .error (.notHeader (String.ofList text))

end TypedBytecode.Script
