import TypedBytecode.Descriptor

/-!
Contract: reading field and method descriptors.

Owns:
- one field type read off the front of a text, and where reading stops in either case;
- complete field and method descriptors;
- the causes for which a text is refused, with their byte offset and wording;
- the count of brackets, which is kept in a signed word of 32 bits and can overflow.

Does not own: looking the classes up that a descriptor names.
-/

namespace TypedBytecode.Descriptor

inductive Fault where
  | expected (symbol : Char)
  | trailingInput
  | unterminatedClass
  | invalidLetter (letter : Char)
  | missingType
  | badName (error : NameError)
deriving DecidableEq, Repr

/-- A refused descriptor. The offset counts bytes of the UTF-8 form of the source. -/
structure ReadError where
  fault : Fault
  offset : Nat
  source : String
deriving DecidableEq, Repr

/-- A bad class name speaks for itself; every other fault says where it was met. -/
def ReadError.text (error : ReadError) : String :=
  let located (what : String) : String :=
    what ++ " at offset " ++ toString error.offset ++ " of '" ++ error.source ++ "'"
  match error.fault with
  | .expected symbol => located ("expected '" ++ symbol.toString ++ "'")
  | .trailingInput => located "unexpected trailing input"
  | .unterminatedClass => located "missing ';' after class name"
  | .invalidLetter letter => located ("invalid type character '" ++ letter.toString ++ "'")
  | .missingType => located "missing field type"
  | .badName error => error.message

/-- Why reading comes to no result: the text is refused, or a count overflows and reading is
cut off. -/
inductive Halt (ε : Type) where
  | refused (cause : ε)
  | overflow
deriving DecidableEq, Repr

def Halt.map {ε ζ : Type} (change : ε → ζ) : Halt ε → Halt ζ
  | .refused cause => .refused (change cause)
  | .overflow => .overflow

/-- Result of reading off the front of a text, with the text that is left. After a fault
the rest begins where reading stopped. -/
abbrev Read (α : Type) := Except (Halt Fault) α × List Char

/-- Most brackets that can be counted. -/
def maxDimensions : Nat := 2147483647

/-- A class name ends at the first semicolon. A refused name leaves the rest at its start. -/
def readClass (text : List Char) : Read ClassName :=
  if text.contains ';' then
    match ClassName.ofString (String.ofList (text.takeWhile (· != ';'))) with
    | .ok name => (.ok name, (text.dropWhile (· != ';')).drop 1)
    | .error error => (.error (.refused (.badName error)), text)
  else (.error (.refused .unterminatedClass), text)

/-- A type that is no array. -/
def readElement : List Char → Read FieldType
  | [] => (.error (.refused .missingType), [])
  | c :: rest =>
    if c = 'L' then
      match readClass rest with
      | (.ok name, rest) => (.ok (.object name), rest)
      | (.error halt, rest) => (.error halt, rest)
    else
      match Primitive.ofLetter? c with
      | some primitive => (.ok (.primitive primitive), rest)
      | none => (.error (.refused (.invalidLetter c)), c :: rest)

/-- Brackets, then the element type. Reading is cut off at the bracket that is one too many. -/
def readField (text : List Char) : Read FieldType :=
  let dimensions := (text.takeWhile (· == '[')).length
  if maxDimensions < dimensions then (.error .overflow, text.drop (maxDimensions + 1))
  else
    match readElement (text.dropWhile (· == '[')) with
    | (.ok element, rest) => (.ok (.arrays dimensions element), rest)
    | (.error halt, rest) => (.error halt, rest)

theorem length_readClass {text rest : List Char} {name : ClassName}
    (read : readClass text = (.ok name, rest)) : rest.length ≤ text.length := by
  unfold readClass at read
  split at read
  · split at read
    · have suffix := (List.drop_suffix 1 _).trans (List.dropWhile_suffix (l := text) (· != ';'))
      simp only [Prod.mk.injEq] at read
      exact read.2 ▸ suffix.length_le
    · simp at read
  · simp at read

theorem length_readElement {text rest : List Char} {type : FieldType}
    (read : readElement text = (.ok type, rest)) : rest.length < text.length := by
  unfold readElement at read
  split at read
  · simp at read
  · split at read
    · split at read
      · rename_i classRead
        simp only [Prod.mk.injEq] at read
        have shorter := length_readClass classRead
        simp only [List.length_cons, ← read.2]
        omega
      · simp at read
    · split at read
      · simp only [Prod.mk.injEq] at read
        simp [← read.2]
      · simp at read

/-- A field type takes at least one character. -/
theorem length_readField {text rest : List Char} {type : FieldType}
    (read : readField text = (.ok type, rest)) : rest.length < text.length := by
  simp only [readField] at read
  split at read
  · cases read
  · split at read
    · rename_i elementRead
      have shorter := length_readElement elementRead
      have suffix := (List.dropWhile_suffix (l := text) (· == '[')).length_le
      simp only [Prod.mk.injEq] at read
      exact read.2 ▸ Nat.lt_of_lt_of_le shorter suffix
    · cases read

/-- Field types up to the closing parenthesis, which is left to be read. -/
def readParameters (text : List Char) : Read (List FieldType) :=
  if text.head? = some ')' then (.ok [], text)
  else
    match _read : readField text with
    | (.ok type, rest) =>
      match readParameters rest with
      | (.ok types, rest) => (.ok (type :: types), rest)
      | (.error halt, rest) => (.error halt, rest)
    | (.error halt, rest) => (.error halt, rest)
termination_by text.length
decreasing_by exact length_readField _read

/-- The letter `V` is a result only. -/
def readResult : List Char → Read (Option FieldType)
  | 'V' :: rest => (.ok none, rest)
  | text =>
    match readField text with
    | (.ok type, rest) => (.ok (some type), rest)
    | (.error halt, rest) => (.error halt, rest)

def readMethod : List Char → Read MethodType
  | '(' :: text =>
    match readParameters text with
    | (.error halt, rest) => (.error halt, rest)
    | (.ok parameters, rest) =>
      match readResult (rest.drop 1) with
      | (.ok result, rest) => (.ok ⟨parameters, result⟩, rest)
      | (.error halt, rest) => (.error halt, rest)
  | text => (.error (.refused (.expected '(')), text)

/-- Position in a descriptor text: the whole text and what is still unread. -/
structure Cursor where
  source : String
  rest : List Char

namespace Cursor

def start (source : String) : Cursor :=
  ⟨source, source.toList⟩

/-- Bytes already read. -/
def offset (cursor : Cursor) : Nat :=
  cursor.source.utf8ByteSize - totalWidth Char.utf8Size cursor.rest

def fail (cursor : Cursor) (fault : Fault) : ReadError :=
  ⟨fault, cursor.offset, cursor.source⟩

/-- Read with a reader of texts. The cursor moves on also after a fault. -/
def next {α : Type} (cursor : Cursor) (reader : List Char → Read α) :
    Except (Halt ReadError) α × Cursor :=
  match reader cursor.rest with
  | (.ok value, rest) => (.ok value, ⟨cursor.source, rest⟩)
  | (.error halt, rest) =>
    let stopped : Cursor := ⟨cursor.source, rest⟩
    (.error (halt.map stopped.fail), stopped)

end Cursor

/-- A reader applied to a complete text, which it has to use up. -/
def readAll {α : Type} (reader : List Char → Read α) (source : String) :
    Except (Halt ReadError) α :=
  match (Cursor.start source).next reader with
  | (.error halt, _) => .error halt
  | (.ok value, cursor) =>
    if cursor.rest.isEmpty then .ok value else .error (.refused (cursor.fail .trailingInput))

end TypedBytecode.Descriptor

namespace TypedBytecode

def FieldType.ofString (source : String) :
    Except (Descriptor.Halt Descriptor.ReadError) FieldType :=
  Descriptor.readAll Descriptor.readField source

def MethodType.ofString (source : String) :
    Except (Descriptor.Halt Descriptor.ReadError) MethodType :=
  Descriptor.readAll Descriptor.readMethod source

end TypedBytecode
