import TypedBytecode.ClassGraph.Standard
import TypedBytecode.Code
import TypedBytecode.Frame
import Mathlib.Data.List.Forall2
import Mathlib.Logic.Relation

/-!
Contract: the typing rules of the machine that runs the code.

Owns:
- machine types, in which all integer kinds are one and `null` is a type of its own;
- when a value can be used where a type is wanted;
- a rule for each instruction: a table of operands and results, and rules of their own for
  copies, locals and array elements;
- runs of straight-line code, which have at most one outcome.

Does not own: how code is chosen, or that any code follows the rules.
-/

namespace TypedBytecode

/-! ## Machine types -/

/-- Type of a value or slot, as far as the machine tells types apart. -/
inductive MachineType where
  | int
  | long
  | float
  | double
  | null
  | reference (type : RefType)
  | top
deriving DecidableEq, Repr

/-- A reference can be used as another type when it can be assigned to it, at once or by way
of other types. -/
def RefType.Usable (graph : ClassGraph) : RefType → RefType → Prop :=
  Relation.TransGen (fun sub super => sub.assignable graph super = true)

namespace MachineType

def ofValue : ValueType → MachineType
  | .int _ => .int
  | .long => .long
  | .float => .float
  | .double => .double
  | .reference type => .reference type
  | .top => .top

def ofField (type : FieldType) : MachineType :=
  ofValue (.ofFieldType type)

def ofNumber (kind : NumericKind) : MachineType :=
  ofValue kind.valueType

def object (name : ClassName) : MachineType :=
  .reference (.object name)

def isWide : MachineType → Bool
  | .long | .double => true
  | _ => false

def width (type : MachineType) : Nat :=
  if type.isWide then 2 else 1

/-- A value of the first type can stand where the second is wanted. `null` stands for every
reference, and an unusable slot only for itself. -/
inductive Fits (usable : RefType → RefType → Prop) : MachineType → MachineType → Prop where
  | int : Fits usable .int .int
  | long : Fits usable .long .long
  | float : Fits usable .float .float
  | double : Fits usable .double .double
  | null (type : RefType) : Fits usable .null (.reference type)
  | reference {found wanted : RefType} (use : usable found wanted) :
      Fits usable (.reference found) (.reference wanted)
  | top : Fits usable .top .top

end MachineType

/-! ## Operands and results -/

/-- What an instruction asks of an operand. -/
inductive Demand where
  | value (type : MachineType)
  | anyReference
  | anyArray
deriving DecidableEq, Repr

inductive Demand.MetBy (graph : ClassGraph) : Demand → MachineType → Prop where
  | value {wanted found : MachineType} (fits : found.Fits (RefType.Usable graph) wanted) :
      MetBy graph (.value wanted) found
  | null : MetBy graph .anyReference .null
  | reference (type : RefType) : MetBy graph .anyReference (.reference type)
  | nullArray : MetBy graph .anyArray .null
  | array {type : RefType} (isArray : type.isArray = true) :
      MetBy graph .anyArray (.reference type)

/-- Operands that an instruction takes and results that it gives, the lowest first. -/
structure Signature where
  takes : List Demand
  gives : List MachineType
deriving DecidableEq, Repr

def Constant.machineType : Constant → MachineType
  | .string _ => .object .string
  | .integer _ => .int
  | .long _ => .long
  | .float _ => .float
  | .double _ => .double
  | .classRef _ => .object ⟨"java/lang/Class"⟩
  | .methodType _ => .object .methodType
  | .methodHandle _ _ => .object .methodHandle
  | .fieldHandle _ _ => .object .methodHandle

/-- A method can be invoked in this way. Interface calls name the number of argument slots,
and constructors are invoked as they are. -/
def InvokeKind.suits (method : Method) : InvokeKind → Bool
  | .static => method.isStatic
  | .special => !method.isStatic
  | .virtual => !method.isStatic && !method.isConstructor
  | .interface count =>
    !method.isStatic && !method.isConstructor &&
      count.toNat == method.type.argumentWidth true

/-- The receiver, if there is one, and the arguments of a call. -/
def Method.demands (method : Method) : List Demand :=
  (if method.isStatic then [] else [.value (.object method.owner)]) ++
    method.type.parameters.map (fun type => .value (.ofField type))

def MethodType.results (type : MethodType) : List MachineType :=
  (type.result.map MachineType.ofField).toList

/-- Kind of the values that are loaded, stored and returned in this way. -/
def SlotKind.admits : SlotKind → MachineType → Bool
  | .int, .int => true
  | .long, .long => true
  | .float, .float => true
  | .double, .double => true
  | .reference, .null => true
  | .reference, .reference _ => true
  | _, _ => false

namespace Instruction

/-- Operands and results of the instructions that take them off and put them on the stack, in
a routine with the given result. -/
def signature? (result : Option FieldType) : Instruction → Option Signature
  | .nop => some ⟨[], []⟩
  | .nullConst => some ⟨[], [.null]⟩
  | .intConstMinusOne => some ⟨[], [.int]⟩
  | .intConst _ => some ⟨[], [.int]⟩
  | .longConst _ => some ⟨[], [.long]⟩
  | .floatConst _ => some ⟨[], [.float]⟩
  | .doubleConst _ => some ⟨[], [.double]⟩
  | .bytePush _ => some ⟨[], [.int]⟩
  | .shortPush _ => some ⟨[], [.int]⟩
  | .loadConstant constant =>
    if constant.machineType.isWide then none else some ⟨[], [constant.machineType]⟩
  | .loadWideConstant constant =>
    if constant.machineType.isWide then some ⟨[], [constant.machineType]⟩ else none
  | .arithmetic _ kind =>
    some ⟨[.value (.ofNumber kind), .value (.ofNumber kind)], [.ofNumber kind]⟩
  | .negate kind => some ⟨[.value (.ofNumber kind)], [.ofNumber kind]⟩
  | .shift kind _ =>
    some ⟨[.value (.ofNumber kind.numeric), .value .int], [.ofNumber kind.numeric]⟩
  | .bitwise _ kind =>
    some ⟨[.value (.ofNumber kind.numeric), .value (.ofNumber kind.numeric)],
      [.ofNumber kind.numeric]⟩
  | .convert conversion =>
    some ⟨[.value (.ofNumber conversion.source)], [.ofField (.primitive conversion.target)]⟩
  | .compareLong => some ⟨[.value .long, .value .long], [.int]⟩
  | .compareFloat _ => some ⟨[.value .float, .value .float], [.int]⟩
  | .compareDouble _ => some ⟨[.value .double, .value .double], [.int]⟩
  | .ifZero _ _ => some ⟨[.value .int], []⟩
  | .ifInt _ _ => some ⟨[.value .int, .value .int], []⟩
  | .ifReference _ _ => some ⟨[.anyReference, .anyReference], []⟩
  | .ifNull _ _ => some ⟨[.anyReference], []⟩
  | .goto _ => some ⟨[], []⟩
  | .returnValue kind =>
    match result with
    | some type =>
      if kind.admits (.ofField type) then some ⟨[.value (.ofField type)], []⟩ else none
    | none => none
  | .returnVoid => if result.isNone then some ⟨[], []⟩ else none
  | .throwReference => some ⟨[.value (.object .throwable)], []⟩
  | .getStatic field =>
    if field.isStatic then some ⟨[], [.ofField field.type]⟩ else none
  | .putStatic field =>
    if field.isStatic then some ⟨[.value (.ofField field.type)], []⟩ else none
  | .getField field =>
    if field.isStatic then none
    else some ⟨[.value (.object field.owner)], [.ofField field.type]⟩
  | .putField field =>
    if field.isStatic then none
    else some ⟨[.value (.object field.owner), .value (.ofField field.type)], []⟩
  | .invoke kind method =>
    if kind.suits method then some ⟨method.demands, method.type.results⟩ else none
  | .invokeDynamic site =>
    some ⟨site.type.parameters.map (fun type => .value (.ofField type)), site.type.results⟩
  | .newObject name => some ⟨[], [.object name]⟩
  | .newArray element => some ⟨[.value .int], [.reference (.array (.primitive element))]⟩
  | .newReferenceArray component =>
    some ⟨[.value .int], [.reference (.array (.reference component))]⟩
  | .arrayLength => some ⟨[.anyArray], [.int]⟩
  | .checkCast type => some ⟨[.anyReference], [.reference type]⟩
  | .instanceOf _ => some ⟨[.anyReference], [.int]⟩
  | _ => none

/-- Slots that are taken off the stack without a look at their types. -/
def dropped? : Instruction → Option Nat
  | .pop => some 1
  | .pop2 => some 2
  | _ => none

/-- Slots that are copied, and slots between the copy and the original. -/
def copied? : Instruction → Option (Nat × Nat)
  | .dup => some (1, 0)
  | .dupX1 => some (1, 1)
  | .dupX2 => some (1, 2)
  | .dup2 => some (2, 0)
  | .dup2X1 => some (2, 1)
  | .dup2X2 => some (2, 2)
  | _ => none

end Instruction

/-! ## Array elements -/

namespace ElementKind

/-- Arrays with such components are accessed in this way. -/
def accesses : ElementKind → FieldType → Bool
  | .byte, .primitive .boolean => true
  | .byte, .primitive .byte => true
  | .char, .primitive .char => true
  | .short, .primitive .short => true
  | .int, .primitive .int => true
  | .long, .primitive .long => true
  | .float, .primitive .float => true
  | .double, .primitive .double => true
  | .reference, .reference _ => true
  | _, _ => false

/-- What is read from an array that is `null`, as far as its type goes. -/
def ofNull : ElementKind → MachineType
  | .long => .long
  | .float => .float
  | .double => .double
  | .reference => .null
  | _ => .int

/-- Kind of the values in such arrays. -/
def slotKind : ElementKind → SlotKind
  | .long => .long
  | .float => .float
  | .double => .double
  | .reference => .reference
  | _ => .int

end ElementKind

/-! ## Frames -/

/-- Locals by slot, as many as the routine has, and the stack by value, its top first. -/
structure MachineFrame where
  locals : List MachineType
  stack : List MachineType
deriving DecidableEq, Repr

namespace MachineFrame

/-- A tracked frame as the machine sees it, in a routine with room for `size` slots. -/
def ofFrame (size : Nat) (frame : Frame) : MachineFrame where
  locals :=
    frame.locals.map .ofValue ++ List.replicate (size - frame.locals.length) .top
  stack := frame.stack.map .ofValue

/-- Locals after a slot is written. A wide local that reaches into the slot from below is lost. -/
def write (locals : List MachineType) (slot : Nat) (value : MachineType) : List MachineType :=
  match slot with
  | 0 => locals.set 0 value
  | below + 1 =>
    if locals[below]?.any MachineType.isWide then (locals.set below .top).set (below + 1) value
    else locals.set (below + 1) value

/-- The slot exists, and is followed by an unusable one where a wide value is in question. -/
def HasRoom (locals : List MachineType) (slot : Nat) (value : MachineType) : Prop :=
  slot < locals.length ∧ (value.isWide = true → locals[slot + 1]? = some .top)

end MachineFrame

/-- Values that together take up the given number of slots. -/
def MachineType.IsBlock (values : List MachineType) (slots : Nat) : Prop :=
  totalWidth MachineType.width values = slots ∧ .top ∉ values

/-! ## Rules -/

/-- An instruction takes one frame to another, in a routine with the given result. -/
inductive Instruction.Typed (graph : ClassGraph) (result : Option FieldType) :
    Instruction → MachineFrame → MachineFrame → Prop where
  | signed {instruction : Instruction} {takes : List Demand} {gives : List MachineType}
      {locals operands stack : List MachineType}
      (table : instruction.signature? result = some ⟨takes, gives⟩)
      (met : List.Forall₂ (Demand.MetBy graph) takes operands) :
      Typed graph result instruction ⟨locals, operands.reverse ++ stack⟩
        ⟨locals, gives.reverse ++ stack⟩
  | drop {instruction : Instruction} {slots : Nat} {locals upper stack : List MachineType}
      (drops : instruction.dropped? = some slots) (block : MachineType.IsBlock upper slots) :
      Typed graph result instruction ⟨locals, upper ++ stack⟩ ⟨locals, stack⟩
  | copy {instruction : Instruction} {slots between : Nat}
      {locals upper lower stack : List MachineType}
      (copies : instruction.copied? = some (slots, between))
      (upperBlock : MachineType.IsBlock upper slots)
      (lowerBlock : MachineType.IsBlock lower between) :
      Typed graph result instruction ⟨locals, upper ++ (lower ++ stack)⟩
        ⟨locals, upper ++ (lower ++ (upper ++ stack))⟩
  | swap {locals stack : List MachineType} {lower upper : MachineType}
      (lowerBlock : MachineType.IsBlock [lower] 1) (upperBlock : MachineType.IsBlock [upper] 1) :
      Typed graph result .swap ⟨locals, upper :: lower :: stack⟩
        ⟨locals, lower :: upper :: stack⟩
  | load {locals stack : List MachineType} {kind : SlotKind} {slot : UInt16}
      {value : MachineType} (held : locals[slot.toNat]? = some value)
      (admitted : kind.admits value = true)
      (room : MachineFrame.HasRoom locals slot.toNat value) :
      Typed graph result (.load kind slot) ⟨locals, stack⟩ ⟨locals, value :: stack⟩
  | store {locals stack : List MachineType} {kind : SlotKind} {slot : UInt16}
      {value : MachineType} (admitted : kind.admits value = true)
      (room : MachineFrame.HasRoom locals slot.toNat value) :
      Typed graph result (.store kind slot) ⟨locals, value :: stack⟩
        ⟨MachineFrame.write locals slot.toNat value, stack⟩
  | increment {locals stack : List MachineType} {slot : UInt16} (delta : Int16)
      (held : locals[slot.toNat]? = some .int) :
      Typed graph result (.increment slot delta) ⟨locals, stack⟩ ⟨locals, stack⟩
  | arrayLoad {locals stack : List MachineType} {element : ElementKind} {type : RefType}
      {component : FieldType} (elements : type.component? = some component)
      (accessed : element.accesses component = true) :
      Typed graph result (.arrayLoad element) ⟨locals, .int :: .reference type :: stack⟩
        ⟨locals, .ofField component :: stack⟩
  | arrayLoadNull {locals stack : List MachineType} (element : ElementKind) :
      Typed graph result (.arrayLoad element) ⟨locals, .int :: .null :: stack⟩
        ⟨locals, element.ofNull :: stack⟩
  | arrayStore {locals stack : List MachineType} {element : ElementKind} {type : RefType}
      {component : FieldType} {value : MachineType} (elements : type.component? = some component)
      (accessed : element.accesses component = true)
      (fits : value.Fits (RefType.Usable graph) (.ofField component)) :
      Typed graph result (.arrayStore element)
        ⟨locals, value :: .int :: .reference type :: stack⟩ ⟨locals, stack⟩
  | arrayStoreNull {locals stack : List MachineType} {element : ElementKind}
      {value : MachineType} (admitted : element.slotKind.admits value = true) :
      Typed graph result (.arrayStore element) ⟨locals, value :: .int :: .null :: stack⟩
        ⟨locals, stack⟩

/-- The instructions of straight-line code one after the other. -/
inductive Code.Typed (graph : ClassGraph) (result : Option FieldType) :
    Code → MachineFrame → MachineFrame → Prop where
  | nil (frame : MachineFrame) : Typed graph result [] frame frame
  | cons {instruction : Instruction} {code : Code} {before middle after : MachineFrame}
      (first : instruction.Typed graph result before middle)
      (rest : Typed graph result code middle after) :
      Typed graph result (instruction :: code) before after

/-! ## Outcomes are unique -/

namespace MachineType

theorem width_pos (type : MachineType) : 0 < type.width := by
  unfold width
  split <;> omega

/-- Blocks of one size on top of the same stack are the same block. -/
theorem IsBlock.unique {left right leftRest rightRest : List MachineType} {slots : Nat}
    (leftBlock : IsBlock left slots) (rightBlock : IsBlock right slots)
    (same : left ++ leftRest = right ++ rightRest) : left = right ∧ leftRest = rightRest := by
  obtain ⟨leftWidth, -⟩ := leftBlock
  obtain ⟨rightWidth, -⟩ := rightBlock
  induction left generalizing right slots with
  | nil =>
      cases right with
      | nil => exact ⟨rfl, same⟩
      | cons first right =>
          have positive := width_pos first
          simp only [totalWidth.of_nil, totalWidth.of_cons] at leftWidth rightWidth
          omega
  | cons value left inductionHypothesis =>
      cases right with
      | nil =>
          have positive := width_pos value
          simp only [totalWidth.of_nil, totalWidth.of_cons] at leftWidth rightWidth
          omega
      | cons first right =>
          simp only [List.cons_append, List.cons.injEq] at same
          obtain ⟨rfl, sameRest⟩ := same
          simp only [totalWidth.of_cons] at leftWidth rightWidth
          have restWidth : totalWidth width left = totalWidth width right := by omega
          obtain ⟨rfl, rest⟩ := inductionHypothesis sameRest restWidth rfl
          exact ⟨rfl, rest⟩

end MachineType

namespace Instruction

theorem signature?_of_dropped {instruction : Instruction} {slots : Nat}
    {result : Option FieldType} (drops : instruction.dropped? = some slots) :
    instruction.signature? result = none := by
  cases instruction with
  | pop | pop2 => rfl
  | _ => cases drops

theorem copied?_of_dropped {instruction : Instruction} {slots : Nat}
    (drops : instruction.dropped? = some slots) : instruction.copied? = none := by
  cases instruction with
  | pop | pop2 => rfl
  | _ => cases drops

theorem signature?_of_copied {instruction : Instruction} {slots : Nat × Nat}
    {result : Option FieldType} (copies : instruction.copied? = some slots) :
    instruction.signature? result = none := by
  cases instruction with
  | dup | dupX1 | dupX2 | dup2 | dup2X1 | dup2X2 => rfl
  | _ => cases copies

end Instruction

section Unique

variable {graph : ClassGraph} {result : Option FieldType}
  {before after otherBefore other : MachineFrame} {instruction : Instruction}

/-- An instruction with a signature does what the signature says. -/
theorem Instruction.Typed.of_signature {takes : List Demand} {gives : List MachineType}
    (typed : instruction.Typed graph result before after)
    (table : instruction.signature? result = some ⟨takes, gives⟩) :
    ∃ operands stack, List.Forall₂ (Demand.MetBy graph) takes operands ∧
      before.stack = operands.reverse ++ stack ∧
      after = ⟨before.locals, gives.reverse ++ stack⟩ := by
  cases typed with
  | signed otherTable met =>
      rw [table] at otherTable
      cases otherTable
      exact ⟨_, _, met, rfl, rfl⟩
  | drop drops block =>
      rw [signature?_of_dropped drops] at table
      cases table
  | copy copies upperBlock lowerBlock =>
      rw [signature?_of_copied copies] at table
      cases table
  | _ => cases table

theorem Instruction.Typed.of_dropped {slots : Nat}
    (typed : instruction.Typed graph result before after)
    (drops : instruction.dropped? = some slots) :
    ∃ upper stack, MachineType.IsBlock upper slots ∧ before.stack = upper ++ stack ∧
      after = ⟨before.locals, stack⟩ := by
  cases typed with
  | signed table met =>
      rw [signature?_of_dropped drops] at table
      cases table
  | drop otherDrops block =>
      rw [drops] at otherDrops
      cases otherDrops
      exact ⟨_, _, block, rfl, rfl⟩
  | copy copies upperBlock lowerBlock =>
      rw [copied?_of_dropped drops] at copies
      cases copies
  | _ => cases drops

theorem Instruction.Typed.of_copied {slots between : Nat}
    (typed : instruction.Typed graph result before after)
    (copies : instruction.copied? = some (slots, between)) :
    ∃ upper lower stack, MachineType.IsBlock upper slots ∧ MachineType.IsBlock lower between ∧
      before.stack = upper ++ (lower ++ stack) ∧
      after = ⟨before.locals, upper ++ (lower ++ (upper ++ stack))⟩ := by
  cases typed with
  | signed table met =>
      rw [signature?_of_copied copies] at table
      cases table
  | drop drops block =>
      rw [copied?_of_dropped drops] at copies
      cases copies
  | copy otherCopies upperBlock lowerBlock =>
      rw [copies] at otherCopies
      cases otherCopies
      exact ⟨_, _, _, upperBlock, lowerBlock, rfl, rfl⟩
  | _ => cases copies

/-- An instruction has at most one outcome. -/
theorem Instruction.Typed.unique (typed : instruction.Typed graph result before after)
    (otherTyped : instruction.Typed graph result otherBefore other)
    (same : otherBefore = before) : other = after := by
  -- The stacks are appended lists, which `cases` cannot unify, so `same` is an equation.
  cases typed with
  | @signed _ takes gives _ operands stack table met =>
      obtain ⟨otherOperands, otherStack, otherMet, split, rfl⟩ := otherTyped.of_signature table
      have counted : otherOperands.reverse.length = operands.reverse.length := by
        rw [List.length_reverse, List.length_reverse, ← met.length_eq, ← otherMet.length_eq]
      rw [same] at split
      obtain ⟨-, rfl⟩ := List.append_inj split.symm counted
      rw [same]
  | drop drops block =>
      obtain ⟨otherUpper, otherStack, otherBlock, split, rfl⟩ := otherTyped.of_dropped drops
      rw [same] at split
      obtain ⟨-, rfl⟩ := otherBlock.unique block split.symm
      rw [same]
  | copy copies upperBlock lowerBlock =>
      obtain ⟨otherUpper, otherLower, otherStack, otherUpperBlock, otherLowerBlock, split, rfl⟩ :=
        otherTyped.of_copied copies
      rw [same] at split
      obtain ⟨rfl, rest⟩ := otherUpperBlock.unique upperBlock split.symm
      obtain ⟨rfl, rfl⟩ := otherLowerBlock.unique lowerBlock rest
      rw [same]
  | swap =>
      cases otherTyped with
      | signed absent | drop absent | copy absent => cases absent
      | swap =>
          cases same
          rfl
  | load held =>
      cases otherTyped with
      | signed absent | drop absent | copy absent => cases absent
      | load otherHeld =>
          cases same
          rw [held] at otherHeld
          cases otherHeld
          rfl
  | store =>
      cases otherTyped with
      | signed absent | drop absent | copy absent => cases absent
      | store =>
          cases same
          rfl
  | increment =>
      cases otherTyped with
      | signed absent | drop absent | copy absent => cases absent
      | increment =>
          cases same
          rfl
  | arrayLoad elements =>
      cases otherTyped with
      | signed absent | drop absent | copy absent => cases absent
      | arrayLoad otherElements =>
          cases same
          rw [elements] at otherElements
          cases otherElements
          rfl
      | arrayLoadNull => cases same
  | arrayLoadNull =>
      cases otherTyped with
      | signed absent | drop absent | copy absent => cases absent
      | arrayLoad => cases same
      | arrayLoadNull =>
          cases same
          rfl
  | arrayStore =>
      cases otherTyped with
      | signed absent | drop absent | copy absent => cases absent
      | arrayStore =>
          cases same
          rfl
      | arrayStoreNull => cases same
  | arrayStoreNull =>
      cases otherTyped with
      | signed absent | drop absent | copy absent => cases absent
      | arrayStore => cases same
      | arrayStoreNull =>
          cases same
          rfl

/-- Straight-line code has at most one outcome. -/
theorem Code.Typed.unique {code : Code} (typed : code.Typed graph result before after)
    (otherTyped : code.Typed graph result before other) : other = after := by
  induction typed with
  | nil frame =>
      cases otherTyped
      rfl
  | cons first rest inductionHypothesis =>
      cases otherTyped with
      | cons otherFirst otherRest =>
          have sameMiddle := first.unique otherFirst rfl
          subst sameMiddle
          exact inductionHypothesis otherRest

end Unique

end TypedBytecode
