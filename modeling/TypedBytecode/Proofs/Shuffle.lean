import TypedBytecode.Proofs.Joins

/-!
Contract: what moving, copying and dropping values does to the slots of the machine's stack.

Owns:
- the stack by slots, with the two halves of a wide value told apart;
- the instructions that move slots around, without a look at what the slots hold;
- the operations that move values around, without a look at how wide the values are;
- the agreement of the two: the instruction that an operation emits moves the slots of whole
  values, just as the operation moves the values.

Values can be anything that has a type, so that two values of one type are not mixed up. With the
types themselves as values, this is about the stack that is tracked.

Does not own: which values are on the stack.
-/

namespace TypedBytecode

/-! ## The stack by slots -/

/-- What is in a slot of the stack: a value that takes one slot, or one half of a wide value. -/
inductive StackSlot (α : Type) where
  | whole (value : α)
  | lowerHalf (value : α)
  | upperHalf (value : α)
deriving DecidableEq, Repr

namespace StackSlot

variable {α : Type}

/-- The slots of one value, the uppermost first. -/
def ofValue (type : α → ValueType) (value : α) : List (StackSlot α) :=
  if (type value).isWide then [.upperHalf value, .lowerHalf value] else [.whole value]

/-- The slots of a stack of values, the top of the stack first. -/
def expand (type : α → ValueType) (values : List α) : List (StackSlot α) :=
  values.flatMap (ofValue type)

variable {type : α → ValueType} {value : α} {values : List α}

theorem expand_cons_of_wide (wide : (type value).isWide = true) :
    expand type (value :: values) =
      .upperHalf value :: .lowerHalf value :: expand type values := by
  simp [expand, ofValue, wide]

theorem expand_cons_of_narrow (narrow : (type value).isWide = false) :
    expand type (value :: values) = .whole value :: expand type values := by
  simp [expand, ofValue, narrow]

end StackSlot

/-! ## Moving slots and moving values -/

/-- What the instructions that move slots around do to a stack of at least so many slots, its top
first. -/
def Instruction.shuffle? {σ : Type} : Instruction → List σ → Option (List σ)
  | .pop, _ :: rest => some rest
  | .pop2, _ :: _ :: rest => some rest
  | .dup, first :: rest => some (first :: first :: rest)
  | .dupX1, first :: second :: rest => some (first :: second :: first :: rest)
  | .dupX2, first :: second :: third :: rest =>
    some (first :: second :: third :: first :: rest)
  | .dup2, first :: second :: rest => some (first :: second :: first :: second :: rest)
  | .dup2X1, first :: second :: third :: rest =>
    some (first :: second :: third :: first :: second :: rest)
  | .dup2X2, first :: second :: third :: fourth :: rest =>
    some (first :: second :: third :: fourth :: first :: second :: rest)
  | .swap, first :: second :: rest => some (second :: first :: rest)
  | _, _ => none

/-- What the operations that move values around do to a stack of at least so many values, its top
first. -/
def Operation.rearrange? {α : Type} : Operation → List α → Option (List α)
  | .pop, _ :: rest => some rest
  | .dup, upper :: rest => some (upper :: upper :: rest)
  | .dupUnder, upper :: lower :: rest => some (upper :: lower :: upper :: rest)
  | .swap, upper :: lower :: rest => some (lower :: upper :: rest)
  | _, _ => none

namespace Instruction

theorem isTerminal_of_shuffle? {σ : Type} {instruction : Instruction} {slots moved : List σ}
    (shuffled : instruction.shuffle? slots = some moved) : instruction.isTerminal = false := by
  cases instruction with
  | goto | returnValue | returnVoid | throwReference => simp [shuffle?] at shuffled
  | _ => rfl

/-- An instruction moves the slots of values so that they are the slots of other values. -/
def Carries {α : Type} (type : α → ValueType) (instruction : Instruction)
    (values moved : List α) : Prop :=
  instruction.shuffle? (StackSlot.expand type values) = some (StackSlot.expand type moved)

section Carries

variable {α : Type} {type : α → ValueType} {upper lower : α} {rest : List α}

theorem carries_pop :
    (if (type upper).isWide then .pop2 else .pop : Instruction).Carries type (upper :: rest)
      rest := by
  unfold Carries
  cases wide : (type upper).isWide with
  | true =>
      rw [StackSlot.expand_cons_of_wide wide]
      rfl
  | false =>
      rw [StackSlot.expand_cons_of_narrow wide]
      rfl

theorem carries_dup :
    (if (type upper).isWide then .dup2 else .dup : Instruction).Carries type (upper :: rest)
      (upper :: upper :: rest) := by
  unfold Carries
  cases wide : (type upper).isWide with
  | true =>
      simp only [StackSlot.expand_cons_of_wide wide]
      rfl
  | false =>
      simp only [StackSlot.expand_cons_of_narrow wide]
      rfl

theorem carries_copyBeneath :
    (Operation.copyBeneath (type upper) (type lower)).Carries type (upper :: lower :: rest)
      (upper :: lower :: upper :: rest) := by
  unfold Carries Operation.copyBeneath
  -- Once both widths are known, so are the slots on top, and `shuffle?` computes.
  cases wide : (type upper).isWide <;> cases lowerWide : (type lower).isWide <;>
    simp only [wide, lowerWide, StackSlot.expand_cons_of_wide, StackSlot.expand_cons_of_narrow] <;>
    rfl

theorem carries_swap (upperNarrow : (type upper).isWide = false)
    (lowerNarrow : (type lower).isWide = false) :
    Instruction.swap.Carries type (upper :: lower :: rest) (lower :: upper :: rest) := by
  unfold Carries
  simp only [StackSlot.expand_cons_of_narrow upperNarrow,
    StackSlot.expand_cons_of_narrow lowerNarrow]
  rfl

end Carries

end Instruction

/-! ## Operations and calls -/

/-- An operation that moves values around emits one instruction. It moves the slots of any values
with the types that are on the stack as the operation moves the values. -/
theorem Operation.Performs.carries {graph : ClassGraph} {routine : Method} {offset : Nat}
    {operation : Operation} {before after : Frame} {code : Code}
    (shuffles : operation ∈ [.pop, .dup, .dupUnder, .swap])
    (performed : operation.Performs graph routine offset before after code) :
    ∃ instruction, code = [instruction] ∧ after.locals = before.locals ∧
      ∀ (α : Type) (type : α → ValueType) (values : List α), values.map type = before.stack →
        ∃ moved, operation.rearrange? values = some moved ∧ moved.map type = after.stack ∧
          instruction.Carries type values moved := by
  cases performed with
  | pop value =>
      refine ⟨_, rfl, rfl, ?_⟩
      intro α type values typed
      obtain ⟨upper, rest, rfl, rfl, rfl⟩ := List.map_eq_cons_iff.mp typed
      exact ⟨rest, rfl, rfl, Instruction.carries_pop⟩
  | dup value =>
      refine ⟨_, rfl, rfl, ?_⟩
      intro α type values typed
      obtain ⟨upper, rest, rfl, rfl, rfl⟩ := List.map_eq_cons_iff.mp typed
      exact ⟨upper :: upper :: rest, rfl, rfl, Instruction.carries_dup⟩
  | dupUnder lowerType upperType =>
      refine ⟨_, rfl, rfl, ?_⟩
      intro α type values typed
      obtain ⟨upper, below, rfl, rfl, belowTyped⟩ := List.map_eq_cons_iff.mp typed
      obtain ⟨lower, rest, rfl, rfl, rfl⟩ := List.map_eq_cons_iff.mp belowTyped
      exact ⟨upper :: lower :: upper :: rest, rfl, rfl, Instruction.carries_copyBeneath⟩
  | swap narrow =>
      refine ⟨_, rfl, rfl, ?_⟩
      intro α type values typed
      obtain ⟨upper, below, rfl, rfl, belowTyped⟩ := List.map_eq_cons_iff.mp typed
      obtain ⟨lower, rest, rfl, rfl, rfl⟩ := List.map_eq_cons_iff.mp belowTyped
      obtain ⟨lowerNarrow, upperMet⟩ := List.forall₂_cons.mp narrow
      obtain ⟨upperNarrow, -⟩ := List.forall₂_cons.mp upperMet
      exact ⟨lower :: upper :: rest, rfl, rfl,
        Instruction.carries_swap (Requirement.accepts_category1.mp upperNarrow).2
          (Requirement.accepts_category1.mp lowerNarrow).2⟩
  | load absent | getStatic absent | getField absent | putStatic absent | putField absent
  | invoke absent | capture absent | constant absent =>
      simp only [List.mem_cons, List.not_mem_nil, or_false] at shuffles
      rcases shuffles with rfl | rfl | rfl | rfl <;> cases absent
  | _ => simp at shuffles

namespace Builder

/-- A call has emitted one instruction. Running it on the slots of the stack before the call gives
the slots of the stack behind it. Of any values with these types, the instruction moves whole ones
only, and moves them as the operation does. -/
structure Rearranges (builder next : Builder) (operation : Operation) (before after : Snapshot)
    (instruction : Instruction) : Prop where
  reachable : builder.current = some before
  goesOn : next.current = some after
  emitted : next.emissions = builder.emissions ++ [.instruction instruction]
  locals : after.frame.locals = before.frame.locals
  slots : instruction.shuffle? (StackSlot.expand id before.frame.stack) =
    some (StackSlot.expand id after.frame.stack)
  values : ∀ (α : Type) (type : α → ValueType) (values : List α),
    values.map type = before.frame.stack →
      ∃ moved, operation.rearrange? values = some moved ∧ moved.map type = after.frame.stack ∧
        instruction.shuffle? (StackSlot.expand type values) = some (StackSlot.expand type moved)

/-- Whatever is on the stack: an operation that moves values around and succeeds emits one
instruction, which does to the slots of the stack what is tracked from there on. -/
theorem shuffles_move_whole_values (graph : ClassGraph) (builder next : Builder)
    (operation : Operation) (shuffles : operation ∈ [.pop, .dup, .dupUnder, .swap])
    (succeeds : builder.call graph (.operation operation) = .ok next) :
    ∃ before after instruction, builder.Rearranges next operation before after instruction := by
  cases makes_of_call succeeds with
  | @operation _ before after code reachable performed =>
      obtain ⟨instruction, rfl, locals, carried⟩ := performed.carries shuffles
      obtain ⟨moved, -, sameTypes, shuffled⟩ :=
        carried ValueType id before.frame.stack (List.map_id _)
      rw [List.map_id] at sameTypes
      subst sameTypes
      have passes : Code.isTerminal [instruction] = false :=
        Instruction.isTerminal_of_shuffle? shuffled
      refine ⟨before, { before with frame := after }, instruction, reachable, ?_,
        emissions_afterCode, locals, shuffled, carried⟩
      rw [afterCode, passes]
      rfl

/-- A `long` with an `int` above it. -/
def intAboveLong : Builder :=
  (start plainRoutine).run
    ([.constLong 5, .constInt 7].map (fun operation => ⟨.empty, .operation operation⟩))

/-- The copy of the `int` goes beneath both halves of the `long`. -/
theorem shuffles_move_int_beneath_long :
    Operation.dupUnder ∈ [.pop, .dup, .dupUnder, .swap] ∧
      intAboveLong.call .empty (.operation .dupUnder) =
        .ok (intAboveLong.attempt ⟨.empty, .operation .dupUnder⟩) ∧
      ∃ before after instruction,
        intAboveLong.Rearranges (intAboveLong.attempt ⟨.empty, .operation .dupUnder⟩) .dupUnder
          before after instruction :=
  ⟨by decide, rfl, shuffles_move_whole_values .empty intAboveLong _ .dupUnder (by decide) rfl⟩

end Builder

end TypedBytecode
