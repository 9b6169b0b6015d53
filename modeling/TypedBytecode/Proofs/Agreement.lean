import TypedBytecode.Proofs.Layout
import TypedBytecode.Proofs.Machine

/-!
Contract: machine frames that agree with tracked ones.

Owns:
- assignability as the machine sees it;
- the agreement of a machine frame with a tracked one, slot by slot and along the stack;
- sound code, which takes a tracked frame to one that agrees with another by the rules, and a
  lemma for each shape that emitted code has;
- operands that meet what instructions ask for.

Does not own: the rules, or which code is emitted.
-/

namespace TypedBytecode

/-! ## Assignability as the machine sees it -/

/-- A reference of the first type can be assigned to the second. -/
def RefType.Assigns (graph : ClassGraph) (sub super : RefType) : Prop :=
  sub.assignable graph super = true

theorem ClassGraph.classAssignable_self (graph : ClassGraph) (name : ClassName) :
    graph.classAssignable name name = true := by
  unfold classAssignable
  rw [reaches]
  simp

namespace RefType

variable {graph : ClassGraph}

theorem assigns_self (type : RefType) : type.Assigns graph type := by
  cases type with
  | object name => exact graph.classAssignable_self name
  | objectArray extra element =>
      simp [Assigns, assignable, graph.classAssignable_self element]
  | primitiveArray extra element => simp [Assigns, assignable]

theorem usable_of_assigns {sub super : RefType} (assigns : sub.Assigns graph super) :
    sub.Usable graph super :=
  .single assigns

end RefType

namespace MachineType

variable {graph : ClassGraph}

theorem Fits.usable {found wanted : MachineType}
    (fits : found.Fits (RefType.Assigns graph) wanted) :
    found.Fits (RefType.Usable graph) wanted := by
  cases fits with
  | int => exact .int
  | long => exact .long
  | float => exact .float
  | double => exact .double
  | null type => exact .null type
  | reference assigns => exact .reference (RefType.usable_of_assigns assigns)
  | top => exact .top

/-- A value that fits a reference fits what the reference can be used as. -/
theorem Fits.trans {found : MachineType} {middle wanted : RefType}
    (fits : found.Fits (RefType.Usable graph) (.reference middle))
    (use : middle.Usable graph wanted) :
    found.Fits (RefType.Usable graph) (.reference wanted) := by
  cases fits with
  | null => exact .null wanted
  | reference first => exact .reference (Relation.TransGen.trans first use)

theorem fits_self (value : ValueType) :
    (ofValue value).Fits (RefType.Assigns graph) (ofValue value) := by
  cases value with
  | int kind => exact .int
  | long => exact .long
  | float => exact .float
  | double => exact .double
  | reference type => exact .reference type.assigns_self
  | top => exact .top

theorem fits_of_assignable {found wanted : ValueType}
    (fits : found.assignable graph wanted = true) :
    (ofValue found).Fits (RefType.Assigns graph) (ofValue wanted) := by
  cases found <;> cases wanted <;> simp only [ValueType.assignable, Bool.false_eq_true] at fits
  case int.int => exact .int
  case long.long => exact .long
  case float.float => exact .float
  case double.double => exact .double
  case reference.reference => exact .reference fits

/-- Values that can be assigned are stored alike. -/
theorem kind_of_assignable {found wanted : ValueType}
    (fits : found.assignable graph wanted = true) :
    SlotKind.ofValue found = SlotKind.ofValue wanted ∧ found.isWide = wanted.isWide := by
  cases found <;> cases wanted <;> simp only [ValueType.assignable, Bool.false_eq_true] at fits
  all_goals exact ⟨rfl, rfl⟩

theorem ofValue_of_number {allowBoolean : Bool} {value : ValueType} {kind : NumericKind}
    (number : NumericKind.of? allowBoolean value = some kind) :
    ofValue value = ofNumber kind := by
  cases value with
  | int intKind =>
      have isInt : kind = .int := by
        cases intKind <;> cases allowBoolean <;> simp_all [NumericKind.of?]
      rw [isInt]
      rfl
  | long | float | double =>
      cases number
      rfl
  | reference | top => cases number

theorem isWide_ofValue (value : ValueType) : (ofValue value).isWide = value.isWide := by
  cases value <;> rfl

theorem isBlock_ofValue {value : ValueType} (usable : value ≠ .top) :
    IsBlock [ofValue value] value.width := by
  constructor
  · simp [totalWidth, width, ValueType.width, isWide_ofValue]
  · cases value with
    | top => exact absurd rfl usable
    | _ => simp [ofValue]

theorem isBlock_of_category1 {value : ValueType}
    (accepted : Requirement.accepts graph .category1 value = true) :
    IsBlock [ofValue value] 1 := by
  obtain ⟨usable, narrow⟩ := Requirement.accepts_category1.mp accepted
  have block := isBlock_ofValue usable
  rwa [ValueType.width, narrow] at block

theorem isBlock_nil : IsBlock [] 0 :=
  ⟨rfl, List.not_mem_nil⟩

end MachineType

theorem SlotKind.admits_ofValue {value : ValueType} (usable : value ≠ .top) :
    (SlotKind.ofValue value).admits (.ofValue value) = true := by
  cases value with
  | top => exact absurd rfl usable
  | _ => rfl

namespace Frame

theorem getElem?_slots_zero (value : ValueType) : (slots value)[0]? = some value := by
  unfold slots
  split <;> rfl

/-- Only the second slot of a wide local comes behind its first. -/
theorem eq_top_of_slots {value held : ValueType} {place : Nat} (behind : 0 < place)
    (found : (slots value)[place]? = some held) : held = .top := by
  cases wide : value.isWide with
  | true =>
      rw [slots_of_wide wide] at found
      match place with
      | 1 => exact (Option.some.inj found).symm
      | place + 2 => cases found
  | false =>
      rw [slots_of_narrow wide] at found
      match place with
      | place + 1 => cases found

end Frame

/-! ## Frames -/

/-- The machine holds a value that can be assigned to the tracked one, or an unusable slot where
one is tracked. -/
def MachineType.StandsFor (graph : ClassGraph) (held : MachineType) (value : ValueType) : Prop :=
  held.Fits (RefType.Assigns graph) (.ofValue value)

/-- The frame of the machine agrees with a tracked one in every tracked slot, and all along the
stack. -/
structure MachineFrame.Fits (graph : ClassGraph) (machine : MachineFrame) (tracked : Frame) :
    Prop where
  locals : ∀ (slot : Nat) (value : ValueType), tracked.locals[slot]? = some value →
    ∃ held : MachineType, machine.locals[slot]? = some held ∧ held.StandsFor graph value
  stack : List.Forall₂ (MachineType.StandsFor graph) machine.stack tracked.stack

namespace MachineFrame

variable {graph : ClassGraph}

theorem ofFrame_local {size slot : Nat} {locals stack : List ValueType} {value : ValueType}
    (held : locals[slot]? = some value) :
    (ofFrame size ⟨locals, stack⟩).locals[slot]? = some (.ofValue value) := by
  obtain ⟨inRange, -⟩ := List.getElem?_eq_some_iff.mp held
  rw [ofFrame, List.getElem?_append_left (by simpa using inRange), List.getElem?_map, held]
  rfl

/-- The slots behind the tracked ones are unusable. -/
theorem ofFrame_free {size slot : Nat} {locals stack : List ValueType}
    (behind : locals.length ≤ slot) (inRange : slot < size) :
    (ofFrame size ⟨locals, stack⟩).locals[slot]? = some .top := by
  rw [ofFrame, List.getElem?_append_right (by simpa using behind), List.length_map,
    List.getElem?_replicate, if_pos (by dsimp only; omega)]

/-- A slot is the second one of a wide local only if it is tracked as unusable. -/
theorem narrow_below {size slot other : Nat} {locals stack : List ValueType} {held : MachineType}
    (wellLaid : Frame.WellLaid ⟨locals, stack⟩) (usable : locals[slot]? ≠ some .top)
    (below : other + 1 = slot)
    (found : (ofFrame size ⟨locals, stack⟩).locals[other]? = some held) :
    held.isWide = false := by
  rcases Nat.lt_or_ge other locals.length with tracked | behind
  · have value := List.getElem?_eq_getElem tracked
    rw [ofFrame_local value, Option.some.injEq] at found
    rw [← found, MachineType.isWide_ofValue]
    by_contra wide
    rw [Bool.not_eq_false] at wide
    have next := wellLaid.wide_then_top other _ value wide
    rw [below] at next
    exact usable next
  · rw [ofFrame, List.getElem?_append_right (by simpa using behind)] at found
    have isTop := List.eq_of_mem_replicate (List.mem_of_getElem? found)
    rw [isTop]
    rfl

theorem standsFor_values (values : List ValueType) :
    List.Forall₂ (MachineType.StandsFor graph) (values.map .ofValue) values := by
  rw [List.forall₂_map_left_iff, List.forall₂_same]
  exact fun value _ => MachineType.fits_self value

/-- A tracked frame agrees with itself, and with itself less its last locals. -/
theorem ofFrame_fits {size : Nat} {before after : Frame}
    (kept : after.locals <+: before.locals) (sameStack : after.stack = before.stack) :
    (ofFrame size before).Fits graph after := by
  constructor
  · intro slot value held
    obtain ⟨later, extended⟩ := kept
    have heldBefore : before.locals[slot]? = some value := by
      obtain ⟨inRange, -⟩ := List.getElem?_eq_some_iff.mp held
      rw [← extended, List.getElem?_append_left inRange, held]
    exact ⟨_, ofFrame_local heldBefore, MachineType.fits_self value⟩
  · rw [sameStack]
    exact standsFor_values before.stack

variable {locals : List MachineType} {slot : Nat} {value : MachineType}

theorem write_same (inRange : slot < locals.length) :
    (write locals slot value)[slot]? = some value := by
  cases slot with
  | zero => simp [write, inRange]
  | succ below =>
      simp only [write]
      split <;> simp [inRange]

/-- Writing a slot leaves every other slot as it was, unless a wide local reaches into the slot
that is written. -/
theorem write_other {other : Nat} (different : other ≠ slot)
    (narrow : ∀ held, other + 1 = slot → locals[other]? = some held → held.isWide = false) :
    (write locals slot value)[other]? = locals[other]? := by
  cases slot with
  | zero => simp [write, different.symm]
  | succ below =>
      simp only [write]
      split
      · rename_i reaches
        have elsewhere : other ≠ below := by
          rintro rfl
          obtain ⟨held, found, wide⟩ := (Option.any_eq_true _ _).mp reaches
          rw [narrow held rfl found] at wide
          cases wide
        simp [different.symm, elsewhere.symm]
      · simp [different.symm]

end MachineFrame

/-! ## Sound code -/

/-- Code that runs by the rules from one tracked frame, in a routine with room for `size` slots,
and comes to a frame that agrees with another. -/
def Code.Sound (graph : ClassGraph) (result : Option FieldType) (size : Nat) (code : Code)
    (before after : Frame) : Prop :=
  ∃ machine, code.Typed graph result (.ofFrame size before) machine ∧ machine.Fits graph after

namespace Code

variable {graph : ClassGraph} {result : Option FieldType} {size : Nat}
  {locals stack : List ValueType} {instruction : Instruction}

theorem Sound.nil {before after : Frame} (kept : after.locals <+: before.locals)
    (sameStack : after.stack = before.stack) : Sound graph result size [] before after :=
  ⟨_, .nil _, MachineFrame.ofFrame_fits kept sameStack⟩

/-- Code that works on the stack only is sound when its results stand for the tracked ones. -/
theorem Sound.of_stack {code : Code} {before : List ValueType} (given : List MachineType)
    (results : List ValueType)
    (typed : code.Typed graph result (.ofFrame size ⟨locals, before⟩)
      ⟨(MachineFrame.ofFrame size ⟨locals, before⟩).locals, given ++ stack.map .ofValue⟩)
    (stands : List.Forall₂ (MachineType.StandsFor graph) given results) :
    Sound graph result size code ⟨locals, before⟩ ⟨locals, results ++ stack⟩ := by
  refine ⟨_, typed, ?_, ?_⟩
  · intro slot value held
    exact ⟨_, MachineFrame.ofFrame_local held, MachineType.fits_self value⟩
  · exact List.rel_append stands (MachineFrame.standsFor_values stack)

/-- An instruction with a signature is sound when the operands meet it and its results stand
for the tracked ones. -/
theorem Sound.signed {takes : List Demand} {gives : List MachineType}
    (operands results : List ValueType)
    (table : instruction.signature? result = some ⟨takes, gives⟩)
    (met : List.Forall₂ (Demand.MetBy graph) takes (operands.map .ofValue))
    (stands : List.Forall₂ (MachineType.StandsFor graph) gives results) :
    Sound graph result size [instruction] ⟨locals, operands.reverse ++ stack⟩
      ⟨locals, results.reverse ++ stack⟩ := by
  have framed : MachineFrame.ofFrame size ⟨locals, operands.reverse ++ stack⟩ =
      ⟨(MachineFrame.ofFrame size ⟨locals, operands.reverse ++ stack⟩).locals,
        (operands.map .ofValue).reverse ++ stack.map .ofValue⟩ := by
    simp [MachineFrame.ofFrame]
  apply Sound.of_stack gives.reverse results.reverse
  · rw [framed]
    exact .cons (.signed table met) (.nil _)
  · exact List.rel_reverse stands

/-- An instruction whose signature gives just the tracked results. -/
theorem Sound.replaces {takes : List Demand} (operands results : List ValueType)
    (table : instruction.signature? result = some ⟨takes, results.map .ofValue⟩)
    (met : List.Forall₂ (Demand.MetBy graph) takes (operands.map .ofValue)) :
    Sound graph result size [instruction] ⟨locals, operands.reverse ++ stack⟩
      ⟨locals, results.reverse ++ stack⟩ :=
  .signed operands results table met (MachineFrame.standsFor_values results)

/-! ### Locals -/

theorem toNat_slot {slot : Nat} (inRange : slot ≤ Effect.lastSlot) :
    (UInt16.ofNat slot).toNat = slot := by
  apply UInt16.toNat_ofNat_of_lt'
  have bound : Effect.lastSlot < UInt16.size := by decide
  omega

/-- A tracked local has the room that its value takes. -/
theorem hasRoom_of_held (size : Nat) {slot : Nat} {value : ValueType}
    (wellLaid : Frame.WellLaid ⟨locals, stack⟩) (held : locals[slot]? = some value) :
    MachineFrame.HasRoom (MachineFrame.ofFrame size ⟨locals, stack⟩).locals slot
      (.ofValue value) := by
  have heldByMachine : (MachineFrame.ofFrame size ⟨locals, stack⟩).locals[slot]? =
      some (.ofValue value) := MachineFrame.ofFrame_local held
  refine ⟨(List.getElem?_eq_some_iff.mp heldByMachine).1, ?_⟩
  intro wide
  rw [MachineType.isWide_ofValue] at wide
  exact MachineFrame.ofFrame_local (wellLaid.wide_then_top slot value held wide)

theorem Sound.load {slot : Nat} {value : ValueType}
    (wellLaid : Frame.WellLaid ⟨locals, stack⟩) (held : locals[slot]? = some value)
    (usable : value ≠ .top) (inRange : slot ≤ Effect.lastSlot) :
    Sound graph result size [.load (.ofValue value) (UInt16.ofNat slot)] ⟨locals, stack⟩
      ⟨locals, [value] ++ stack⟩ := by
  have room := hasRoom_of_held size wellLaid held
  rw [← toNat_slot inRange] at held room
  have admitted := SlotKind.admits_ofValue usable
  apply Sound.of_stack [.ofValue value] [value]
  · exact .cons (.load (MachineFrame.ofFrame_local held) admitted room) (.nil _)
  · exact .cons (MachineType.fits_self value) .nil

theorem Sound.increment {slot : Nat} {kind : IntKind} (delta : Int16)
    (held : locals[slot]? = some (.int kind)) (inRange : slot ≤ Effect.lastSlot) :
    Sound graph result size [.increment (UInt16.ofNat slot) delta] ⟨locals, stack⟩
      ⟨locals, [] ++ stack⟩ := by
  have heldByMachine : (MachineFrame.ofFrame size ⟨locals, stack⟩).locals[slot]? = some .int :=
    MachineFrame.ofFrame_local held
  rw [← toNat_slot inRange] at heldByMachine
  apply Sound.of_stack [] []
  · exact .cons (.increment delta heldByMachine) (.nil _)
  · exact .nil

/-- Storing the top value in a slot with room for it. -/
theorem typed_store {slot : Nat} {kind : SlotKind} {value : ValueType}
    (inRange : slot ≤ Effect.lastSlot) (admitted : kind.admits (.ofValue value) = true)
    (room : MachineFrame.HasRoom (MachineFrame.ofFrame size ⟨locals, value :: stack⟩).locals slot
      (.ofValue value)) :
    Code.Typed graph result [.store kind (UInt16.ofNat slot)]
      (.ofFrame size ⟨locals, value :: stack⟩)
      ⟨MachineFrame.write (MachineFrame.ofFrame size ⟨locals, value :: stack⟩).locals slot
        (.ofValue value), stack.map .ofValue⟩ := by
  have slotNumber := toNat_slot inRange
  have typed : Instruction.Typed graph result (.store kind (UInt16.ofNat slot))
      (.ofFrame size ⟨locals, value :: stack⟩)
      ⟨MachineFrame.write (MachineFrame.ofFrame size ⟨locals, value :: stack⟩).locals
        (UInt16.ofNat slot).toNat (.ofValue value), stack.map .ofValue⟩ :=
    .store admitted (slotNumber.symm ▸ room)
  rw [slotNumber] at typed
  exact .cons typed (.nil _)

/-- A value stored behind the tracked locals becomes the last of them. -/
theorem Sound.storeLast {value : ValueType} (wellLaid : Frame.WellLaid ⟨locals, value :: stack⟩)
    (usable : value ≠ .top) (inRange : locals.length ≤ Effect.lastSlot)
    (large : (locals ++ Frame.slots value).length ≤ size) :
    Sound graph result size [.store (.ofValue value) (UInt16.ofNat locals.length)]
      ⟨locals, value :: stack⟩ ⟨locals ++ Frame.slots value, stack⟩ := by
  have free : ∀ slot, locals.length ≤ slot → slot < (locals ++ Frame.slots value).length →
      (MachineFrame.ofFrame size ⟨locals, value :: stack⟩).locals[slot]? = some .top :=
    fun slot behind within => MachineFrame.ofFrame_free behind (by omega)
  have within : locals.length < (locals ++ Frame.slots value).length := by
    cases wide : value.isWide with
    | true => simp [Frame.slots_of_wide wide]
    | false => simp [Frame.slots_of_narrow wide]
  have inFrame : locals.length <
      (MachineFrame.ofFrame size ⟨locals, value :: stack⟩).locals.length :=
    (List.getElem?_eq_some_iff.mp (free locals.length (Nat.le_refl _) within)).1
  have room : MachineFrame.HasRoom (MachineFrame.ofFrame size ⟨locals, value :: stack⟩).locals
      locals.length (.ofValue value) := by
    refine ⟨inFrame, ?_⟩
    intro wide
    rw [MachineType.isWide_ofValue] at wide
    apply free
    · omega
    · simp [Frame.slots_of_wide wide]
  have unreached : locals[locals.length]? ≠ some .top := by simp
  refine ⟨_, typed_store inRange (SlotKind.admits_ofValue usable) room, ?_,
    MachineFrame.standsFor_values stack⟩
  intro slot tracked held
  dsimp only at held ⊢
  -- A slot is an old local, the one that is written, or its second half.
  rcases Nat.lt_trichotomy slot locals.length with before | same | behind
  · rw [List.getElem?_append_left before] at held
    refine ⟨_, ?_, MachineType.fits_self tracked⟩
    rw [MachineFrame.write_other (Nat.ne_of_lt before)
      (fun _ => MachineFrame.narrow_below wellLaid unreached)]
    exact MachineFrame.ofFrame_local held
  · subst same
    rw [List.getElem?_append_right (Nat.le_refl _), Nat.sub_self, Frame.getElem?_slots_zero,
      Option.some.injEq] at held
    rw [← held]
    exact ⟨_, MachineFrame.write_same inFrame, MachineType.fits_self value⟩
  · have second : tracked = .top := by
      rw [List.getElem?_append_right (Nat.le_of_lt behind)] at held
      exact Frame.eq_top_of_slots (by omega) held
    refine ⟨.top, ?_, second ▸ .top⟩
    rw [MachineFrame.write_other (by omega) (by omega)]
    exact free slot (by omega) (List.getElem?_eq_some_iff.mp held).1

/-- A value stored in a tracked local stands for the value that is tracked there. -/
theorem Sound.storeAt {slot : Nat} {value found : ValueType}
    (wellLaid : Frame.WellLaid ⟨locals, found :: stack⟩) (held : locals[slot]? = some value)
    (usable : value ≠ .top) (fits : found.assignable graph value = true)
    (inRange : slot ≤ Effect.lastSlot) :
    Sound graph result size [.store (.ofValue value) (UInt16.ofNat slot)]
      ⟨locals, found :: stack⟩ ⟨locals, stack⟩ := by
  obtain ⟨sameKind, sameWidth⟩ := MachineType.kind_of_assignable fits
  have admitted : (SlotKind.ofValue value).admits (.ofValue found) = true := by
    rw [← sameKind]
    exact SlotKind.admits_ofValue (ValueType.ne_top_of_assignable fits)
  have room : MachineFrame.HasRoom (MachineFrame.ofFrame size ⟨locals, found :: stack⟩).locals
      slot (.ofValue found) := by
    obtain ⟨inFrame, paired⟩ := hasRoom_of_held size wellLaid held
    refine ⟨inFrame, ?_⟩
    rwa [MachineType.isWide_ofValue, sameWidth, ← MachineType.isWide_ofValue]
  have unreached : locals[slot]? ≠ some .top := by
    rw [held]
    exact fun same => usable (Option.some.inj same)
  refine ⟨_, typed_store inRange admitted room, ?_, MachineFrame.standsFor_values stack⟩
  intro other tracked trackedAt
  dsimp only at trackedAt ⊢
  by_cases same : other = slot
  · subst same
    rw [held, Option.some.injEq] at trackedAt
    rw [← trackedAt]
    exact ⟨_, MachineFrame.write_same room.1, MachineType.fits_of_assignable fits⟩
  · refine ⟨_, ?_, MachineType.fits_self tracked⟩
    rw [MachineFrame.write_other same
      (fun _ => MachineFrame.narrow_below wellLaid unreached)]
    exact MachineFrame.ofFrame_local trackedAt

/-! ### Copies -/

/-- Copies of blocks of tracked values. -/
theorem Sound.copy {slots between : Nat} (upper lower : List ValueType)
    (copies : instruction.copied? = some (slots, between))
    (upperBlock : MachineType.IsBlock (upper.map .ofValue) slots)
    (lowerBlock : MachineType.IsBlock (lower.map .ofValue) between) :
    Sound graph result size [instruction] ⟨locals, upper ++ (lower ++ stack)⟩
      ⟨locals, (upper ++ (lower ++ upper)) ++ stack⟩ := by
  have framed : MachineFrame.ofFrame size ⟨locals, upper ++ (lower ++ stack)⟩ =
      ⟨(MachineFrame.ofFrame size ⟨locals, upper ++ (lower ++ stack)⟩).locals,
        upper.map .ofValue ++ (lower.map .ofValue ++ stack.map .ofValue)⟩ := by
    simp [MachineFrame.ofFrame]
  apply Sound.of_stack ((upper ++ (lower ++ upper)).map .ofValue)
  · rw [framed]
    simp only [List.map_append, List.append_assoc]
    exact .cons (.copy copies upperBlock lowerBlock) (.nil _)
  · exact MachineFrame.standsFor_values _

theorem Sound.drop {value : ValueType} (usable : value ≠ .top)
    (drops : instruction.dropped? = some value.width) :
    Sound graph result size [instruction] ⟨locals, value :: stack⟩ ⟨locals, [] ++ stack⟩ := by
  have block := MachineType.isBlock_ofValue usable
  have typed : instruction.Typed graph result (.ofFrame size ⟨locals, value :: stack⟩)
      ⟨(MachineFrame.ofFrame size ⟨locals, value :: stack⟩).locals, [] ++ stack.map .ofValue⟩ :=
    .drop drops block
  apply Sound.of_stack []
  · exact .cons typed (.nil _)
  · exact .nil

theorem Sound.swap {lower upper : ValueType} (lowerBlock : MachineType.IsBlock [.ofValue lower] 1)
    (upperBlock : MachineType.IsBlock [.ofValue upper] 1) :
    Sound graph result size [.swap] ⟨locals, upper :: lower :: stack⟩
      ⟨locals, [lower, upper] ++ stack⟩ := by
  apply Sound.of_stack [.ofValue lower, .ofValue upper]
  · exact .cons (.swap lowerBlock upperBlock) (.nil _)
  · exact MachineFrame.standsFor_values [lower, upper]

/-! ### Conversions and constants -/

/-- Type that a row of conversions ends in, if each takes what the one before it gives. -/
def converted? : MachineType → List Conversion → Option MachineType
  | type, [] => some type
  | type, conversion :: rest =>
    if type = .ofNumber conversion.source then
      converted? (.ofField (.primitive conversion.target)) rest
    else none

theorem typed_convert (conversion : Conversion) (machineLocals machineStack : List MachineType) :
    Instruction.Typed graph result (.convert conversion)
      ⟨machineLocals, .ofNumber conversion.source :: machineStack⟩
      ⟨machineLocals, .ofField (.primitive conversion.target) :: machineStack⟩ := by
  have met : Demand.MetBy graph (.value (.ofNumber conversion.source))
      (.ofNumber conversion.source) :=
    .value (MachineType.fits_self conversion.source.valueType).usable
  exact @Instruction.Typed.signed graph result (.convert conversion) _ _ machineLocals
    [.ofNumber conversion.source] machineStack rfl (.cons met .nil)

theorem typed_conversions {conversions : List Conversion} {initial final : MachineType}
    {machineLocals machineStack : List MachineType}
    (converted : converted? initial conversions = some final) :
    Code.Typed graph result (conversions.map .convert) ⟨machineLocals, initial :: machineStack⟩
      ⟨machineLocals, final :: machineStack⟩ := by
  induction conversions generalizing initial with
  | nil =>
      cases converted
      exact .nil _
  | cons conversion rest inductionHypothesis =>
      simp only [converted?] at converted
      split at converted
      · rename_i takes
        rw [takes]
        exact .cons (typed_convert conversion _ _) (inductionHypothesis converted)
      · cases converted

/-- The conversions chosen for a number lead to the type that was asked for. -/
theorem converted?_conversions (kind : NumericKind) {target : Primitive}
    (notBoolean : target ≠ .boolean) :
    converted? (.ofNumber kind) (Effect.conversions kind target) =
      some (.ofField (.primitive target)) := by
  cases target with
  | boolean => exact absurd rfl notBoolean
  | _ => cases kind <;> rfl

theorem Sound.convert {value : ValueType} {kind : NumericKind} {target : Primitive}
    (valueKind : NumericKind.of? false value = some kind) (notBoolean : target ≠ .boolean) :
    Sound graph result size ((Effect.conversions kind target).map .convert)
      ⟨locals, value :: stack⟩ ⟨locals, [.ofPrimitive target] ++ stack⟩ := by
  have framed : MachineFrame.ofFrame size ⟨locals, value :: stack⟩ =
      ⟨(MachineFrame.ofFrame size ⟨locals, value :: stack⟩).locals,
        .ofNumber kind :: stack.map .ofValue⟩ := by
    rw [← MachineType.ofValue_of_number valueKind]
    rfl
  apply Sound.of_stack [.ofField (.primitive target)]
  · rw [framed]
    exact typed_conversions (converted?_conversions kind notBoolean)
  · exact .cons (MachineType.fits_self (.ofPrimitive target)) .nil

/-- Every instruction for a constant pushes something that stands for the tracked value. -/
theorem signature?_of_pushes (graph : ClassGraph) (result : Option FieldType) {value : ValueType}
    (pushes : instruction.Pushes value) :
    ∃ given, instruction.signature? result = some ⟨[], [given]⟩ ∧
      MachineType.StandsFor graph given value := by
  cases pushes with
  | null type => exact ⟨.null, rfl, .null type⟩
  | minusOne | smallInt | byte | short | int => exact ⟨.int, rfl, .int⟩
  | smallLong | long => exact ⟨.long, rfl, .long⟩
  | smallFloat | float => exact ⟨.float, rfl, .float⟩
  | smallDouble | double => exact ⟨.double, rfl, .double⟩
  | string => exact ⟨.object .string, rfl, MachineType.fits_self (.object .string)⟩

theorem Sound.constant {code : Code} {value : ValueType} (pushes : code.PushesConstant value) :
    Sound graph result size code ⟨locals, stack⟩ ⟨locals, [value] ++ stack⟩ := by
  cases pushes with
  | single pushes =>
      obtain ⟨given, table, stands⟩ := signature?_of_pushes graph result pushes
      exact Sound.signed [] [value] table .nil (.cons stands .nil)
  | @converted instruction conversion pushes source target =>
      obtain ⟨given, table, stands⟩ := signature?_of_pushes graph result pushes
      have isInt : given = .ofNumber conversion.source := by
        rw [source]
        cases stands
        rfl
      rw [isInt] at table
      have pushed : instruction.Typed graph result (.ofFrame size ⟨locals, stack⟩)
          ⟨(MachineFrame.ofFrame size ⟨locals, stack⟩).locals,
            .ofNumber conversion.source :: stack.map .ofValue⟩ :=
        .signed table .nil
      apply Sound.of_stack [.ofField (.primitive conversion.target)]
      · exact .cons pushed (.cons (typed_convert conversion _ _) (.nil _))
      · rw [← target]
        exact .cons (MachineType.fits_self (.ofPrimitive conversion.target)) .nil

end Code

/-! ## Operands -/

namespace Demand

variable {graph : ClassGraph}

theorem metBy_self (value : ValueType) : MetBy graph (.value (.ofValue value)) (.ofValue value) :=
  .value (MachineType.fits_self value).usable

theorem metBy_of_assignable {found wanted : ValueType}
    (fits : found.assignable graph wanted = true) :
    MetBy graph (.value (.ofValue wanted)) (.ofValue found) :=
  .value (MachineType.fits_of_assignable fits).usable

theorem metBy_of_number {allowBoolean : Bool} {value : ValueType} {kind : NumericKind}
    (number : NumericKind.of? allowBoolean value = some kind) :
    MetBy graph (.value (.ofNumber kind)) (.ofValue value) := by
  rw [MachineType.ofValue_of_number number]
  exact metBy_self kind.valueType

/-- Operands that meet requirements meet the demands that ask for no more. -/
theorem met_of_requirements {requirements : List Requirement} {demands : List Demand}
    {operands : List ValueType} (met : Requirement.Met graph requirements operands)
    (enough : List.Forall₂ (fun requirement demand => ∀ value,
      requirement.accepts graph value = true → MetBy graph demand (.ofValue value))
        requirements demands) :
    List.Forall₂ (MetBy graph) demands (operands.map .ofValue) := by
  induction enough generalizing operands with
  | nil =>
      cases met
      exact .nil
  | cons covers rest inductionHypothesis =>
      cases met with
      | cons accepted metRest =>
          exact .cons (covers _ accepted) (inductionHypothesis metRest)

end Demand

end TypedBytecode
