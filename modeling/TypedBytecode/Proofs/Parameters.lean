import TypedBytecode.Proofs.Agreement
import TypedBytecode.Proofs.Balance

/-!
Contract: the receiver and the parameters of a routine, which stay in the slots they come in.

Owns:
- where a value stands among the slots of others, by the widths of those before it;
- `Frame.Seeded`: the locals are those of given values, with whole locals behind them;
- the two ways to a parameter's slot, by adding locals on entry and by adding up widths at each
  load, and their agreement;
- the run theorem: whatever is stored, ended, joined and declared, the locals begin with the
  receiver and the parameters, and loading one of them gives its declared type.

Locals may be ended, but only behind the parameters. Spliced code and descriptions that are handed
in are not covered.

Does not own: indices of other locals.
-/

namespace TypedBytecode

namespace Frame

/-! ## Slots by width -/

theorem length_flatMap_slots (values : List ValueType) :
    (values.flatMap slots).length = totalWidth ValueType.width values := by
  induction values with
  | nil => rfl
  | cons value values inductionHypothesis =>
      rw [List.flatMap_cons, List.length_append, length_slots, inductionHypothesis,
        totalWidth.of_cons]

/-- A value stands behind as many slots as those before it take. -/
theorem getElem?_slots_of_append (front : List ValueType) (value : ValueType)
    (back : List ValueType) :
    ((front ++ value :: back).flatMap slots)[totalWidth ValueType.width front]? = some value := by
  have room : 0 < (slots value).length :=
    (List.getElem?_eq_some_iff.mp (getElem?_slots_zero value)).1
  rw [List.flatMap_append, List.flatMap_cons, ← length_flatMap_slots,
    List.getElem?_append_right (Nat.le_refl _), Nat.sub_self, List.getElem?_append_left room]
  exact getElem?_slots_zero value

/-! ## Seeds -/

/-- The locals are those of the given values, with whole locals behind them. -/
def Seeded (values : List ValueType) (frame : Frame) : Prop :=
  ∃ further : List ValueType, frame.locals = (values ++ further).flatMap slots

namespace Seeded

variable {values front back : List ValueType} {value : ValueType} {frame : Frame}

theorem ofValues (values stack : List ValueType) : (Frame.ofValues values stack).Seeded values :=
  ⟨[], by rw [List.append_nil, Frame.ofValues]⟩

theorem begins (seeded : frame.Seeded values) : values.flatMap slots <+: frame.locals := by
  obtain ⟨further, locals⟩ := seeded
  rw [locals, List.flatMap_append]
  exact List.prefix_append _ _

/-- Each value is found behind the widths of those before it. -/
theorem held (seeded : frame.Seeded (front ++ value :: back)) :
    frame.locals[totalWidth ValueType.width front]? = some value := by
  obtain ⟨further, locals⟩ := seeded
  rw [locals, List.append_assoc, List.cons_append]
  exact getElem?_slots_of_append front value (back ++ further)

theorem storeLast {locals stack : List ValueType}
    (seeded : Seeded values ⟨locals, value :: stack⟩) :
    Seeded values ⟨locals ++ slots value, stack⟩ := by
  obtain ⟨further, split⟩ := seeded
  refine ⟨further ++ [value], ?_⟩
  rw [← List.append_assoc, List.flatMap_append, List.flatMap_singleton, ← split]

/-- Where there are more slots than those of the values, the last local is none of them, and
ending it takes nothing but its own slots. -/
theorem popLocal (seeded : frame.Seeded values)
    (more : (values.flatMap slots).length < frame.locals.length) {rest : Frame}
    (popped : frame.popLocal? = some (value, rest)) : rest.Seeded values := by
  obtain ⟨further, locals⟩ := seeded
  obtain ⟨front, split, rfl⟩ := values_of_popLocal? locals popped
  rcases List.eq_nil_or_concat further with rfl | ⟨before, last, rfl⟩
  · rw [locals, List.append_nil] at more
    exact absurd more (Nat.lt_irrefl _)
  · rw [List.concat_eq_append, ← List.append_assoc] at split
    obtain ⟨kept, -⟩ := List.append_inj' split rfl
    exact ⟨before, by rw [kept]⟩

end Seeded

end Frame

/-- Operations only add whole locals and end the last one. -/
theorem Operation.Performs.seeded {graph : ClassGraph} {routine : Method} {offset : Nat}
    {operation : Operation} {before after : Frame} {code : Code} {values : List ValueType}
    (performed : operation.Performs graph routine offset before after code)
    (spares : operation = .killLocal → (values.flatMap Frame.slots).length < before.locals.length)
    (seeded : before.Seeded values) : after.Seeded values := by
  cases performed with
  | storeLocal => exact seeded.storeLast
  | killLocal popped => exact seeded.popLocal (spares rfl) popped
  | _ => exact seeded

/-! ## On entry -/

namespace Builder

/-- What a routine is entered with: the receiver, if there is one, then the parameters. -/
def entryValues (routine : Method) : List ValueType :=
  (if routine.isStatic then [] else [.object routine.owner]) ++
    routine.type.parameters.map .ofFieldType

theorem locals_entryFrame (routine : Method) :
    (entryFrame routine).locals = (entryValues routine).flatMap Frame.slots := rfl

theorem totalWidth_ofFieldType (types : List FieldType) :
    totalWidth ValueType.width (types.map .ofFieldType) = totalWidth FieldType.width types := by
  induction types with
  | nil => rfl
  | cons type types inductionHypothesis =>
      rw [List.map_cons, totalWidth.of_cons, totalWidth.of_cons, ValueType.width_ofFieldType,
        inductionHypothesis]

theorem length_entryFrame (routine : Method) :
    (entryFrame routine).locals.length = routine.type.argumentWidth (!routine.isStatic) := by
  rw [locals_entryFrame, Frame.length_flatMap_slots, entryValues, totalWidth.of_append,
    totalWidth_ofFieldType, MethodType.argumentWidth, MethodType.parameterWidth]
  cases routine.isStatic <;> rfl

/-- Relative indices start behind the receiver and the parameters. -/
theorem localOffset_run (routine : Method) (requests : List Request) :
    ((start routine).run requests).localOffset =
      routine.type.argumentWidth (!routine.isStatic) := by
  rw [localOffset, entry_run, length_entryFrame]

theorem entryValues_of_instance {routine : Method} (isInstance : routine.isStatic = false) :
    entryValues routine =
      [] ++ .object routine.owner :: routine.type.parameters.map .ofFieldType := by
  simp [entryValues, isInstance]

/-- The values before a parameter take the slots that lead to its own. -/
theorem entryValues_of_parameter {routine : Method} {index : Nat} {type : FieldType}
    (declared : routine.type.parameters[index]? = some type) :
    ∃ front back, entryValues routine = front ++ .ofFieldType type :: back ∧
      totalWidth ValueType.width front = Operation.parameterSlot routine index := by
  obtain ⟨inside, isType⟩ := List.getElem?_eq_some_iff.mp declared
  have split : routine.type.parameters =
      routine.type.parameters.take index ++ type :: routine.type.parameters.drop (index + 1) := by
    rw [← isType, List.getElem_cons_drop, List.take_append_drop]
  refine ⟨(if routine.isStatic then [] else [.object routine.owner]) ++
    (routine.type.parameters.take index).map .ofFieldType,
    (routine.type.parameters.drop (index + 1)).map .ofFieldType, ?_, ?_⟩
  · conv_lhs => rw [entryValues, split, List.map_append, List.map_cons, ← List.append_assoc]
  · rw [totalWidth.of_append, totalWidth_ofFieldType, Operation.parameterSlot]
    cases routine.isStatic <;> rfl

end Builder

/-! ## Loads -/

/-- An operation that loads a slot is planned as a load of that slot. -/
theorem Operation.plan_of_loadSlot? {graph : ClassGraph} {routine : Method} {offset slot : Nat}
    {operation : Operation} (reads : operation.loadSlot? routine offset = some slot) :
    operation.plan graph routine offset = .ok (Effect.loadSlot operation.name slot) := by
  cases operation with
  | loadThis =>
      simp only [loadSlot?, Option.ite_none_left_eq_some, Option.some.injEq] at reads
      obtain ⟨notStatic, rfl⟩ := reads
      simp [plan, notStatic]
  | loadParameter index =>
      simp only [loadSlot?, Option.ite_none_right_eq_some, Option.some.injEq] at reads
      obtain ⟨declared, rfl⟩ := reads
      simp [plan, Nat.not_le.mpr declared]
  | loadLocal index =>
      rw [loadSlot?] at reads
      cases leads : relativeSlot offset index with
      | error cause =>
          rw [leads] at reads
          cases reads
      | ok found =>
          rw [leads] at reads
          cases reads
          rw [plan, leads]
          rfl
  | _ => cases reads

namespace Builder

/-- An operation loads a slot: wherever code can be reached it succeeds, pushes exactly the value
and emits one instruction, which names the slot. -/
def Loads (builder : Builder) (operation : Operation) (slot : Nat) (value : ValueType) : Prop :=
  ∀ graph current, builder.current = some current → ∃ next index,
    builder.call graph (.operation operation) = .ok next ∧
      next.current = some { current with frame := current.frame.push value } ∧
      next.emissions = builder.emissions ++ [.instruction (.load (.ofValue value) index)] ∧
      index.toNat = slot

theorem Loads.of_held {builder : Builder} {operation : Operation} {slot : Nat}
    {value : ValueType}
    (reads : operation.loadSlot? builder.routine builder.localOffset = some slot)
    (held : ∀ current, builder.current = some current →
      current.frame.locals[slot]? = some value)
    (usable : value ≠ .top) (inRange : slot ≤ Effect.lastSlot) :
    builder.Loads operation slot value := by
  intro graph current reachable
  have called : builder.call graph (.operation operation) =
      .ok (builder.afterCode current (current.frame.push value)
        [.load (.ofValue value) (UInt16.ofNat slot)]) := by
    rw [call_of_plan (Operation.plan_of_loadSlot? reads) reachable,
      Effect.loadSlot_eq_ok.mpr ⟨value, held current reachable, usable, inRange, rfl, rfl⟩]
    rfl
  exact ⟨_, UInt16.ofNat slot, called, rfl, emissions_afterCode, Code.toNat_slot inRange⟩

end Builder

/-! ## Runs -/

/-- Calls that end a local. -/
def Call.endsLocal : Call → Bool
  | .operation .killLocal => true
  | _ => false

namespace Builder

/-- A local is ended only while there are more slots than the receiver and the parameters take. -/
def Spares (builder : Builder) (request : Request) : Prop :=
  request.call.endsLocal = true →
    ∀ current ∈ builder.current, builder.localOffset < current.frame.locals.length

instance (builder : Builder) (request : Request) : Decidable (builder.Spares request) :=
  inferInstanceAs (Decidable (request.call.endsLocal = true →
    ∀ current ∈ builder.current, builder.localOffset < current.frame.locals.length))

section Seeded

variable {routine : Method} {requests : List Request}

theorem AllFrames.makes_seeded {graph : ClassGraph} {builder next : Builder} {request : Request}
    (entered : builder.entry = entryFrame routine)
    (seeded : builder.AllFrames (Frame.Seeded (entryValues routine)))
    (tracked : request.call.isTracked = true) (spares : builder.Spares request)
    (made : Makes graph builder request.call next) :
    next.AllFrames (Frame.Seeded (entryValues routine)) := by
  have unspliced : request.call.isUnspliced = true := by
    cases called : request.call <;> simp_all [Call.isTracked, Call.isUnspliced]
  refine seeded.makes unspliced ?_ ?_ ?_ made
  · intro operation current after code performs reachable performed held
    refine performed.seeded ?_ held
    rintro rfl
    have more := spares (by rw [performs]; rfl) current reachable
    rwa [localOffset, entered, locals_entryFrame] at more
  · intro locals operands stack held
    exact held
  · intro label delta frame described
    rw [described] at tracked
    cases tracked

theorem seeded_run (tracked : ∀ request ∈ requests, request.call.isTracked = true)
    (spares : (start routine).AllAlong Spares requests) :
    ((start routine).run requests).AllFrames (Frame.Seeded (entryValues routine)) := by
  suffices kept : ((start routine).run requests).entry = entryFrame routine ∧
      ((start routine).run requests).AllFrames (Frame.Seeded (entryValues routine)) from kept.2
  apply spares.induction (fun builder => builder.entry = entryFrame routine ∧
    builder.AllFrames (Frame.Seeded (entryValues routine)))
  · exact ⟨rfl, .start (.ofValues _ _)⟩
  · rintro request member before after ⟨entered, seeded⟩ spared made
    exact ⟨made.entry.trans entered,
      seeded.makes_seeded entered (tracked request member) spared made⟩

end Seeded

/-- The receiver and the parameters of a routine are where they came in, in all frames, and can be
loaded from there. -/
structure KeepsParameters (routine : Method) (builder : Builder) : Prop where
  entry : builder.entry = entryFrame routine
  current : ∀ current, builder.current = some current →
    builder.entry.locals <+: current.frame.locals
  pending : ∀ label brought, builder.labels.pending? label = some brought →
    builder.entry.locals <+: brought.snapshot.frame.locals
  placed : ∀ label settled, builder.labels.placed? label = some settled →
    builder.entry.locals <+: settled.snapshot.frame.locals
  offset : builder.localOffset = routine.type.argumentWidth (!routine.isStatic)
  receiver : routine.isStatic = false → builder.Loads .loadThis 0 (.object routine.owner)
  parameter : ∀ index : UInt64, ∀ type, routine.type.parameters[index.toNat]? = some type →
    Operation.parameterSlot routine index.toNat ≤ Effect.lastSlot →
      builder.Loads (.loadParameter index) (Operation.parameterSlot routine index.toNat)
        (.ofFieldType type)

/-- Frames that begin with the values on entry are all that loads of them need. -/
theorem KeepsParameters.of_seeded {routine : Method} {builder : Builder}
    (sameRoutine : builder.routine = routine) (entered : builder.entry = entryFrame routine)
    (seeded : builder.AllFrames (Frame.Seeded (entryValues routine))) :
    builder.KeepsParameters routine := by
  have begins : ∀ frame : Frame, frame.Seeded (entryValues routine) →
      builder.entry.locals <+: frame.locals := by
    intro frame held
    rw [entered, locals_entryFrame]
    exact held.begins
  refine ⟨entered, ?_, ?_, ?_, ?_, ?_, ?_⟩
  · intro current reachable
    exact begins _ (seeded.current current reachable)
  · intro label brought found
    exact begins _ (seeded.labels label _ (LabelFrames.pending?_eq_some.mp found))
  · intro label settled found
    exact begins _ (seeded.labels label _ (LabelFrames.placed?_eq_some.mp found))
  · rw [localOffset, entered, length_entryFrame]
  · intro isInstance
    refine .of_held ?_ ?_ (ValueType.object_ne_top _) (Nat.zero_le _)
    · simp [Operation.loadSlot?, sameRoutine, isInstance]
    · intro current reachable
      have held := seeded.current current reachable
      rw [entryValues_of_instance isInstance] at held
      exact held.held
  · intro index type declared inRange
    have inside : index.toNat < routine.type.parameters.length :=
      (List.getElem?_eq_some_iff.mp declared).1
    obtain ⟨front, back, split, leads⟩ := entryValues_of_parameter declared
    refine .of_held ?_ ?_ (ValueType.ofFieldType_ne_top _) inRange
    · simp [Operation.loadSlot?, sameRoutine, inside]
    · intro current reachable
      have held := seeded.current current reachable
      rw [split] at held
      rw [← leads]
      exact held.held

/-- Whatever calls are made, successful or not, as long as no local is ended that is a parameter:
the locals on entry begin those of every frame. There are as many as the type of the routine says,
and the receiver and each declared parameter can be loaded with their own types. -/
theorem parameters_stay (routine : Method) (requests : List Request)
    (tracked : ∀ request ∈ requests, request.call.isTracked = true)
    (spares : (start routine).AllAlong Spares requests) :
    ((start routine).run requests).KeepsParameters routine :=
  .of_seeded (routine_run routine requests) (entry_run routine requests)
    (seeded_run tracked spares)

/-- An instance routine with parameters of both widths. -/
def mixedRoutine : Method :=
  ⟨⟨"A"⟩, ⟨"f"⟩, ⟨[.primitive .long, .primitive .int, .primitive .double], none⟩, .empty⟩

/-- Calls that store a wide and a narrow local, overwrite one, and bring both to a label. There,
both are ended before the label is left again; a load of one of them fails then. -/
def storesBehindParameters : List Request :=
  [.operation (.loadParameter 2), .operation .storeLocal, .operation (.loadParameter 1),
    .operation .storeLocal, .operation (.constInt 7), .operation (.storeLocalAt 2),
    .operation (.loadLocal 2), .jump (.ifZero .eq) none ⟨0⟩, .declare ⟨0⟩ .recorded,
    .operation .killLocal, .operation .killLocal, .operation (.loadLocal 0),
    .operation (.constInt 0), .jump (.ifZero .ne) (some ⟨0⟩) ⟨1⟩].map (⟨.empty, ·⟩)

theorem parameters_stay_behind_stores :
    (∀ request ∈ storesBehindParameters, request.call.isTracked = true) ∧
      (start mixedRoutine).AllAlong Spares storesBehindParameters ∧
      ((start mixedRoutine).steps storesBehindParameters).length = 13 ∧
      mixedRoutine.isStatic = false ∧ Operation.parameterSlot mixedRoutine 2 = 4 ∧
      ((start mixedRoutine).run storesBehindParameters).KeepsParameters mixedRoutine := by
  have tracked : ∀ request ∈ storesBehindParameters, request.call.isTracked = true := by decide
  have spares : (start mixedRoutine).AllAlong Spares storesBehindParameters := by decide
  exact ⟨tracked, spares, by decide, by decide, by decide,
    parameters_stay mixedRoutine storesBehindParameters tracked spares⟩

end Builder

end TypedBytecode
