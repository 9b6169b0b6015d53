import TypedBytecode.Proofs.Agreement
import TypedBytecode.Proofs.Layout
import TypedBytecode.Proofs.Size

/-!
Contract: the local slots that emitted code names, over whole runs.

Owns:
- the accesses of instructions to local slots, with the kind of value they are made for;
- `Frame.Spaced`: every wide local has its second slot behind it, whatever descriptions are
  handed in;
- the run theorem: every access is to a slot with a value of its kind, and stays inside the size
  of the finished routine with all slots of that value.

Descriptions of frames may be handed in, also with a `top` that belongs to no wide local. Spliced
code is not covered.

Does not own: how an operation finds its slot.
-/

namespace TypedBytecode

/-! ## Accesses -/

/-- The values of a kind. A `top` is of no kind. -/
inductive SlotKind.Holds : SlotKind → ValueType → Prop where
  | int (kind : IntKind) : Holds .int (.int kind)
  | long : Holds .long .long
  | float : Holds .float .float
  | double : Holds .double .double
  | reference (type : RefType) : Holds .reference (.reference type)

theorem SlotKind.holds_ofValue {value : ValueType} (usable : value ≠ .top) :
    (SlotKind.ofValue value).Holds value := by
  cases value with
  | int kind => exact .int kind
  | long => exact .long
  | float => exact .float
  | double => exact .double
  | reference type => exact .reference type
  | top => exact absurd rfl usable

theorem SlotKind.Holds.width {kind : SlotKind} {value : ValueType} (holds : kind.Holds value) :
    kind.width = value.width := by
  cases holds <;> rfl

/-- The local slot that an instruction reads or writes, and the kind of value it is for. -/
def Instruction.access? : Instruction → Option (SlotKind × Nat)
  | .load kind slot => some (kind, slot.toNat)
  | .store kind slot => some (kind, slot.toNat)
  | .increment slot _ => some (.int, slot.toNat)
  | _ => none

def Emission.access? : Emission → Option (SlotKind × Nat)
  | .instruction emitted => emitted.access?
  | _ => none

theorem Code.PushesConstant.access?_eq_none {code : Code} {value : ValueType}
    (pushes : code.PushesConstant value) : ∀ instruction ∈ code, instruction.access? = none := by
  cases pushes with
  | single pushes => cases pushes <;> simp [Instruction.access?]
  | converted pushes source target => cases pushes <;> simp [Instruction.access?]

namespace Operation

/-- How an operation that emits an access finds a value of the kind in the slot, or brings one
there. -/
inductive Serves (operation : Operation) (before after : Frame) (kind : SlotKind) (slot : Nat) :
    Prop where
  | held {value : ValueType} (held : before.locals[slot]? = some value)
      (suits : kind.Holds value)
  | received {value : ValueType} (stores : operation = .storeLocal)
      (moved : before.stack.head? = some value)
      (received : after.locals[slot]? = some value)
      (extended : after.locals.length = slot + value.width) (suits : kind.Holds value)

section Serves

variable {graph : ClassGraph} {routine : Method} {offset : Nat} {operation : Operation}
  {before after : Frame} {code : Code} {instruction emitted : Instruction}
  {kind accessed : SlotKind} {slot place : Nat}

/-- Code of one instruction with an access has no other access. -/
theorem Serves.single (serves : operation.Serves before after accessed place)
    (names : emitted.access? = some (accessed, place)) (member : instruction ∈ [emitted])
    (accesses : instruction.access? = some (kind, slot)) :
    [emitted] = [instruction] ∧ operation.Serves before after kind slot := by
  have same : instruction = emitted := List.mem_singleton.mp member
  have sameAccess : some (accessed, place) = some (kind, slot) := by
    rw [← names, ← accesses, same]
  cases sameAccess
  exact ⟨by rw [same], serves⟩

/-- Only loads, stores and increments are accesses, and each is the whole code of its
operation. -/
theorem Performs.serves (performed : operation.Performs graph routine offset before after code)
    (member : instruction ∈ code) (accesses : instruction.access? = some (kind, slot)) :
    code = [instruction] ∧ operation.Serves before after kind slot := by
  have silent : (∀ other ∈ code, other.access? = none) →
      code = [instruction] ∧ operation.Serves before after kind slot := by
    intro none
    rw [none instruction member] at accesses
    cases accesses
  cases performed with
  | load reads held usable inRange =>
      refine Serves.single (.held held (SlotKind.holds_ofValue usable)) ?_ member accesses
      rw [Instruction.access?, Code.toNat_slot inRange]
  | @storeLocal locals stack value usable inRange =>
      have first : (locals ++ Frame.slots value)[locals.length]? = some value := by
        rw [List.getElem?_append_right (Nat.le_refl _), Nat.sub_self]
        exact Frame.getElem?_slots_zero value
      have count : (locals ++ Frame.slots value).length = locals.length + value.width := by
        rw [List.length_append, Frame.length_slots]
      have suits := SlotKind.holds_ofValue usable
      refine Serves.single (.received rfl rfl first count suits) ?_ member accesses
      rw [Instruction.access?, Code.toNat_slot inRange]
  | storeLocalAt leads held usable fits inRange =>
      refine Serves.single (.held held (SlotKind.holds_ofValue usable)) ?_ member accesses
      rw [Instruction.access?, Code.toNat_slot inRange]
  | increment delta leads held inRange =>
      refine Serves.single (.held held (.int _)) ?_ member accesses
      rw [Instruction.access?, Code.toNat_slot inRange]
  | constant chosen => exact silent (pushes_of_constant? chosen).access?_eq_none
  | pop value => exact silent (by cases value.isWide <;> simp [Instruction.access?])
  | dup value => exact silent (by cases value.isWide <;> simp [Instruction.access?])
  | dupUnder lower upper =>
      apply silent
      cases upperWide : upper.isWide <;> cases lowerWide : lower.isWide <;>
        simp [copyBeneath, upperWide, lowerWide, Instruction.access?]
  | newArray component =>
      exact silent (by cases component <;> simp [makeArray, Instruction.access?])
  | _ => exact silent (by simp [Instruction.access?])

end Serves

end Operation

/-! ## Second slots -/

namespace Frame

/-- Every wide local has its second slot behind it. Other slots may be `top` too. -/
def Spaced (frame : Frame) : Prop :=
  ∃ values : List ValueType, frame.locals = values.flatMap slots

namespace Spaced

variable {frame : Frame}

theorem ofValues (values stack : List ValueType) : (Frame.ofValues values stack).Spaced :=
  ⟨values, rfl⟩

/-- A local has room for all of its value. -/
theorem room (spaced : frame.Spaced) {slot : Nat} {value : ValueType}
    (held : frame.locals[slot]? = some value) : slot + value.width ≤ frame.locals.length := by
  obtain ⟨values, locals⟩ := spaced
  have inside : slot < frame.locals.length := (List.getElem?_eq_some_iff.mp held).1
  cases wide : value.isWide with
  | false =>
      simp only [ValueType.width, wide]
      exact inside
  | true =>
      rw [locals] at held
      have second := getElem?_slots_of_wide held wide
      rw [← locals] at second
      have secondInside : slot + 1 < frame.locals.length :=
        (List.getElem?_eq_some_iff.mp second).1
      simp only [ValueType.width, wide, ↓reduceIte]
      omega

theorem storeLast {locals stack : List ValueType} {value : ValueType}
    (spaced : Spaced ⟨locals, value :: stack⟩) : Spaced ⟨locals ++ slots value, stack⟩ := by
  obtain ⟨values, split⟩ := spaced
  refine ⟨values ++ [value], ?_⟩
  rw [List.flatMap_append, List.flatMap_singleton, ← split]

theorem popLocal (spaced : frame.Spaced) {value : ValueType} {rest : Frame}
    (popped : frame.popLocal? = some (value, rest)) : rest.Spaced := by
  obtain ⟨values, locals⟩ := spaced
  obtain ⟨front, -, rfl⟩ := values_of_popLocal? locals popped
  exact ⟨front, rfl⟩

/-- Whatever a description lists, it leads to a frame with all second slots. -/
theorem applyDelta {previous : Frame} {delta : FrameDelta}
    (applied : previous.applyDelta? delta = some frame) : frame.Spaced := by
  cases delta with
  | chop locals =>
      simp only [applyDelta?] at applied
      split at applied
      · cases applied
        exact .ofValues _ _
      · cases applied
  | _ =>
      cases applied
      exact .ofValues _ _

end Spaced

end Frame

/-- The whole value of an access is inside the locals before or after it. -/
theorem Operation.Serves.inside {operation : Operation} {before after : Frame} {kind : SlotKind}
    {slot : Nat} (serves : operation.Serves before after kind slot) (spaced : before.Spaced) :
    slot + kind.width ≤ before.locals.length ∨ slot + kind.width ≤ after.locals.length := by
  cases serves with
  | held held suits =>
      rw [suits.width]
      exact Or.inl (spaced.room held)
  | received _ _ _ extended suits =>
      rw [suits.width, extended]
      exact Or.inr (Nat.le_refl _)

/-- No operation tears the two slots of a wide local apart. -/
theorem Operation.Performs.spaced {graph : ClassGraph} {routine : Method} {offset : Nat}
    {operation : Operation} {before after : Frame} {code : Code}
    (performed : operation.Performs graph routine offset before after code)
    (spaced : before.Spaced) : after.Spaced := by
  cases performed with
  | storeLocal => exact spaced.storeLast
  | killLocal popped => exact spaced.popLocal popped
  | _ => exact spaced

namespace Builder

theorem spaced_run {routine : Method} {requests : List Request}
    (unspliced : ∀ request ∈ requests, request.call.isUnspliced = true) :
    ((start routine).run requests).AllFrames Frame.Spaced := by
  apply run_induction (AllFrames Frame.Spaced)
  · exact .start (.ofValues _ _)
  · intro request member before after spaced made
    refine spaced.makes (unspliced request member) ?_ ?_ ?_ made
    · intro operation _ _ code _ _ performed
      exact performed.spaced
    · intro locals operands stack held
      exact held
    · intro label delta frame _ applied
      exact .applyDelta applied

theorem HasRoom.makes {graph : ClassGraph} {builder next : Builder} {call : Call}
    (hasRoom : builder.HasRoom) (unspliced : call.isUnspliced = true)
    (made : Makes graph builder call next) : next.HasRoom := by
  have counted := made.maxLocals hasRoom unspliced
  unfold HasRoom
  omega

theorem hasRoom_run {routine : Method} {requests : List Request}
    (unspliced : ∀ request ∈ requests, request.call.isUnspliced = true) :
    ((start routine).run requests).HasRoom := by
  apply run_induction HasRoom
  · exact Nat.le_refl _
  · intro request member before after hasRoom made
    exact hasRoom.makes (unspliced request member) made

/-- Only operations emit accesses, and each emits no more than one. -/
theorem Makes.serves {step : Step} {instruction : Instruction} {kind : SlotKind} {slot : Nat}
    (made : Makes step.request.graph step.before step.request.call step.after)
    (unspliced : step.request.call.isUnspliced = true)
    (member : .instruction instruction ∈ step.emitted)
    (accesses : instruction.access? = some (kind, slot)) :
    step.emitted = [.instruction instruction] ∧
      ∃ operation current frame, step.request.call = .operation operation ∧
        step.before.current = some current ∧
        step.after.current = some { current with frame := frame } ∧
        operation.Serves current.frame frame kind slot := by
  generalize step.request.call = call at made unspliced ⊢
  generalize reached : step.after = after at made ⊢
  cases made with
  | @operation operation current frame code reachable performed =>
      rw [Step.emitted_of_code reached] at member ⊢
      have inCode : instruction ∈ code := by simpa using member
      obtain ⟨rfl, serves⟩ := performed.serves inCode accesses
      have passesOn : Code.isTerminal [instruction] = false := by
        cases instruction <;> first | rfl | cases accesses
      refine ⟨rfl, operation, current, frame, rfl, reachable, ?_, serves⟩
      simp [afterCode, passesOn]
  | splice => cases unspliced
  | @jump branch source target =>
      rw [Step.emitted_of_jump reached, List.mem_singleton] at member
      cases member
      cases branch <;> cases accesses
  | declare => simp [Step.emitted_of_label reached] at member
  | freshLabel => simp [Step.emitted_of_freshLabel reached] at member

/-- Whatever calls are made, successful or not, and however frames are described: every access of
a finished routine is the whole code of a step. The slot holds a value of exactly the kind of the
access before that step, or gets it from the stack, as a new local. All slots of the value are
inside the size that is reported. -/
theorem accesses_inside (routine : Method) (requests : List Request)
    (unspliced : ∀ request ∈ requests, request.call.isUnspliced = true) (listing : Listing)
    (finished : ((start routine).run requests).finish = .ok listing) :
    ∀ front instruction back, listing.emissions = front ++ .instruction instruction :: back →
      ∀ kind slot, instruction.access? = some (kind, slot) →
        slot + kind.width ≤ listing.size.maxLocals ∧
          ∃ step ∈ (start routine).steps requests,
            step.before.emissions = front ∧ step.emitted = [.instruction instruction] ∧
              ∃ operation current frame, step.request.call = .operation operation ∧
                step.before.current = some current ∧
                step.after.current = some { current with frame := frame } ∧
                operation.Serves current.frame frame kind slot := by
  intro front instruction back split kind slot accesses
  rw [emissions_of_finish finished] at split
  obtain ⟨step, member, earlier, later, emitted, located⟩ := step_of_emission split
  obtain ⟨asked, behind, rfl, reached, stepped⟩ := mem_steps member
  obtain ⟨before, rest⟩ := List.forall_mem_append.mp unspliced
  obtain ⟨itself, rest⟩ := List.forall_mem_cons.mp rest
  have made := makes_of_call stepped
  obtain ⟨alone, operation, current, frame, performs, reachable, goesOn, serves⟩ :=
    made.serves itself (by rw [emitted]; simp) accesses
  have first : earlier = [] := by
    rw [alone] at emitted
    have counted : 1 = earlier.length + (later.length + 1) := by
      simpa using congrArg List.length emitted
    exact List.length_eq_zero_iff.mp (by omega)
  refine ⟨?_, step, member, by rw [located, first, List.append_nil], alone,
    operation, current, frame, performs, reachable, goesOn, serves⟩
  have spaced := (spaced_run before).current current (reached ▸ reachable)
  have roomBefore : step.before.HasRoom := reached ▸ hasRoom_run before
  have roomAfter := roomBefore.makes itself made
  have inside : slot + kind.width ≤ step.after.maxLocals := by
    have counted := made.maxLocals roomBefore itself
    have trackedBefore := roomBefore.locals_le reachable
    have trackedAfter : frame.locals.length ≤ step.after.maxLocals := roomAfter.locals_le goesOn
    rcases serves.inside spaced with insideBefore | insideAfter
    · omega
    · omega
  calc slot + kind.width ≤ step.after.maxLocals := inside
    _ ≤ ((start routine).run (asked ++ step.request :: behind)).maxLocals := by
      rw [run_after_step stepped reached]
      exact maxLocals_le_run roomAfter rest
    _ = listing.size.maxLocals := by rw [size_of_finish finished]

/-- Calls that store behind a wide parameter, and give up the last local. A label that no code
comes to is described with a `top` in every slot of the parameter, a `double`, and another `top`
behind it. Three loads fail: of a local that is given up, of a second slot, and of the last
`top`. -/
def scatteredLocals : List Request :=
  [.operation (.loadParameter 0), .operation .storeLocal, .operation (.constInt 5),
    .operation .storeLocal, .operation (.increment 2 1), .operation (.loadLocal 0),
    .operation (.storeLocalAt 0), .operation .killLocal, .operation (.loadLocal 2),
    .operation (.loadLocal 1), .operation .returnValue,
    .declare ⟨0⟩ (.described (.full [.top, .top, .double, .top, .int .int] [])),
    .operation (.loadLocal 3), .operation (.loadLocal 2), .operation .pop,
    .operation (.loadLocal 0), .operation .storeLocal, .operation .returnValue].map (⟨.empty, ·⟩)

theorem accesses_inside_scatteredLocals :
    (∀ request ∈ scatteredLocals, request.call.isUnspliced = true) ∧
      ∃ listing, ((start wideRoutine).run scatteredLocals).finish = .ok listing ∧
        listing.size.maxLocals = 8 ∧
        listing.emissions.filterMap Emission.access? =
          [(.long, 0), (.long, 2), (.int, 4), (.int, 4), (.long, 2), (.long, 2), (.int, 5),
            (.double, 2), (.double, 6)] ∧
        ∀ front instruction back, listing.emissions = front ++ .instruction instruction :: back →
          ∀ kind slot, instruction.access? = some (kind, slot) →
            slot + kind.width ≤ listing.size.maxLocals ∧
              ∃ step ∈ (start wideRoutine).steps scatteredLocals,
                step.before.emissions = front ∧ step.emitted = [.instruction instruction] ∧
                  ∃ operation current frame, step.request.call = .operation operation ∧
                    step.before.current = some current ∧
                    step.after.current = some { current with frame := frame } ∧
                    operation.Serves current.frame frame kind slot := by
  have unspliced : ∀ request ∈ scatteredLocals, request.call.isUnspliced = true := by decide
  have indexed : ((start wideRoutine).run scatteredLocals).Indexed := indexed_run unspliced
  have finished := finish_of_resolved (indexed.resolved_iff.mpr (by decide +kernel))
  exact ⟨unspliced, _, finished, by decide +kernel, by decide +kernel,
    accesses_inside wideRoutine scatteredLocals unspliced _ finished⟩

end Builder

end TypedBytecode
