import TypedBytecode.Proofs.Run

/-!
Contract: all paths that come to a label bring the same frame, over whole runs.

Owns:
- the frame on record for a label, which jumps and declarations only ever confirm;
- which steps emit jumps and labels;
- the run theorem: the jumps to a label, the code that falls through into it and the code
  behind it agree on the locals and the stack.

Does not own: how the frame of a label is described.
-/

namespace TypedBytecode

/-! ## Code without jumps -/

theorem Instruction.Pushes.target?_eq_none {instruction : Instruction} {value : ValueType}
    (pushes : instruction.Pushes value) : instruction.target? = none := by
  cases pushes <;> rfl

theorem Code.PushesConstant.target?_eq_none {code : Code} {value : ValueType}
    (pushes : code.PushesConstant value) : ∀ instruction ∈ code, instruction.target? = none := by
  cases pushes with
  | single pushes => simpa using pushes.target?_eq_none
  | converted pushes source target => simpa [Instruction.target?] using pushes.target?_eq_none

namespace Operation

/-- Only jumps have a target: no operation emits an instruction that has one. -/
theorem Performs.target?_eq_none {graph : ClassGraph} {routine : Method} {offset : Nat}
    {operation : Operation} {before after : Frame} {code : Code}
    (performed : operation.Performs graph routine offset before after code) :
    ∀ instruction ∈ code, instruction.target? = none := by
  cases performed with
  | constant chosen => exact (pushes_of_constant? chosen).target?_eq_none
  | pop value => cases value.isWide <;> simp [Instruction.target?]
  | dup value => cases value.isWide <;> simp [Instruction.target?]
  | dupUnder lower upper =>
      cases upperWide : upper.isWide <;> cases lowerWide : lower.isWide <;>
        simp [copyBeneath, upperWide, lowerWide, Instruction.target?]
  | newArray component => cases component <;> simp [makeArray, Instruction.target?]
  | _ => simp [Instruction.target?]

end Operation

/-! ## The frame on record for a label -/

namespace Builder

variable {graph : ClassGraph} {builder next : Builder} {label : Label} {frame : Frame}
  {call : Call}

/-- The frame on record for a label, from the first jump to it or from its declaration. -/
def frameOnRecord? (builder : Builder) (label : Label) : Option Frame :=
  (builder.labels.find? label).map (fun state => state.frame.snapshot.frame)

theorem frameOnRecord?_eq_some :
    builder.frameOnRecord? label = some frame ↔
      ∃ state, builder.labels.find? label = some state ∧ state.frame.snapshot.frame = frame :=
  Option.map_eq_some_iff

/-- After a jump, what it brings is on record for its target. -/
theorem frameOnRecord?_of_jump {labels : LabelFrames} {brought : LabelFrame} {backward : Bool}
    {current : Snapshot} {instruction : Instruction}
    (recorded : builder.labels.recordJump label brought backward = .ok labels) :
    (builder.afterJump current frame labels instruction).frameOnRecord? label =
      some brought.snapshot.frame := by
  rcases LabelFrames.recordJump_eq_ok.mp recorded with ⟨-, rfl⟩ | ⟨state, found, same, rfl⟩
  · simp [frameOnRecord?, afterJump, LabelFrames.find?_set_same, LabelState.frame]
  · simp [frameOnRecord?, afterJump, found, same]

theorem frameOnRecord?_of_place {settled : LabelFrame} :
    (builder.afterLabel label settled).frameOnRecord? label = some settled.snapshot.frame := by
  simp [frameOnRecord?, afterLabel, LabelFrames.find?_set_same, LabelState.frame]

/-- A declaration without a given description agrees with the code that falls through and with
the frame on record. -/
theorem Settles.agrees {framing : Framing} {settled : LabelFrame}
    (settles : builder.Settles label framing settled)
    (tracked : (Call.declare label framing).isTracked = true) :
    builder.Agrees label settled.snapshot.frame := by
  cases settles with
  | recorded found agreed => exact agreed
  | fromEntry agreed => exact agreed
  | fromLabel found agreed => exact agreed
  | arriving => cases tracked
  | applied => cases tracked

/-- One call keeps the frame on record for every label. -/
theorem Makes.frameOnRecord? (made : Makes graph builder call next)
    (tracked : call.isTracked = true) (known : builder.frameOnRecord? label = some frame) :
    next.frameOnRecord? label = some frame := by
  cases made with
  | operation => exact known
  | splice => cases tracked
  | @jump _ _ target _ _ _ _ _ reachable met taken based recorded =>
      rcases LabelFrames.recordJump_eq_ok.mp recorded with ⟨unknown, rfl⟩ | ⟨_, -, -, rfl⟩
      · have different : label ≠ target := by
          rintro rfl
          simp [Builder.frameOnRecord?, unknown] at known
        simpa [Builder.frameOnRecord?, afterJump, LabelFrames.find?_set_other different] using known
      · exact known
  | @declare declared _ settled unplaced settles =>
      by_cases same : label = declared
      · subst same
        rw [frameOnRecord?_of_place]
        obtain ⟨state, found, rfl⟩ := frameOnRecord?_eq_some.mp known
        -- The label is not placed yet, so what is on record comes from jumps.
        cases state with
        | pending brought =>
            have agreed := settles.agrees tracked
            rw [← agreed.recorded brought (LabelFrames.pending?_eq_some.mpr found)]
            rfl
        | placed earlier =>
            rw [LabelFrames.placed?_eq_some.mpr found] at unplaced
            cases unplaced
      · simpa [Builder.frameOnRecord?, afterLabel, LabelFrames.find?_set_other same] using known
  | freshLabel => exact known

/-- A run keeps the frame on record for every label. -/
theorem frameOnRecord?_run {requests : List Request}
    (tracked : ∀ request ∈ requests, request.call.isTracked = true)
    (known : builder.frameOnRecord? label = some frame) :
    (builder.run requests).frameOnRecord? label = some frame :=
  run_induction (fun builder => builder.frameOnRecord? label = some frame) known
    (fun request member _ _ held made => made.frameOnRecord? (tracked request member) held)

end Builder

/-! ## Jumps and declarations in a run -/

namespace Step

variable {step : Step} {label : Label}

/-- A step that emits a jump leaves the frame that is then on record for the target. -/
theorem left?_of_emits {instruction : Instruction}
    (made : Builder.Makes step.request.graph step.before step.request.call step.after)
    (tracked : step.request.call.isTracked = true)
    (emits : .instruction instruction ∈ step.emitted)
    (targets : instruction.target? = some label) :
    ∃ frame, step.left? = some frame ∧ step.after.frameOnRecord? label = some frame := by
  generalize called : step.request.call = call at made tracked
  generalize reached : step.after = after at made
  cases made with
  | @operation _ _ _ code reachable performed =>
      have member : instruction ∈ code := by
        simpa [emitted_of_code reached] using emits
      rw [performed.target?_eq_none instruction member] at targets
      cases targets
  | splice => cases tracked
  | @jump branch _ target _ _ frame _ _ reachable met taken based recorded =>
      have same : instruction = branch.instruction target := by
        simpa [emitted_of_jump reached] using emits
      have aimed : label = target := by
        rw [same] at targets
        cases branch <;> exact (Option.some.inj targets).symm
      rw [aimed]
      exact ⟨frame, left?_of_taken called reachable met taken,
        Builder.frameOnRecord?_of_jump recorded⟩
  | declare => simp [emitted_of_label reached] at emits
  | freshLabel => simp [emitted_of_freshLabel reached] at emits

/-- A step that emits a label makes the frame on record current, and the code before the label
had that frame if it can be left. -/
theorem current_of_emits
    (made : Builder.Makes step.request.graph step.before step.request.call step.after)
    (tracked : step.request.call.isTracked = true) (emits : .label label ∈ step.emitted) :
    ∃ frame, step.after.current.map Snapshot.frame = some frame ∧
      (∀ fallen, step.before.current = some fallen → fallen.frame = frame) ∧
      step.after.frameOnRecord? label = some frame := by
  obtain ⟨framing, settled, called, settles, reached⟩ := declares_of_emits made emits
  rw [called] at tracked
  rw [reached]
  refine ⟨settled.snapshot.frame, rfl, ?_, Builder.frameOnRecord?_of_place⟩
  intro fallen current
  have arrives := (settles.agrees tracked).arrives
  simpa [Builder.arriving?, current] using arrives

end Step

namespace Builder

/-- What a step puts on record is on record at the end of the run. -/
theorem frameOnRecord?_of_step {builder : Builder} {requests : List Request} {step : Step}
    {label : Label} {frame : Frame}
    (tracked : ∀ request ∈ requests, request.call.isTracked = true)
    (member : step ∈ builder.steps requests)
    (known : step.after.frameOnRecord? label = some frame) :
    (builder.run requests).frameOnRecord? label = some frame := by
  obtain ⟨front, back, rfl, reached, stepped⟩ := mem_steps member
  rw [run_after_step stepped reached]
  exact frameOnRecord?_run (fun request later => tracked request (by simp [later])) known

/-- Whatever calls are made, successful or not: at a label that gets declared, all jumps to it
left the frame that the declaration makes current, whether they came before or after it, and so
did the code that falls through into it. The frame on record for a label never changes. -/
theorem joins_agree (routine : Method) (requests : List Request)
    (tracked : ∀ request ∈ requests, request.call.isTracked = true) :
    (∀ declaration ∈ (start routine).steps requests, ∀ label,
      .label label ∈ declaration.emitted →
        ∃ frame, declaration.after.current.map Snapshot.frame = some frame ∧
          (∀ fallen, declaration.before.current = some fallen → fallen.frame = frame) ∧
          ∀ jump ∈ (start routine).steps requests, ∀ instruction,
            .instruction instruction ∈ jump.emitted → instruction.target? = some label →
              jump.left? = some frame) ∧
      ∀ front back, requests = front ++ back → ∀ label frame,
        ((start routine).run front).frameOnRecord? label = some frame →
          ((start routine).run requests).frameOnRecord? label = some frame := by
  have trackedStep : ∀ step ∈ (start routine).steps requests,
      Makes step.request.graph step.before step.request.call step.after ∧
        step.request.call.isTracked = true := by
    intro step member
    obtain ⟨front, back, rfl, -, stepped⟩ := mem_steps member
    exact ⟨makes_of_call stepped, tracked step.request (by simp)⟩
  constructor
  · intro declaration declared label emitsLabel
    obtain ⟨made, declares⟩ := trackedStep declaration declared
    obtain ⟨frame, current, fallThrough, known⟩ :=
      Step.current_of_emits made declares emitsLabel
    refine ⟨frame, current, fallThrough, ?_⟩
    intro jump jumped instruction emitsJump targets
    obtain ⟨jumpMade, jumps⟩ := trackedStep jump jumped
    obtain ⟨left, leaves, brought⟩ := Step.left?_of_emits jumpMade jumps emitsJump targets
    -- Both steps put their frame on record, and the run has one frame on record at its end.
    have atEnd := frameOnRecord?_of_step tracked declared known
    have broughtAtEnd := frameOnRecord?_of_step tracked jumped brought
    rw [leaves, ← broughtAtEnd, atEnd]
  · rintro front back rfl label frame known
    rw [run_append]
    exact frameOnRecord?_run (fun request later => tracked request (by simp [later])) known

/-- A loop that counts a local up: its head is fallen into and jumped back to, its end is
jumped to before it is declared. One declaration and one jump in between fail. -/
def countingLoop : List Request :=
  [.operation (.constInt 0), .operation .storeLocal, .declare ⟨0⟩ .fromEntry,
    .operation (.loadLocal 0), .jump (.ifZero .gt) (some ⟨0⟩) ⟨1⟩, .declare ⟨0⟩ .fromEntry,
    .operation (.increment 0 1), .operation (.loadLocal 0), .jump .goto none ⟨0⟩,
    .operation .pop, .jump .goto none ⟨0⟩, .declare ⟨1⟩ .recorded,
    .operation .returnValue].map (⟨.empty, ·⟩)

/-- A static routine without parameters or result. -/
def plainRoutine : Method :=
  ⟨⟨"A"⟩, ⟨"f"⟩, ⟨[], none⟩, .staticBit⟩

theorem joins_agree_in_loop :
    (∀ request ∈ countingLoop, request.call.isTracked = true) ∧
      ((start plainRoutine).steps countingLoop).filterMap Step.left? =
        [⟨[.int .int], []⟩, ⟨[.int .int], []⟩] ∧
      (∀ declaration ∈ (start plainRoutine).steps countingLoop, ∀ label,
        .label label ∈ declaration.emitted →
          ∃ frame, declaration.after.current.map Snapshot.frame = some frame ∧
            (∀ fallen, declaration.before.current = some fallen → fallen.frame = frame) ∧
            ∀ jump ∈ (start plainRoutine).steps countingLoop, ∀ instruction,
              .instruction instruction ∈ jump.emitted → instruction.target? = some label →
                jump.left? = some frame) ∧
      ∀ front back, countingLoop = front ++ back → ∀ label frame,
        ((start plainRoutine).run front).frameOnRecord? label = some frame →
          ((start plainRoutine).run countingLoop).frameOnRecord? label = some frame :=
  ⟨by decide, by decide, joins_agree plainRoutine countingLoop (by decide)⟩

end Builder

end TypedBytecode
