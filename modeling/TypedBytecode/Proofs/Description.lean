import TypedBytecode.Proofs.Delta
import TypedBytecode.Proofs.Joins

/-!
Contract: the descriptions that are emitted with labels, decoded again.

Owns:
- which frame the description at a label was computed against, found in the history of a run;
- the run theorem: what the description at each label decodes to.

Does not own: what a description decodes to, given the two frames.
-/

namespace TypedBytecode

/-! ## What a description was computed against -/

namespace Step

def jumpsTo (label : Label) (step : Step) : Bool :=
  match step.request.call with
  | .jump _ _ target => target == label
  | _ => false

/-- The frame that the description emitted by a declaration was computed against. A label that
is declared as recorded takes its description from the first jump to it. -/
def describedAgainst? (trace : List Step) (declaration : Step) : Option Frame :=
  match declaration.request.call with
  | .declare label .recorded => (trace.find? (jumpsTo label)).bind base?
  | _ => declaration.base?

end Step

namespace Builder

/-- The history of every label that is not declared yet: no jump to a label without a frame,
and otherwise a first jump, against whose base the frame on record was described. -/
structure Traced (trace : List Step) (builder : Builder) : Prop where
  unknown : ∀ label, builder.labels.find? label = none → trace.find? (Step.jumpsTo label) = none
  pending : ∀ label brought, builder.labels.find? label = some (.pending brought) →
    ∃ jump base, trace.find? (Step.jumpsTo label) = some jump ∧ jump.base? = some base ∧
      brought.delta = brought.snapshot.frame.diff base

namespace Traced

variable {trace : List Step} {step : Step}

/-- A step that is no jump to a label does not change the first jump to it. -/
theorem find?_of_not_jumpsTo {label : Label} (other : step.jumpsTo label = false) :
    (trace ++ [step]).find? (Step.jumpsTo label) = trace.find? (Step.jumpsTo label) := by
  simp [List.find?_append, other]

/-- Later steps do not change how a pending label was described. -/
theorem carried {builder : Builder} {label : Label} {brought : LabelFrame}
    (traced : Traced trace builder) (found : builder.labels.find? label = some (.pending brought))
    (later : List Step) :
    ∃ jump base, (trace ++ later).find? (Step.jumpsTo label) = some jump ∧
      jump.base? = some base ∧ brought.delta = brought.snapshot.frame.diff base := by
  obtain ⟨jump, base, first, described⟩ := traced.pending label brought found
  refine ⟨jump, base, ?_, described⟩
  simp [List.find?_append, first]

/-- A step that leaves the label table as it was, and is no jump to an unknown label. -/
theorem of_sameLabels (traced : Traced trace step.before)
    (same : step.after.labels = step.before.labels)
    (known : ∀ label, step.before.labels.find? label = none → step.jumpsTo label = false) :
    Traced (trace ++ [step]) step.after := by
  constructor
  · intro label missing
    rw [same] at missing
    rw [find?_of_not_jumpsTo (known label missing)]
    exact traced.unknown label missing
  · intro label brought found
    rw [same] at found
    exact traced.carried found [step]

/-- The first jump to a label puts its frame on record, described against its own base. -/
theorem of_firstJump {branch : Branch} {source : Option Label} {target : Label}
    {frame base : Frame} {snapshot : Snapshot} (traced : Traced trace step.before)
    (called : step.request.call = .jump branch source target)
    (based : step.base? = some base) (unknown : step.before.labels.find? target = none)
    (brings : snapshot.frame = frame)
    (recorded : step.after.labels =
      step.before.labels.set target (.pending ⟨snapshot, frame.diff base⟩)) :
    Traced (trace ++ [step]) step.after := by
  have elsewhere : ∀ label, label ≠ target → step.jumpsTo label = false := by
    intro label different
    simpa [Step.jumpsTo, called] using fun same : target = label => different same.symm
  constructor
  · intro label missing
    rw [recorded] at missing
    have different : label ≠ target := by
      rintro rfl
      rw [LabelFrames.find?_set_same] at missing
      cases missing
    rw [LabelFrames.find?_set_other different] at missing
    rw [find?_of_not_jumpsTo (elsewhere label different)]
    exact traced.unknown label missing
  · intro label brought found
    rw [recorded] at found
    rcases LabelFrames.find?_set_eq_some.mp found with ⟨rfl, same⟩ | ⟨-, before⟩
    · cases same
      refine ⟨step, base, ?_, based, by rw [brings]⟩
      have jumps : step.jumpsTo label = true := by
        simp [Step.jumpsTo, called]
      simp [List.find?_append, traced.unknown label unknown, jumps]
    · exact traced.carried before [step]

/-- A declaration ends the wait of its label and leaves the others alone. -/
theorem of_declaration {declared : Label} {framing : Framing} {settled : LabelFrame}
    (traced : Traced trace step.before)
    (called : step.request.call = .declare declared framing)
    (placed : step.after.labels = step.before.labels.set declared (.placed settled)) :
    Traced (trace ++ [step]) step.after := by
  have elsewhere : ∀ label, step.jumpsTo label = false := by
    intro label
    simp [Step.jumpsTo, called]
  constructor
  · intro label missing
    rw [placed] at missing
    have different : label ≠ declared := by
      rintro rfl
      rw [LabelFrames.find?_set_same] at missing
      cases missing
    rw [LabelFrames.find?_set_other different] at missing
    rw [find?_of_not_jumpsTo (elsewhere label)]
    exact traced.unknown label missing
  · intro label brought found
    rw [placed] at found
    rcases LabelFrames.find?_set_eq_some.mp found with ⟨-, same⟩ | ⟨-, before⟩
    · cases same
    · exact traced.carried before [step]

theorem makes (traced : Traced trace step.before)
    (made : Makes step.request.graph step.before step.request.call step.after) :
    Traced (trace ++ [step]) step.after := by
  generalize called : step.request.call = call at made
  generalize reached : step.after = after at made
  cases made with
  | operation | splice | freshLabel =>
      rw [← reached]
      apply traced.of_sameLabels
      · rw [reached]
        rfl
      · intro label missing
        simp [Step.jumpsTo, called]
  | @jump branch source target current base frame operands labels reachable met taken based
      recorded =>
      rw [← reached]
      rcases LabelFrames.recordJump_eq_ok.mp recorded with ⟨unknown, added⟩ | ⟨_, known, -, same⟩
      · apply traced.of_firstJump called (Step.base?_of_jumpBase called based) unknown
        · rfl
        · rw [reached]
          exact added
      · apply traced.of_sameLabels
        · rw [reached]
          exact same
        · intro label missing
          have different : target ≠ label := by
            rintro rfl
            rw [known] at missing
            cases missing
          simpa [Step.jumpsTo, called] using different
  | declare unplaced settles =>
      rw [← reached]
      apply traced.of_declaration called
      rw [reached]
      rfl

end Traced

theorem traced_start (routine : Method) (requests : List Request) :
    Traced ((start routine).steps requests) ((start routine).run requests) := by
  apply history_induction Traced
  · exact ⟨by simp, by simp [start]⟩
  · intro trace step member held made
    exact held.makes made

end Builder

/-! ## What descriptions decode to -/

/-- A declaration emits the description of the frame that it makes current, relative to the
frame found in the history. -/
theorem Step.emittedDelta?_of_emits {step : Step} {label : Label} {trace : List Step}
    (laidOut : step.before.LaidOut) (traced : Builder.Traced trace step.before)
    (made : Builder.Makes step.request.graph step.before step.request.call step.after)
    (tracked : step.request.call.isTracked = true) (emits : .label label ∈ step.emitted)
    (later : List Step) :
    ∃ base frame, step.describedAgainst? (trace ++ later) = some base ∧
      step.emittedDelta? = some (frame.diff base) ∧
      step.after.current.map Snapshot.frame = some frame ∧ frame.Laid := by
  obtain ⟨framing, settled, called, settles, reached⟩ := declares_of_emits made emits
  rw [called] at tracked
  have emitted := emittedDelta?_of_label reached
  have laid := laidOut.settles (Call.keepsLayout_of_isTracked tracked) settles
  rw [reached]
  cases settles with
  | recorded found agreed =>
      obtain ⟨jump, base, first, based, described⟩ :=
        traced.carried (LabelFrames.pending?_eq_some.mp found) later
      refine ⟨base, _, ?_, ?_, rfl, laid⟩
      · simp [describedAgainst?, called, first, based]
      · rw [emitted, described]
  | fromEntry agreed =>
      exact ⟨_, _, by simp [describedAgainst?, base?, called], emitted, rfl, laid⟩
  | fromLabel found agreed =>
      exact ⟨_, _, by simp [describedAgainst?, base?, called, found], emitted, rfl, laid⟩
  | arriving => cases tracked
  | applied => cases tracked

namespace Builder

/-- Whatever calls are made, successful or not: the description emitted with a label decodes,
relative to the frame it was computed against, to the frame made current at the label, exactly
unless the two are the same frame with values on the stack. Then it decodes to that frame with
an empty stack. -/
theorem decodes_at_labels (routine : Method) (requests : List Request)
    (tracked : ∀ request ∈ requests, request.call.isTracked = true) :
    ∀ declaration ∈ (start routine).steps requests, ∀ label,
      .label label ∈ declaration.emitted →
        ∃ base delta frame,
          declaration.describedAgainst? ((start routine).steps requests) = some base ∧
          declaration.emittedDelta? = some delta ∧
          declaration.after.current.map Snapshot.frame = some frame ∧
          base.applyDelta? delta =
            some (if frame = base then { frame with stack := [] } else frame) ∧
          (base.applyDelta? delta = some frame ↔ frame ≠ base ∨ frame.stack = []) ∧
          (delta = .same ↔ frame = base) ∧
          ∀ locals, delta = .append locals ∨ delta = .chop locals → frame.stack = [] := by
  intro declaration member label emits
  have keeps : ∀ request ∈ requests, request.call.KeepsLayout := by
    intro request asked
    exact Call.keepsLayout_of_isTracked (tracked request asked)
  have laidOut := laidOut_before keeps member
  obtain ⟨front, back, rfl, reached, stepped⟩ := mem_steps member
  have traced : Traced ((start routine).steps front) declaration.before := by
    rw [reached]
    exact traced_start routine front
  obtain ⟨base, frame, against, emitted, current, laid⟩ :=
    Step.emittedDelta?_of_emits laidOut traced (makes_of_call stepped)
      (tracked declaration.request (by simp)) emits
      (((start routine).run front).steps (declaration.request :: back))
  rw [← steps_append] at against
  have rebuilt := laid.ofValues_localValues
  exact ⟨base, frame.diff base, frame, against, emitted, current,
    Frame.applyDelta?_diff base rebuilt, Frame.applyDelta?_diff_eq_some base rebuilt,
    Frame.diff_eq_same, fun locals => Frame.stack_of_diff⟩

/-- Calls that declare a label with a value on the stack, and jump from it to a second label
that gets the same frame. -/
def stackAcrossLabels : List Request :=
  [.operation (.constInt 1), .declare ⟨0⟩ .fromEntry, .operation (.constInt 0),
    .jump (.ifZero .eq) (some ⟨0⟩) ⟨1⟩, .declare ⟨1⟩ .recorded].map (⟨.empty, ·⟩)

theorem decodes_across_labels :
    (∀ request ∈ stackAcrossLabels, request.call.isTracked = true) ∧
      ((start plainRoutine).steps stackAcrossLabels).filterMap Step.emittedDelta? =
        [.sameOneStack (.int .int), .same] ∧
      ∀ declaration ∈ (start plainRoutine).steps stackAcrossLabels, ∀ label,
        .label label ∈ declaration.emitted →
          ∃ base delta frame,
            declaration.describedAgainst? ((start plainRoutine).steps stackAcrossLabels) =
              some base ∧
            declaration.emittedDelta? = some delta ∧
            declaration.after.current.map Snapshot.frame = some frame ∧
            base.applyDelta? delta =
              some (if frame = base then { frame with stack := [] } else frame) ∧
            (base.applyDelta? delta = some frame ↔ frame ≠ base ∨ frame.stack = []) ∧
            (delta = .same ↔ frame = base) ∧
            ∀ locals, delta = .append locals ∨ delta = .chop locals → frame.stack = [] :=
  ⟨by decide, by decide, decodes_at_labels plainRoutine stackAcrossLabels (by decide)⟩

/-- The second label is described as `same` although its frame has a value on the stack, so the
description decodes to another frame. -/
theorem same_emitted_with_stack :
    (∀ request ∈ stackAcrossLabels, request.call.isTracked = true) ∧
      ∃ declaration ∈ (start plainRoutine).steps stackAcrossLabels,
        .label ⟨1⟩ ∈ declaration.emitted ∧
          declaration.describedAgainst? ((start plainRoutine).steps stackAcrossLabels) =
            some ⟨[], [.int .int]⟩ ∧
          declaration.emittedDelta? = some .same ∧
          declaration.after.current.map Snapshot.frame = some ⟨[], [.int .int]⟩ ∧
          Frame.applyDelta? ⟨[], [.int .int]⟩ .same ≠ some ⟨[], [.int .int]⟩ := by
  decide

end Builder

end TypedBytecode
