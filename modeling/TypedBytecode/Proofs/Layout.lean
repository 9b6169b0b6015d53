import TypedBytecode.Proofs.Run

/-!
Contract: the layout of local slots, over whole runs.

Owns:
- the two views of the locals, by slot and by value, and their agreement;
- `Frame.Laid`, the layout as it is kept: the slots are those of values that are no `top`;
- `Frame.WellLaid`, the layout as it is read: a wide local and a `top` stand side by side;
- descriptions between frames that are laid out, which never mention `top`;
- the run theorem: every frame that a builder holds is well laid.

A call that hands in its own description can only break the layout by naming `top`, so such
calls are covered as long as they do not. Spliced code is not covered.
-/

namespace TypedBytecode

namespace ValueType

@[simp] theorem ofPrimitive_ne_top (primitive : Primitive) : ofPrimitive primitive ≠ .top := by
  cases primitive <;> simp [ofPrimitive]

@[simp] theorem ofFieldType_ne_top (type : FieldType) : ofFieldType type ≠ .top := by
  cases type <;> simp [ofFieldType]

@[simp] theorem numeric_ne_top (kind : NumericKind) : kind.valueType ≠ .top := by
  cases kind <;> simp [NumericKind.valueType]

@[simp] theorem object_ne_top (name : ClassName) : object name ≠ .top := by
  simp [object]

/-- Only a value can be assigned, so `top` never is. -/
theorem ne_top_of_assignable {graph : ClassGraph} {found wanted : ValueType}
    (fits : found.assignable graph wanted = true) : found ≠ .top := by
  rintro rfl
  simp [assignable] at fits

end ValueType

namespace Frame

/-! ## Slots and values -/

theorem slots_of_wide {value : ValueType} (wide : value.isWide = true) :
    slots value = [value, .top] := by
  rw [slots, if_pos wide]

theorem slots_of_narrow {value : ValueType} (narrow : value.isWide = false) :
    slots value = [value] := by
  simp [slots, narrow]

theorem length_slots (value : ValueType) : (slots value).length = value.width := by
  cases wide : value.isWide <;> simp [slots, ValueType.width, wide]

/-- Reading the values back from their slots gives the values, `top` values included. -/
theorem valuesFrom_slots (values : List ValueType) :
    valuesFrom false (values.flatMap slots) = values := by
  induction values with
  | nil => rfl
  | cons value values inductionHypothesis =>
      rw [List.flatMap_cons]
      cases wide : value.isWide with
      | true => simp [slots_of_wide wide, valuesFrom, wide, inductionHypothesis]
      | false => simp [slots_of_narrow wide, valuesFrom, wide, inductionHypothesis]

/-- The slots of a list of values have a `top` behind every wide value. -/
theorem getElem?_slots_of_wide {values : List ValueType} {slot : Nat} {value : ValueType}
    (held : (values.flatMap slots)[slot]? = some value) (wide : value.isWide = true) :
    (values.flatMap slots)[slot + 1]? = some .top := by
  induction values generalizing slot with
  | nil => simp at held
  | cons first values inductionHypothesis =>
      rw [List.flatMap_cons] at held ⊢
      cases firstWide : first.isWide with
      | true =>
          rw [slots_of_wide firstWide] at held ⊢
          match slot with
          | 0 => rfl
          | 1 =>
              cases held
              cases wide
          | slot + 2 => exact inductionHypothesis held
      | false =>
          rw [slots_of_narrow firstWide] at held ⊢
          match slot with
          | 0 =>
              cases held
              rw [firstWide] at wide
              cases wide
          | slot + 1 => exact inductionHypothesis held

/-- In the slots of values that are no `top`, a `top` has a wide value before it. -/
theorem getElem?_slots_of_top {values : List ValueType} {slot : Nat} (noTop : .top ∉ values)
    (held : (values.flatMap slots)[slot]? = some .top) :
    ∃ before value, slot = before + 1 ∧ (values.flatMap slots)[before]? = some value ∧
      value.isWide = true := by
  induction values generalizing slot with
  | nil => simp at held
  | cons first values inductionHypothesis =>
      simp only [List.mem_cons, not_or] at noTop
      obtain ⟨firstNotTop, restNoTop⟩ := noTop
      rw [List.flatMap_cons] at held ⊢
      cases firstWide : first.isWide with
      | true =>
          rw [slots_of_wide firstWide] at held ⊢
          match slot with
          | 0 => exact absurd (Option.some.inj held).symm firstNotTop
          | 1 => exact ⟨0, first, rfl, rfl, firstWide⟩
          | slot + 2 =>
              obtain ⟨before, value, rfl, found, wide⟩ := inductionHypothesis restNoTop held
              exact ⟨before + 2, value, rfl, found, wide⟩
      | false =>
          rw [slots_of_narrow firstWide] at held ⊢
          match slot with
          | 0 => exact absurd (Option.some.inj held).symm firstNotTop
          | slot + 1 =>
              obtain ⟨before, value, rfl, found, wide⟩ := inductionHypothesis restNoTop held
              exact ⟨before + 1, value, rfl, found, wide⟩

/-- The last slot of a value is never wide: a wide value has its second slot behind it. -/
theorem getLast?_slots {values : List ValueType} {value : ValueType}
    (last : (values.flatMap slots).getLast? = some value) : value.isWide = false := by
  rcases List.eq_nil_or_concat values with rfl | ⟨front, final, rfl⟩
  · simp at last
  · rw [List.concat_eq_append, List.flatMap_append, List.flatMap_singleton] at last
    cases wide : final.isWide with
    | true =>
        rw [slots_of_wide wide, List.getLast?_append] at last
        cases last
        rfl
    | false =>
        rw [slots_of_narrow wide, List.getLast?_concat] at last
        cases last
        exact wide

/-- Ending the last of some values removes all of its slots, and nothing else. -/
theorem popLocal?_slots (front : List ValueType) (last : ValueType) (stack : List ValueType) :
    popLocal? ⟨(front ++ [last]).flatMap slots, stack⟩ =
      some (last, ⟨front.flatMap slots, stack⟩) := by
  rw [List.flatMap_append, List.flatMap_singleton]
  cases wide : last.isWide with
  | true =>
      rw [slots_of_wide wide, List.append_cons]
      simp only [popLocal?, List.getLast?_concat, List.dropLast_concat, wide, ↓reduceIte]
  | false =>
      rw [slots_of_narrow wide]
      simp only [popLocal?, List.getLast?_concat, List.dropLast_concat]
      split
      · rename_i none
        cases none
      · rename_i isTop
        -- A `top` of its own is not taken for the second slot of what stands before it.
        cases isTop
        split
        · rename_i value before
          simp [getLast?_slots before]
        · rfl
      · rename_i narrow
        cases narrow
        rfl

/-- Where locals are whole values, ending the last one removes the last of the values. -/
theorem values_of_popLocal? {frame rest : Frame} {values : List ValueType} {value : ValueType}
    (locals : frame.locals = values.flatMap slots)
    (popped : frame.popLocal? = some (value, rest)) :
    ∃ front, values = front ++ [value] ∧ rest = ⟨front.flatMap slots, frame.stack⟩ := by
  rcases List.eq_nil_or_concat values with rfl | ⟨front, last, rfl⟩
  · simp [popLocal?, locals] at popped
  · rw [List.concat_eq_append] at locals ⊢
    have framed : frame = ⟨(front ++ [last]).flatMap slots, frame.stack⟩ := by rw [← locals]
    rw [framed, popLocal?_slots] at popped
    cases popped
    exact ⟨front, rfl, rfl⟩

/-! ## Layout -/

/-- Wide locals and `top` slots stand side by side, and no `top` is on the stack. -/
structure WellLaid (frame : Frame) : Prop where
  wide_then_top : ∀ slot value, frame.locals[slot]? = some value → value.isWide = true →
    frame.locals[slot + 1]? = some .top
  top_after_wide : ∀ slot, frame.locals[slot]? = some .top →
    ∃ before value, slot = before + 1 ∧ frame.locals[before]? = some value ∧
      value.isWide = true
  stack_values : .top ∉ frame.stack

/-- The locals are the slots of values, and neither they nor the stack hold a `top`. -/
structure Laid (frame : Frame) : Prop where
  locals_values : ∃ values : List ValueType, .top ∉ values ∧ frame.locals = values.flatMap slots
  stack_values : .top ∉ frame.stack

namespace Laid

variable {frame : Frame}

theorem wellLaid (laid : frame.Laid) : frame.WellLaid := by
  obtain ⟨⟨values, noTop, locals⟩, stack⟩ := laid
  refine ⟨?_, ?_, stack⟩
  · intro slot value held wide
    rw [locals] at held ⊢
    exact getElem?_slots_of_wide held wide
  · intro slot held
    rw [locals] at held ⊢
    exact getElem?_slots_of_top noTop held

theorem ofValues {values stack : List ValueType} (localsNoTop : .top ∉ values)
    (stackNoTop : .top ∉ stack) : (Frame.ofValues values stack).Laid :=
  ⟨⟨values, localsNoTop, rfl⟩, stackNoTop⟩

theorem localValues_noTop (laid : frame.Laid) : .top ∉ frame.localValues := by
  obtain ⟨⟨values, noTop, locals⟩, -⟩ := laid
  rwa [localValues, locals, valuesFrom_slots]

/-- A frame that is laid out is determined by its values. -/
theorem ofValues_localValues (laid : frame.Laid) :
    Frame.ofValues frame.localValues frame.stack = frame := by
  obtain ⟨⟨values, -, locals⟩, -⟩ := laid
  simp only [Frame.ofValues, localValues, locals, valuesFrom_slots]
  rw [← locals]

/-- Replacing the operands on top of the stack by results, which may be copies of them, keeps
the layout. -/
theorem replace {locals stack : List ValueType} (operands results : List ValueType)
    (laid : Laid ⟨locals, operands ++ stack⟩)
    (usable : ∀ value ∈ results, value ∈ operands ∨ value ≠ .top) :
    Laid ⟨locals, results ++ stack⟩ := by
  refine ⟨laid.locals_values, ?_⟩
  intro member
  rcases List.mem_append.mp member with result | below
  · rcases usable _ result with operand | notTop
    · exact laid.stack_values (List.mem_append_left stack operand)
    · exact notTop rfl
  · exact laid.stack_values (List.mem_append_right operands below)

/-- A value moved from the stack to a new local takes all of its slots. -/
theorem storeLast {locals stack : List ValueType} {value : ValueType}
    (laid : Laid ⟨locals, value :: stack⟩) : Laid ⟨locals ++ slots value, stack⟩ := by
  obtain ⟨⟨values, valuesNoTop, split⟩, stackNoTop⟩ := laid
  simp only [List.mem_cons, not_or] at stackNoTop
  refine ⟨⟨values ++ [value], ?_, ?_⟩, stackNoTop.2⟩
  · simp only [List.mem_append, List.mem_singleton, not_or]
    exact ⟨valuesNoTop, stackNoTop.1⟩
  · dsimp only at split ⊢
    rw [split, List.flatMap_append, List.flatMap_singleton]

/-- Ending the last local removes all of its slots, and nothing else. -/
theorem popLocal (laid : frame.Laid) {value : ValueType} {rest : Frame}
    (popped : frame.popLocal? = some (value, rest)) : rest.Laid := by
  obtain ⟨⟨values, noTop, locals⟩, stack⟩ := laid
  obtain ⟨front, rfl, rfl⟩ := values_of_popLocal? locals popped
  exact ⟨⟨front, fun member => noTop (List.mem_append_left _ member), rfl⟩, stack⟩

end Laid

end Frame

/-! ## Descriptions -/

/-- The values that a description lists. -/
def FrameDelta.payload : FrameDelta → List ValueType
  | .same => []
  | .sameOneStack value => [value]
  | .append locals => locals
  | .chop locals => locals
  | .full locals stack => locals ++ stack

/-- A description that lists no `top`, and one to three locals where it adds or removes some. -/
structure FrameDelta.Tidy (delta : FrameDelta) : Prop where
  noTop : .top ∉ delta.payload
  appended : ∀ locals, delta = .append locals → 1 ≤ locals.length ∧ locals.length ≤ 3
  chopped : ∀ locals, delta = .chop locals → 1 ≤ locals.length ∧ locals.length ≤ 3

namespace Frame

theorem extension?_eq_some {shorter longer added : List ValueType} :
    extension? shorter longer = some added ↔
      longer = shorter ++ added ∧ 1 ≤ added.length ∧ added.length ≤ 3 := by
  unfold extension?
  constructor
  · intro chosen
    split at chosen
    · rename_i extended
      obtain ⟨longer_lt, short, starts⟩ := extended
      cases chosen
      refine ⟨?_, ?_, ?_⟩
      · conv_lhs => rw [← List.take_append_drop shorter.length longer, starts]
      · rw [List.length_drop]
        omega
      · rw [List.length_drop]
        exact short
    · cases chosen
  · rintro ⟨rfl, some, few⟩
    rw [if_pos ⟨by simp; omega, by simpa [maxLocalsDelta] using few, by simp⟩]
    simp

/-- What the description of a frame says about the two frames. -/
inductive Diffs (frame previous : Frame) : FrameDelta → Prop where
  | same (equal : frame = previous) : Diffs frame previous .same
  | append {added : List ValueType} (different : frame ≠ previous) (empty : frame.stack = [])
      (extended : frame.localValues = previous.localValues ++ added)
      (listed : 1 ≤ added.length ∧ added.length ≤ 3) : Diffs frame previous (.append added)
  | chop {removed : List ValueType} (different : frame ≠ previous) (empty : frame.stack = [])
      (extended : previous.localValues = frame.localValues ++ removed)
      (listed : 1 ≤ removed.length ∧ removed.length ≤ 3) : Diffs frame previous (.chop removed)
  | sameOneStack {value : ValueType} (different : frame ≠ previous)
      (single : frame.stack = [value]) (unchanged : frame.localValues = previous.localValues) :
      Diffs frame previous (.sameOneStack value)
  | full (different : frame ≠ previous) :
      Diffs frame previous (.full frame.localValues frame.stack)

theorem diffs_diff (frame previous : Frame) : Diffs frame previous (frame.diff previous) := by
  unfold diff
  by_cases equal : frame = previous
  · rw [if_pos equal]
    exact .same equal
  · rw [if_neg equal]
    rcases stack : frame.stack with _ | ⟨value, _ | ⟨below, rest⟩⟩
    · dsimp only
      split
      · rename_i added found
        obtain ⟨extended, listed⟩ := extension?_eq_some.mp found
        exact .append equal stack extended listed
      · split
        · rename_i removed found
          obtain ⟨extended, listed⟩ := extension?_eq_some.mp found
          exact .chop equal stack extended listed
        · rw [← stack]
          exact .full equal
    · dsimp only
      split
      · rename_i unchanged
        exact .sameOneStack equal stack unchanged
      · rw [← stack]
        exact .full equal
    · dsimp only
      rw [← stack]
      exact .full equal

/-- Descriptions between frames that are laid out are tidy. -/
theorem Laid.tidy_diff {frame previous : Frame} (laid : frame.Laid)
    (previousLaid : previous.Laid) : (frame.diff previous).Tidy := by
  have localsNoTop := laid.localValues_noTop
  have previousNoTop := previousLaid.localValues_noTop
  have stackNoTop := laid.stack_values
  have diffs := diffs_diff frame previous
  generalize frame.diff previous = delta at diffs ⊢
  cases diffs with
  | same equal => exact ⟨by simp [FrameDelta.payload], by simp, by simp⟩
  | append different empty extended listed =>
      rw [extended] at localsNoTop
      refine ⟨fun member => localsNoTop (List.mem_append_right _ member), ?_, by simp⟩
      rintro _ ⟨⟩
      exact listed
  | chop different empty extended listed =>
      rw [extended] at previousNoTop
      refine ⟨fun member => previousNoTop (List.mem_append_right _ member), by simp, ?_⟩
      rintro _ ⟨⟩
      exact listed
  | sameOneStack different single unchanged =>
      rw [single] at stackNoTop
      exact ⟨stackNoTop, by simp, by simp⟩
  | full different =>
      refine ⟨?_, by simp, by simp⟩
      intro member
      rcases List.mem_append.mp member with inLocals | inStack
      · exact localsNoTop inLocals
      · exact stackNoTop inStack

/-- A description that lists no `top` leads from a frame that is laid out to another. -/
theorem Laid.applyDelta {frame previous : Frame} {delta : FrameDelta}
    (previousLaid : previous.Laid) (noTop : .top ∉ delta.payload)
    (applied : previous.applyDelta? delta = some frame) : frame.Laid := by
  have previousNoTop := previousLaid.localValues_noTop
  cases delta with
  | same =>
      cases applied
      exact .ofValues previousNoTop List.not_mem_nil
  | sameOneStack value =>
      cases applied
      exact .ofValues previousNoTop noTop
  | append locals =>
      cases applied
      exact .ofValues (by simpa using ⟨previousNoTop, noTop⟩) List.not_mem_nil
  | chop locals =>
      simp only [applyDelta?] at applied
      split at applied
      · cases applied
        exact .ofValues (fun member => previousNoTop (List.mem_of_mem_take member))
          List.not_mem_nil
      · cases applied
  | full locals stack =>
      cases applied
      simp only [FrameDelta.payload, List.mem_append, not_or] at noTop
      exact .ofValues noTop.1 noTop.2

end Frame

/-! ## Operations -/

theorem Code.PushesConstant.ne_top {value : ValueType} {code : Code}
    (pushes : code.PushesConstant value) : value ≠ .top := by
  cases pushes with
  | single pushes => cases pushes <;> simp
  | converted pushes source target =>
      rw [← target]
      simp

namespace Operation

/-- No operation tears the two slots of a wide local apart or makes a `top` a value. -/
theorem Performs.laid {graph : ClassGraph} {routine : Method} {offset : Nat}
    {operation : Operation} {before after : Frame} {code : Code}
    (performed : operation.Performs graph routine offset before after code)
    (laid : before.Laid) : after.Laid := by
  cases performed with
  | storeLocal => exact laid.storeLast
  | killLocal popped => exact laid.popLocal popped
  | returnVoid => exact laid
  | increment => exact laid
  | swap => exact laid.replace [_, _] [_, _] (by simp)
  | dup => exact laid.replace [_] [_, _] (by simp)
  | dupUnder => exact laid.replace [_, _] [_, _, _] (by simp)
  | load reads held usable inRange => exact laid.replace [] [_] (by simpa using usable)
  | pop => exact laid.replace [_] [] (by simp)
  | storeLocalAt => exact laid.replace [_] [] (by simp)
  | arithmetic => exact laid.replace [_, _] [_] (by simp)
  | negate => exact laid.replace [_] [_] (by simp)
  | bitwise => exact laid.replace [_, _] [_] (by simp)
  | shift => exact laid.replace [_, _] [_] (by simp)
  | compareLong => exact laid.replace [_, _] [_] (by simp)
  | compareFloat => exact laid.replace [_, _] [_] (by simp)
  | compareDouble => exact laid.replace [_, _] [_] (by simp)
  | convert => exact laid.replace [_] [_] (by simp)
  | getStatic => exact laid.replace [] [_] (by simp)
  | getField => exact laid.replace [_] [_] (by simp)
  | putStatic => exact laid.replace [_] [] (by simp)
  | putField => exact laid.replace [_, _] [] (by simp)
  | newArray => exact laid.replace [_] [_] (by simp)
  | arrayLoad => exact laid.replace [_, _] [_] (by simp)
  | arrayStore => exact laid.replace [_, _, _] [] (by simp)
  | arrayLength => exact laid.replace [_] [_] (by simp)
  | newObject => exact laid.replace [] [_] (by simp)
  | cast => exact laid.replace [_] [_] (by simp)
  | instanceOf => exact laid.replace [_] [_] (by simp)
  | box => exact laid.replace [_] [_] (by simp)
  | unbox => exact laid.replace [_] [_] (by simp)
  | invoke => exact laid.replace _ _ (by simp)
  | capture => exact laid.replace _ [_] (by simp)
  | constant chosen =>
      exact laid.replace [] [_] (by simpa using (pushes_of_constant? chosen).ne_top)
  | throwValue => exact laid.replace [_] [] (by simp)
  | returnValue => exact laid.replace [_] [] (by simp)

end Operation

/-! ## Runs -/

/-- Calls that cannot break the layout: no spliced code, and no given description that lists
`top`. -/
def Call.KeepsLayout : Call → Prop
  | .splice _ => False
  | .declare _ (.described delta) => .top ∉ delta.payload
  | _ => True

theorem Call.keepsLayout_of_isTracked {call : Call} (tracked : call.isTracked = true) :
    call.KeepsLayout := by
  rcases call with _ | _ | _ | ⟨_, _ | _ | _ | _⟩ | _ <;> simp_all [isTracked, KeepsLayout]

/-- Calls that compute a description. -/
def Call.computesDelta : Call → Bool
  | .jump _ _ _ => true
  | .declare _ (.described _) => false
  | .declare _ _ => true
  | _ => false

/-- All frames that a builder holds are laid out, and the descriptions that jumps have brought
to labels are tidy. -/
structure Builder.LaidOut (builder : Builder) : Prop where
  entry : builder.entry.Laid
  current : ∀ snapshot, builder.current = some snapshot → snapshot.frame.Laid
  labels : ∀ label state, builder.labels.find? label = some state →
    state.frame.snapshot.frame.Laid
  pending : ∀ label brought, builder.labels.find? label = some (.pending brought) →
    brought.delta.Tidy

namespace Builder

variable {graph : ClassGraph} {builder next : Builder} {label : Label} {frame : Frame}

theorem laidOut_start (routine : Method) : (start routine).LaidOut := by
  have entry : (entryFrame routine).Laid := by
    apply Frame.Laid.ofValues
    · cases routine.isStatic <;> simp [ValueType.object]
    · exact List.not_mem_nil
  refine ⟨entry, ?_, by simp [start], by simp [start]⟩
  rintro snapshot ⟨⟩
  exact entry

namespace LaidOut

theorem arriving (laidOut : builder.LaidOut) (arrives : builder.arriving? label = some frame) :
    frame.Laid := by
  unfold arriving? at arrives
  split at arrives
  · rename_i current reachable
    cases arrives
    exact laidOut.current current reachable
  · obtain ⟨brought, pending, rfl⟩ := Option.map_eq_some_iff.mp arrives
    exact laidOut.labels label _ (LabelFrames.pending?_eq_some.mp pending)

theorem placed (laidOut : builder.LaidOut) {settled : LabelFrame}
    (found : builder.labels.placed? label = some settled) : settled.snapshot.frame.Laid :=
  laidOut.labels label _ (LabelFrames.placed?_eq_some.mp found)

theorem base (laidOut : builder.LaidOut) {source : Option Label} {target : Label}
    {base : Snapshot} (based : builder.jumpBase source target = .ok base) : base.frame.Laid := by
  rcases jumpBase_eq_ok.mp based with ⟨-, rfl⟩ | ⟨_, settled, -, found, rfl⟩
  · exact laidOut.entry
  · exact laidOut.placed found

theorem settles (laidOut : builder.LaidOut) {framing : Framing} {settled : LabelFrame}
    (keeps : (Call.declare label framing).KeepsLayout)
    (settles : builder.Settles label framing settled) : settled.snapshot.frame.Laid := by
  cases settles with
  | recorded found agreed => exact laidOut.arriving agreed.arrives
  | fromEntry agreed => exact laidOut.arriving agreed.arrives
  | fromLabel found agreed => exact laidOut.arriving agreed.arrives
  | arriving arrives => exact laidOut.arriving arrives
  | applied unreached fits => exact laidOut.entry.applyDelta keeps fits

theorem tidy_settles (laidOut : builder.LaidOut) {framing : Framing} {settled : LabelFrame}
    (computes : (Call.declare label framing).computesDelta = true)
    (settles : builder.Settles label framing settled) : settled.delta.Tidy := by
  cases settles with
  | recorded found agreed =>
      exact laidOut.pending label _ (LabelFrames.pending?_eq_some.mp found)
  | fromEntry agreed => exact (laidOut.arriving agreed.arrives).tidy_diff laidOut.entry
  | fromLabel found agreed =>
      exact (laidOut.arriving agreed.arrives).tidy_diff (laidOut.placed found)
  | arriving arrives => cases computes
  | applied unreached fits => cases computes

/-- The frame that a jump leaves. -/
theorem left (laidOut : builder.LaidOut) {current : Snapshot} {operands : List ValueType}
    (reachable : builder.current = some current)
    (taken : current.frame = ⟨frame.locals, operands.reverse ++ frame.stack⟩) : frame.Laid := by
  have laid := laidOut.current current reachable
  rw [taken] at laid
  exact laid.replace _ [] (by simp)

theorem afterJump (laidOut : builder.LaidOut) {current : Snapshot} {labels : LabelFrames}
    {brought : LabelFrame} {target : Label} {backward : Bool} {instruction : Instruction}
    (left : brought.snapshot.frame.Laid) (tidy : brought.delta.Tidy)
    (recorded : builder.labels.recordJump target brought backward = .ok labels) :
    (builder.afterJump current brought.snapshot.frame labels instruction).LaidOut := by
  have continues : ∀ snapshot,
      (builder.afterJump current brought.snapshot.frame labels instruction).current =
        some snapshot → snapshot.frame.Laid := by
    intro snapshot held
    simp only [Builder.afterJump, Option.ite_none_left_eq_some, Option.some.injEq] at held
    obtain ⟨-, rfl⟩ := held
    exact left
  rcases LabelFrames.recordJump_eq_ok.mp recorded with ⟨-, rfl⟩ | ⟨_, -, -, rfl⟩
  · refine ⟨laidOut.entry, continues, ?_, ?_⟩
    · intro other state found
      rcases LabelFrames.find?_set_eq_some.mp found with ⟨rfl, rfl⟩ | ⟨-, before⟩
      · exact left
      · exact laidOut.labels other state before
    · intro other pending found
      rcases LabelFrames.find?_set_eq_some.mp found with ⟨rfl, same⟩ | ⟨-, before⟩
      · cases same
        exact tidy
      · exact laidOut.pending other pending before
  · exact ⟨laidOut.entry, continues, laidOut.labels, laidOut.pending⟩

theorem afterLabel (laidOut : builder.LaidOut) {settled : LabelFrame}
    (laid : settled.snapshot.frame.Laid) : (builder.afterLabel label settled).LaidOut := by
  refine ⟨laidOut.entry, ?_, ?_, ?_⟩
  · rintro snapshot ⟨⟩
    exact laid
  · intro other state found
    rcases LabelFrames.find?_set_eq_some.mp found with ⟨rfl, rfl⟩ | ⟨-, before⟩
    · exact laid
    · exact laidOut.labels other state before
  · intro other pending found
    rcases LabelFrames.find?_set_eq_some.mp found with ⟨-, same⟩ | ⟨-, before⟩
    · cases same
    · exact laidOut.pending other pending before

/-- One call keeps every frame laid out. -/
theorem makes {call : Call} (laidOut : builder.LaidOut) (keeps : call.KeepsLayout)
    (made : Makes graph builder call next) : next.LaidOut := by
  cases made with
  | @operation _ current frame code reachable performed =>
      refine ⟨laidOut.entry, ?_, laidOut.labels, laidOut.pending⟩
      intro snapshot held
      simp only [afterCode, Option.ite_none_left_eq_some, Option.some.injEq] at held
      obtain ⟨-, rfl⟩ := held
      exact performed.laid (laidOut.current current reachable)
  | splice => cases keeps
  | jump reachable met taken based recorded =>
      have left := laidOut.left reachable taken
      exact laidOut.afterJump left (left.tidy_diff (laidOut.base based)) recorded
  | declare unplaced settles => exact laidOut.afterLabel (laidOut.settles keeps settles)
  | freshLabel => exact ⟨laidOut.entry, laidOut.current, laidOut.labels, laidOut.pending⟩

/-- A whole run keeps every frame laid out. -/
theorem run {requests : List Request} (laidOut : builder.LaidOut)
    (keeps : ∀ request ∈ requests, request.call.KeepsLayout) : (builder.run requests).LaidOut :=
  run_induction LaidOut laidOut (fun request member _ _ held made =>
    held.makes (keeps request member) made)

end LaidOut

/-- Every step of a run is taken by a builder whose frames are laid out. -/
theorem laidOut_before {routine : Method} {requests : List Request} {step : Step}
    (keeps : ∀ request ∈ requests, request.call.KeepsLayout)
    (member : step ∈ (start routine).steps requests) : step.before.LaidOut := by
  obtain ⟨front, back, rfl, reached, -⟩ := mem_steps member
  rw [reached]
  apply (laidOut_start routine).run
  intro request inFront
  exact keeps request (by simp [inFront])

end Builder

/-- A step that computes a description computes a tidy one. -/
theorem Step.tidy_computedDelta {step : Step} (laidOut : step.before.LaidOut)
    (made : Builder.Makes step.request.graph step.before step.request.call step.after)
    (computes : step.request.call.computesDelta = true) :
    ∃ delta, step.computedDelta? = some delta ∧ delta.Tidy := by
  generalize called : step.request.call = call at made computes
  generalize reached : step.after = after at made
  cases made with
  | operation => cases computes
  | splice => cases computes
  | @jump _ _ _ current base frame _ _ reachable met taken based recorded =>
      refine ⟨frame.diff base.frame, ?_,
        (laidOut.left reachable taken).tidy_diff (laidOut.base based)⟩
      simp [computedDelta?, called, left?_of_taken called reachable met taken,
        base?_of_jumpBase called based]
  | @declare label framing settled unplaced settles =>
      refine ⟨settled.delta, ?_, laidOut.tidy_settles computes settles⟩
      cases framing with
      | described => cases computes
      | _ =>
          simp only [computedDelta?, called]
          exact emittedDelta?_of_label reached
  | freshLabel => cases computes

namespace Builder

/-- Whatever calls are made, successful or not, every frame that the builder holds is well
laid, so no description that it computes lists a `top` or too many locals. -/
theorem wellLaid_of_run (routine : Method) (requests : List Request)
    (keeps : ∀ request ∈ requests, request.call.KeepsLayout) :
    ((start routine).run requests).entry.WellLaid ∧
      (∀ current, ((start routine).run requests).current = some current →
        current.frame.WellLaid) ∧
      (∀ label state, ((start routine).run requests).labels.find? label = some state →
        state.frame.snapshot.frame.WellLaid) ∧
      (∀ label brought, ((start routine).run requests).labels.pending? label = some brought →
        brought.delta.Tidy) ∧
      ∀ step ∈ (start routine).steps requests, step.request.call.computesDelta = true →
        ∃ delta, step.computedDelta? = some delta ∧ delta.Tidy := by
  have laidOut := (laidOut_start routine).run keeps
  refine ⟨laidOut.entry.wellLaid, ?_, ?_, ?_, ?_⟩
  · intro current held
    exact (laidOut.current current held).wellLaid
  · intro label state found
    exact (laidOut.labels label state found).wellLaid
  · intro label brought found
    exact laidOut.pending label brought (LabelFrames.pending?_eq_some.mp found)
  · intro step member computes
    have before := laidOut_before keeps member
    obtain ⟨_, _, -, -, stepped⟩ := mem_steps member
    exact Step.tidy_computedDelta before (makes_of_call stepped) computes

/-- Calls that copy a wide parameter to a local, bring it to a label from two sides, drop it
again, and go on behind a jump from a given description. -/
def wideCopyRequests : List Request :=
  [.operation (.loadParameter 0), .operation .storeLocal, .operation (.constInt 0),
    .jump (.ifZero .eq) none ⟨0⟩, .declare ⟨0⟩ .recorded, .operation .killLocal,
    .jump .goto (some ⟨0⟩) ⟨1⟩, .declare ⟨2⟩ (.described (.append [.double])),
    .operation .killLocal, .declare ⟨1⟩ .fromEntry].map (⟨.empty, ·⟩)

/-- A static routine with one wide parameter. -/
def wideRoutine : Method :=
  ⟨⟨"A"⟩, ⟨"f"⟩, ⟨[.primitive .long], none⟩, .staticBit⟩

theorem wellLaid_of_wideCopy :
    (∀ request ∈ wideCopyRequests, request.call.KeepsLayout) ∧
      ((start wideRoutine).steps wideCopyRequests).filterMap Step.computedDelta? =
        [.append [.long], .append [.long], .chop [.long], .same] ∧
      ((start wideRoutine).run wideCopyRequests).entry.WellLaid ∧
      (∀ current, ((start wideRoutine).run wideCopyRequests).current = some current →
        current.frame.WellLaid) ∧
      (∀ label state,
        ((start wideRoutine).run wideCopyRequests).labels.find? label = some state →
          state.frame.snapshot.frame.WellLaid) ∧
      (∀ label brought,
        ((start wideRoutine).run wideCopyRequests).labels.pending? label = some brought →
          brought.delta.Tidy) ∧
      ∀ step ∈ (start wideRoutine).steps wideCopyRequests,
        step.request.call.computesDelta = true →
          ∃ delta, step.computedDelta? = some delta ∧ delta.Tidy := by
  have keeps : ∀ request ∈ wideCopyRequests, request.call.KeepsLayout := by
    simp [wideCopyRequests, Call.KeepsLayout, FrameDelta.payload]
  exact ⟨keeps, by decide, wellLaid_of_run wideRoutine wideCopyRequests keeps⟩

end Builder

end TypedBytecode
