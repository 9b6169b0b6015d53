import TypedBytecode.Builder
import TypedBytecode.Proofs.Operation

/-!
Contract: what calls do to a routine under construction, one by one and in sequence.

Owns:
- the laws of the label table: what is found after a jump and after a declaration;
- `Builder.Makes`, with one rule for each way in which a call can succeed;
- runs, in which a request that fails changes nothing, and the steps that succeed in them;
- the induction from what one call preserves to what a run preserves, also for runs in which
  requests are made under a condition on the builder;
- properties that all frames of a builder have, kept by a call if its parts keep them.

Every request comes with its own class graph, so a run covers programs that add classes
between two calls.

Does not own: any property of the frames that are tracked.
-/

namespace TypedBytecode

/-! ## The label table -/

namespace LabelFrames

variable {frames after : LabelFrames} {label other : Label} {state : LabelState}
  {frame brought : LabelFrame} {backward : Bool}

@[simp] theorem find?_empty : empty.find? label = none := rfl

theorem find?_set_same : (frames.set label state).find? label = some state := by
  simp [find?, set]

theorem find?_set_other (different : other ≠ label) :
    (frames.set label state).find? other = frames.find? other := by
  have skipped : (label == other) = false := by
    simpa using fun same : label = other => different same.symm
  simp only [find?, set, List.find?_cons, skipped, List.find?_filter]
  congr 2
  funext pair
  by_cases found : pair.1 = other
  · simp [found, different]
  · simp [found]

theorem find?_set_eq_some {found : LabelState} :
    (frames.set label state).find? other = some found ↔
      (other = label ∧ found = state) ∨ (other ≠ label ∧ frames.find? other = some found) := by
  by_cases same : other = label
  · subst same
    simp only [find?_set_same, Option.some.injEq, true_and, ne_eq, not_true_eq_false, false_and,
      or_false]
    exact eq_comm
  · simp [find?_set_other same, same]

theorem pending?_eq_some :
    frames.pending? label = some frame ↔ frames.find? label = some (.pending frame) := by
  unfold pending?
  split <;> simp_all

theorem placed?_eq_some :
    frames.placed? label = some frame ↔ frames.find? label = some (.placed frame) := by
  unfold placed?
  split <;> simp_all

/-- A jump records its frame at a label that has none, and has to agree with one that does. -/
theorem recordJump_eq_ok :
    frames.recordJump label brought backward = .ok after ↔
      (frames.find? label = none ∧ after = frames.set label (.pending brought)) ∨
        ∃ state, frames.find? label = some state ∧
          brought.snapshot.frame = state.frame.snapshot.frame ∧ after = frames := by
  unfold recordJump
  cases found : frames.find? label with
  | none =>
      simp only [Except.ok.injEq, true_and, reduceCtorEq, false_and, exists_false, or_false]
      exact eq_comm
  | some state =>
      by_cases same : brought.snapshot.frame = state.frame.snapshot.frame
      · simp only [same, ↓reduceIte, Except.ok.injEq, reduceCtorEq, false_and, Option.some.injEq,
          false_or]
        constructor
        · rintro rfl
          exact ⟨state, rfl, rfl, rfl⟩
        · rintro ⟨_, _, _, rfl⟩
          rfl
      · simp only [same, ↓reduceIte, reduceCtorEq, false_and, Option.some.injEq, false_or]
        constructor
        · intro failed
          split at failed <;> cases failed
        · rintro ⟨_, rfl, agrees, _⟩
          exact absurd agrees same

theorem place_eq_ok :
    frames.place label frame = .ok after ↔
      frames.placed? label = none ∧ after = frames.set label (.placed frame) := by
  unfold place
  split
  · rename_i found
    simp [found]
  · rename_i missing
    simp only [Except.ok.injEq, missing, true_and]
    exact eq_comm

end LabelFrames

/-! ## What calls do -/

namespace Builder

/-- The builder after code that takes the current frame to `frame`. -/
def afterCode (builder : Builder) (current : Snapshot) (frame : Frame) (code : Code) : Builder :=
  { builder with
    current := if code.isTerminal then none else some { current with frame := frame }
    emitted := (code.map .instruction).reverse ++ builder.emitted
    maxStack := max builder.maxStack (current.frame.stackWidth + code.maxGrowth).toNat
    maxLocals := max builder.maxLocals frame.locals.length }

/-- The builder after a jump that leaves `frame`. -/
def afterJump (builder : Builder) (current : Snapshot) (frame : Frame) (labels : LabelFrames)
    (instruction : Instruction) : Builder :=
  { builder with
    current := if instruction.isTerminal then none else some { current with frame := frame }
    labels := labels
    emitted := .instruction instruction :: builder.emitted }

/-- The builder after a label is placed with its frame. -/
def afterLabel (builder : Builder) (label : Label) (settled : LabelFrame) : Builder :=
  { builder with
    current := some settled.snapshot
    labels := builder.labels.set label (.placed settled)
    emitted := .frame settled.delta :: .label label :: builder.emitted
    maxStack := max builder.maxStack settled.snapshot.frame.stackWidth
    maxLocals := max builder.maxLocals settled.snapshot.frame.locals.length }

section Emissions

variable {builder : Builder} {current : Snapshot} {frame : Frame}

@[simp] theorem emissions_afterCode {code : Code} :
    (builder.afterCode current frame code).emissions =
      builder.emissions ++ code.map .instruction := by
  simp [emissions, afterCode]

@[simp] theorem emissions_afterJump {labels : LabelFrames} {instruction : Instruction} :
    (builder.afterJump current frame labels instruction).emissions =
      builder.emissions ++ [.instruction instruction] := by
  simp [emissions, afterJump]

@[simp] theorem emissions_afterLabel {label : Label} {settled : LabelFrame} :
    (builder.afterLabel label settled).emissions =
      builder.emissions ++ [.label label, .frame settled.delta] := by
  simp [emissions, afterLabel]

@[simp] theorem emissions_freshLabel : builder.freshLabel.2.emissions = builder.emissions :=
  rfl

end Emissions

/-- The code before a label and the jumps to it bring the same frame, and one of them brings
it. -/
structure Agrees (builder : Builder) (label : Label) (frame : Frame) : Prop where
  arrives : builder.arriving? label = some frame
  recorded : ∀ pending, builder.labels.pending? label = some pending →
    pending.snapshot.frame = frame

/-- The frame that a label gets when it is declared, by how the frame is described. -/
inductive Settles (builder : Builder) (label : Label) : Framing → LabelFrame → Prop where
  | recorded {pending : LabelFrame} (found : builder.labels.pending? label = some pending)
      (agreed : builder.Agrees label pending.snapshot.frame) :
      Settles builder label .recorded pending
  | fromEntry {frame : Frame} (agreed : builder.Agrees label frame) :
      Settles builder label .fromEntry
        ⟨.describedAgainst frame (.ofFrame builder.entry), frame.diff builder.entry⟩
  | fromLabel {source : Label} {placed : LabelFrame} {frame : Frame}
      (found : builder.labels.placed? source = some placed)
      (agreed : builder.Agrees label frame) :
      Settles builder label (.fromLabel source)
        ⟨.describedAgainst frame placed.snapshot, frame.diff placed.snapshot.frame⟩
  | arriving {delta : FrameDelta} {frame : Frame}
      (arrives : builder.arriving? label = some frame) :
      Settles builder label (.described delta) ⟨.ofFrame frame, delta⟩
  | applied {delta : FrameDelta} {frame : Frame} (unreached : builder.arriving? label = none)
      (fits : builder.entry.applyDelta? delta = some frame) :
      Settles builder label (.described delta) ⟨.ofFrame frame, delta⟩

/-- The builder that a call which succeeds gives. -/
inductive Makes (graph : ClassGraph) (builder : Builder) : Call → Builder → Prop where
  | operation {operation : Operation} {current : Snapshot} {frame : Frame} {code : Code}
      (reachable : builder.current = some current)
      (performed : operation.Performs graph builder.routine builder.localOffset current.frame
        frame code) :
      Makes graph builder (.operation operation) (builder.afterCode current frame code)
  | splice {generate : Frame → Frame × Code} {current : Snapshot} {frame : Frame} {code : Code}
      (reachable : builder.current = some current)
      (generated : generate current.frame = (frame, code)) :
      Makes graph builder (.splice generate) (builder.afterCode current frame code)
  | jump {branch : Branch} {source : Option Label} {target : Label} {current base : Snapshot}
      {frame : Frame} {operands : List ValueType} {labels : LabelFrames}
      (reachable : builder.current = some current)
      (met : Requirement.Met graph branch.requirements operands)
      (taken : current.frame = ⟨frame.locals, operands.reverse ++ frame.stack⟩)
      (based : builder.jumpBase source target = .ok base)
      (recorded : builder.labels.recordJump target
        ⟨.describedAgainst frame base, frame.diff base.frame⟩ source.isNone = .ok labels) :
      Makes graph builder (.jump branch source target)
        (builder.afterJump current frame labels (branch.instruction target))
  | declare {label : Label} {framing : Framing} {settled : LabelFrame}
      (unplaced : builder.labels.placed? label = none)
      (settles : builder.Settles label framing settled) :
      Makes graph builder (.declare label framing) (builder.afterLabel label settled)
  | freshLabel : Makes graph builder .freshLabel builder.freshLabel.2

section Success

variable {graph : ClassGraph} {builder next : Builder}

theorem agreedFrame_eq_ok {label : Label} {frame : Frame} :
    builder.agreedFrame label = .ok frame ↔
      builder.labels.placed? label = none ∧ builder.Agrees label frame := by
  unfold agreedFrame
  cases placed : builder.labels.placed? label with
  | some settled => simp
  | none =>
      simp only [Option.isSome_none, Bool.false_eq_true, ↓reduceIte, true_and]
      cases current : builder.current with
      | none =>
          cases recorded : builder.labels.pending? label with
          | none =>
              simp only [reduceCtorEq, false_iff]
              intro agreed
              have arrives := agreed.arrives
              simp [arriving?, current, recorded] at arrives
          | some pending =>
              simp only [Except.ok.injEq]
              constructor
              · rintro rfl
                exact ⟨by simp [arriving?, current, recorded], by simp [recorded]⟩
              · exact fun agreed => agreed.recorded pending recorded
      | some snapshot =>
          cases recorded : builder.labels.pending? label with
          | none =>
              simp only [Except.ok.injEq]
              constructor
              · rintro rfl
                exact ⟨by simp [arriving?, current], by simp [recorded]⟩
              · intro agreed
                simpa [arriving?, current] using agreed.arrives
          | some pending =>
              dsimp only
              constructor
              · intro succeeded
                split at succeeded
                · rename_i same
                  cases succeeded
                  exact ⟨by simp [arriving?, current], by simp [recorded, same]⟩
                · cases succeeded
              · intro agreed
                have fallen : snapshot.frame = frame := by
                  simpa [arriving?, current] using agreed.arrives
                have brought := agreed.recorded pending recorded
                rw [if_pos (fallen.trans brought.symm), fallen]

theorem place_eq_ok {label : Label} {settled : LabelFrame} :
    builder.place label settled = .ok next ↔
      builder.labels.placed? label = none ∧ next = builder.afterLabel label settled := by
  simp only [place, bind_eq_ok, LabelFrames.place_eq_ok, Except.ok.injEq]
  constructor
  · rintro ⟨labels, ⟨unplaced, rfl⟩, rfl⟩
    exact ⟨unplaced, rfl⟩
  · rintro ⟨unplaced, rfl⟩
    exact ⟨_, ⟨unplaced, rfl⟩, rfl⟩

/-- A description is relative to the entry frame, or to the frame of a label already placed. -/
theorem jumpBase_eq_ok {source : Option Label} {target : Label} {base : Snapshot} :
    builder.jumpBase source target = .ok base ↔
      (source = none ∧ base = .ofFrame builder.entry) ∨
        ∃ label placed, source = some label ∧ builder.labels.placed? label = some placed ∧
          base = placed.snapshot := by
  unfold jumpBase
  cases source with
  | none =>
      simp only [Except.ok.injEq, true_and, reduceCtorEq, false_and, exists_false, or_false]
      exact eq_comm
  | some label =>
      cases found : builder.labels.placed? label with
      | none => simp [found]
      | some placed =>
          simp only [found, Except.ok.injEq, reduceCtorEq, false_and, Option.some.injEq, false_or]
          constructor
          · rintro rfl
            exact ⟨label, placed, rfl, found, rfl⟩
          · rintro ⟨_, other, rfl, again, rfl⟩
            rw [found] at again
            rw [Option.some.inj again]

theorem makes_track {operation : String} {effect : Effect}
    (succeeds : builder.track operation effect = .ok next) :
    ∃ current frame code, builder.current = some current ∧
      effect current.frame = .ok (frame, code) ∧ next = builder.afterCode current frame code := by
  unfold track at succeeds
  cases reachable : builder.current with
  | none =>
      rw [reachable] at succeeds
      cases succeeds
  | some current =>
      rw [reachable] at succeeds
      simp only [bind_eq_ok, Prod.exists, Except.ok.injEq] at succeeds
      obtain ⟨frame, code, performed, rfl⟩ := succeeds
      exact ⟨current, frame, code, rfl, performed, rfl⟩

theorem makes_jump {branch : Branch} {source : Option Label} {target : Label}
    (succeeds : builder.jump graph branch source target = .ok next) :
    Makes graph builder (.jump branch source target) next := by
  unfold jump at succeeds
  cases reachable : builder.current with
  | none =>
      rw [reachable] at succeeds
      cases succeeds
  | some current =>
      rw [reachable] at succeeds
      simp only [bind_eq_ok, Prod.exists, Frame.take_eq_ok, Except.ok.injEq] at succeeds
      obtain ⟨operands, frame, ⟨met, taken⟩, base, based, labels, recorded, rfl⟩ := succeeds
      exact .jump reachable met taken based recorded

theorem makes_declareAgainst {label : Label} {base : Snapshot}
    (succeeds : builder.declareAgainst label base = .ok next) :
    ∃ frame, builder.labels.placed? label = none ∧ builder.Agrees label frame ∧
      next = builder.afterLabel label
        ⟨.describedAgainst frame base, frame.diff base.frame⟩ := by
  simp only [declareAgainst, bind_eq_ok, agreedFrame_eq_ok, place_eq_ok] at succeeds
  obtain ⟨frame, ⟨unplaced, agreed⟩, -, rfl⟩ := succeeds
  exact ⟨frame, unplaced, agreed, rfl⟩

theorem makes_declare {label : Label} {framing : Framing}
    (succeeds : builder.declare label framing = .ok next) :
    Makes graph builder (.declare label framing) next := by
  cases framing with
  | recorded =>
      simp only [declare, bind_eq_ok, agreedFrame_eq_ok] at succeeds
      obtain ⟨frame, ⟨unplaced, agreed⟩, placed⟩ := succeeds
      split at placed
      · rename_i pending found
        obtain ⟨-, rfl⟩ := place_eq_ok.mp placed
        have same := agreed.recorded pending found
        exact .declare unplaced (.recorded found (same ▸ agreed))
      · cases placed
  | fromEntry =>
      obtain ⟨frame, unplaced, agreed, rfl⟩ := makes_declareAgainst succeeds
      exact .declare unplaced (.fromEntry agreed)
  | fromLabel source =>
      simp only [declare] at succeeds
      split at succeeds
      · rename_i found
        obtain ⟨frame, unplaced, agreed, rfl⟩ := makes_declareAgainst succeeds
        exact .declare unplaced (.fromLabel found agreed)
      · cases succeeds
  | described delta =>
      simp only [declare, bind_eq_ok, place_eq_ok] at succeeds
      obtain ⟨frame, described, unplaced, rfl⟩ := succeeds
      apply Makes.declare unplaced
      simp only [describedFrame, unplaced, Option.isSome_none, Bool.false_eq_true,
        ↓reduceIte] at described
      split at described
      · rename_i arrives
        cases described
        exact .arriving arrives
      · rename_i unreached
        split at described
        · rename_i fits
          cases described
          exact .applied unreached fits
        · cases described

/-- A call that succeeds does what one of the rules says. -/
theorem makes_of_call {call : Call} (succeeds : builder.call graph call = .ok next) :
    Makes graph builder call next := by
  cases call with
  | operation operation =>
      simp only [Builder.call, operate, bind_eq_ok] at succeeds
      obtain ⟨effect, planned, tracked⟩ := succeeds
      obtain ⟨current, frame, code, reachable, performed, rfl⟩ := makes_track tracked
      exact .operation reachable (Operation.performs_of_plan planned performed)
  | splice generate =>
      simp only [Builder.call, splice] at succeeds
      obtain ⟨current, frame, code, reachable, performed, rfl⟩ := makes_track succeeds
      exact .splice reachable (Except.ok.inj performed)
  | jump branch source target => exact makes_jump succeeds
  | declare label framing => exact makes_declare succeeds
  | freshLabel =>
      cases succeeds
      exact .freshLabel

/-- An operation that is planned and reached does what its effect does to the current frame, and
fails if the effect fails. -/
theorem call_of_plan {operation : Operation} {effect : Effect} {current : Snapshot}
    (planned : operation.plan graph builder.routine builder.localOffset = .ok effect)
    (reachable : builder.current = some current) :
    builder.call graph (.operation operation) =
      (effect current.frame).map (fun result => builder.afterCode current result.1 result.2) := by
  rw [Builder.call, operate, planned]
  change builder.track operation.name effect = _
  rw [track, reachable]
  dsimp only
  cases effect current.frame <;> rfl

end Success

end Builder

/-! ## Runs -/

/-- Calls whose effect the builder works out by itself: no spliced code, and no description
that is handed in. -/
def Call.isTracked : Call → Bool
  | .splice _ => false
  | .declare _ (.described _) => false
  | _ => true

/-- Calls whose code the builder chooses by itself. -/
def Call.isUnspliced : Call → Bool
  | .splice _ => false
  | _ => true

/-- One call, with the class graph as it stands at that moment. -/
structure Request where
  graph : ClassGraph
  call : Call

/-- A request that succeeded, with the builder before and after it. -/
structure Step where
  request : Request
  before : Builder
  after : Builder

namespace Builder

/-- The builder after a request. One that fails leaves it as it was. -/
def attempt (builder : Builder) (request : Request) : Builder :=
  match builder.call request.graph request.call with
  | .ok next => next
  | .error _ => builder

/-- The builder after requests one after the other. -/
def run (builder : Builder) (requests : List Request) : Builder :=
  requests.foldl attempt builder

/-- The requests of a run that succeed, in order. -/
def steps : Builder → List Request → List Step
  | _, [] => []
  | builder, request :: rest =>
    match builder.call request.graph request.call with
    | .ok next => ⟨request, builder, next⟩ :: next.steps rest
    | .error _ => builder.steps rest

/-- The builder before the first request and after each one. -/
def moments (builder : Builder) (requests : List Request) : List Builder :=
  requests.scanl attempt builder

section Runs

variable {builder next : Builder} {request : Request} {requests front back : List Request}
  {step : Step}

@[simp] theorem run_nil : builder.run [] = builder := rfl

@[simp] theorem run_cons : builder.run (request :: requests) =
    (builder.attempt request).run requests := rfl

theorem run_append : builder.run (front ++ back) = (builder.run front).run back :=
  List.foldl_append

theorem attempt_of_ok (succeeds : builder.call request.graph request.call = .ok next) :
    builder.attempt request = next := by
  simp [attempt, succeeds]

theorem steps_cons_of_ok (succeeds : builder.call request.graph request.call = .ok next) :
    builder.steps (request :: requests) = ⟨request, builder, next⟩ :: next.steps requests := by
  rw [steps, succeeds]

theorem steps_cons_of_error {cause : Error}
    (fails : builder.call request.graph request.call = .error cause) :
    builder.steps (request :: requests) = builder.steps requests := by
  rw [steps, fails]

theorem attempt_of_error {cause : Error}
    (fails : builder.call request.graph request.call = .error cause) :
    builder.attempt request = builder := by
  simp [attempt, fails]

theorem steps_append :
    builder.steps (front ++ back) = builder.steps front ++ (builder.run front).steps back := by
  induction front generalizing builder with
  | nil => rfl
  | cons request front inductionHypothesis =>
      rw [List.cons_append, run_cons]
      cases called : builder.call request.graph request.call with
      | ok next =>
          rw [steps_cons_of_ok called, steps_cons_of_ok called, attempt_of_ok called,
            List.cons_append, inductionHypothesis]
      | error cause =>
          rw [steps_cons_of_error called, steps_cons_of_error called, attempt_of_error called,
            inductionHypothesis]

/-- What holds of no steps and is kept as steps are added holds of a run with its steps. -/
theorem history_induction (Holds : List Step → Builder → Prop) (initial : Holds [] builder)
    (kept : ∀ trace step, step.request ∈ requests → Holds trace step.before →
      Makes step.request.graph step.before step.request.call step.after →
        Holds (trace ++ [step]) step.after) :
    Holds (builder.steps requests) (builder.run requests) := by
  suffices later : ∀ trace, Holds trace builder →
      Holds (trace ++ builder.steps requests) (builder.run requests) from later [] initial
  clear initial
  induction requests generalizing builder with
  | nil =>
      intro trace held
      simpa [steps] using held
  | cons request requests inductionHypothesis =>
      intro trace held
      have keptLater := fun trace step member =>
        kept trace step (List.mem_cons_of_mem request member)
      rw [run_cons]
      cases called : builder.call request.graph request.call with
      | ok next =>
          have stepped := kept trace ⟨request, builder, next⟩ List.mem_cons_self held
            (makes_of_call called)
          rw [steps_cons_of_ok called, attempt_of_ok called, List.append_cons]
          exact inductionHypothesis keptLater _ stepped
      | error cause =>
          rw [steps_cons_of_error called, attempt_of_error called]
          exact inductionHypothesis keptLater trace held

/-- What holds at first and is kept by every request that succeeds holds after a run. -/
theorem run_induction (Holds : Builder → Prop) (initial : Holds builder)
    (kept : ∀ request ∈ requests, ∀ before after, Holds before →
      Makes request.graph before request.call after → Holds after) :
    Holds (builder.run requests) :=
  history_induction (fun _ builder => Holds builder) initial
    (fun _ step member held made => kept step.request member step.before step.after held made)

/-- Every request of a run is made where it may be made. -/
def AllAlong (May : Builder → Request → Prop) : Builder → List Request → Prop
  | _, [] => True
  | builder, request :: rest => May builder request ∧ (builder.attempt request).AllAlong May rest

instance decidableAllAlong (May : Builder → Request → Prop)
    [∀ builder request, Decidable (May builder request)] :
    ∀ (builder : Builder) (requests : List Request), Decidable (builder.AllAlong May requests)
  | _, [] => .isTrue trivial
  | builder, request :: rest =>
    have := decidableAllAlong May (builder.attempt request) rest
    inferInstanceAs (Decidable (May builder request ∧ (builder.attempt request).AllAlong May rest))

/-- What is kept by every request that is made where it may be, and succeeds, holds after a run of
such requests. -/
theorem AllAlong.induction {May : Builder → Request → Prop}
    (along : builder.AllAlong May requests) (Holds : Builder → Prop) (initial : Holds builder)
    (kept : ∀ request ∈ requests, ∀ before after, Holds before → May before request →
      Makes request.graph before request.call after → Holds after) :
    Holds (builder.run requests) := by
  induction requests generalizing builder with
  | nil => exact initial
  | cons request requests inductionHypothesis =>
      obtain ⟨may, alongRest⟩ := along
      refine inductionHypothesis alongRest ?_
        (fun later member => kept later (List.mem_cons_of_mem request member))
      cases called : builder.call request.graph request.call with
      | ok next =>
          rw [attempt_of_ok called]
          exact kept request List.mem_cons_self builder next initial may (makes_of_call called)
      | error cause =>
          rw [attempt_of_error called]
          exact initial

/-- Calls never change which routine is built. -/
theorem Makes.routine {graph : ClassGraph} {call : Call}
    (made : Makes graph builder call next) : next.routine = builder.routine := by
  cases made <;> rfl

theorem routine_run (routine : Method) (requests : List Request) :
    ((start routine).run requests).routine = routine := by
  apply run_induction (fun builder => builder.routine = routine)
  · rfl
  · intro request _ before after held made
    rw [made.routine, held]

/-- Calls never change the frame on entry. -/
theorem Makes.entry {graph : ClassGraph} {call : Call}
    (made : Makes graph builder call next) : next.entry = builder.entry := by
  cases made <;> rfl

theorem entry_run (routine : Method) (requests : List Request) :
    ((start routine).run requests).entry = entryFrame routine := by
  apply run_induction (fun builder => builder.entry = entryFrame routine)
  · rfl
  · intro request _ before after held made
    rw [made.entry, held]

/-- Every step stands somewhere in its run: the requests before it lead to the builder it
starts from. -/
theorem mem_steps (member : step ∈ builder.steps requests) :
    ∃ front back, requests = front ++ step.request :: back ∧
      step.before = builder.run front ∧
      step.before.call step.request.graph step.request.call = .ok step.after := by
  induction requests generalizing builder with
  | nil => simp [steps] at member
  | cons request requests inductionHypothesis =>
      cases called : builder.call request.graph request.call with
      | ok next =>
          rw [steps_cons_of_ok called] at member
          rcases List.mem_cons.mp member with rfl | later
          · exact ⟨[], requests, rfl, rfl, called⟩
          · obtain ⟨front, back, rfl, reached, stepped⟩ := inductionHypothesis later
            refine ⟨request :: front, back, rfl, ?_, stepped⟩
            rw [run_cons, attempt_of_ok called, reached]
      | error cause =>
          rw [steps_cons_of_error called] at member
          obtain ⟨front, back, rfl, reached, stepped⟩ := inductionHypothesis member
          refine ⟨request :: front, back, rfl, ?_, stepped⟩
          rw [run_cons, attempt_of_error called, reached]

/-- The rest of a run starts where the step ends. -/
theorem run_after_step (stepped : step.before.call step.request.graph step.request.call =
    .ok step.after) (reached : step.before = builder.run front) :
    builder.run (front ++ step.request :: back) = step.after.run back := by
  rw [run_append, ← reached, run_cons, attempt_of_ok stepped]

theorem moments_cons : builder.moments (request :: requests) =
    builder :: (builder.attempt request).moments requests :=
  List.scanl_cons

theorem start_mem_moments : builder ∈ builder.moments requests := by
  cases requests with
  | nil => simp [moments]
  | cons request requests =>
      rw [moments_cons]
      exact List.mem_cons_self

/-- Every moment of a run is the end of a shorter run. -/
theorem mem_moments {moment : Builder} (member : moment ∈ builder.moments requests) :
    ∃ front back, requests = front ++ back ∧ moment = builder.run front := by
  induction requests generalizing builder with
  | nil =>
      rw [moments, List.scanl_nil, List.mem_singleton] at member
      exact ⟨[], [], rfl, member⟩
  | cons request requests inductionHypothesis =>
      rw [moments_cons] at member
      rcases List.mem_cons.mp member with first | later
      · exact ⟨[], request :: requests, rfl, first⟩
      · obtain ⟨front, back, split, reached⟩ := inductionHypothesis later
        refine ⟨request :: front, back, by rw [split, List.cons_append], ?_⟩
        rw [run_cons, reached]

end Runs

end Builder

/-! ## What a step emits and describes -/

namespace Step

/-- The emissions that a step adds, in code order. -/
def emitted (step : Step) : List Emission :=
  step.after.emissions.drop step.before.emissions.length

/-- The description that a step emits with a label. -/
def emittedDelta? (step : Step) : Option FrameDelta :=
  match step.emitted with
  | [.label _, .frame delta] => some delta
  | _ => none

/-- The frame that a jump leaves once its operands are taken. -/
def left? (step : Step) : Option Frame :=
  match step.request.call with
  | .jump branch _ _ =>
    step.before.current.map (fun current => current.frame.drop branch.requirements.length)
  | _ => none

/-- The frame that a step computes its description against: the entry frame, or that of the
placed label which the step names. A label declared as recorded computes none. -/
def base? (step : Step) : Option Frame :=
  match step.request.call with
  | .jump _ none _ => some step.before.entry
  | .jump _ (some source) _ =>
    (step.before.labels.placed? source).map (fun placed => placed.snapshot.frame)
  | .declare _ .fromEntry => some step.before.entry
  | .declare _ (.fromLabel source) =>
    (step.before.labels.placed? source).map (fun placed => placed.snapshot.frame)
  | _ => none

/-- The description that a step computes: a jump that of the frame it leaves, a declaration the
one that it emits, unless it was handed in. -/
def computedDelta? (step : Step) : Option FrameDelta :=
  match step.request.call with
  | .jump _ _ _ => step.left?.bind (fun left => step.base?.map left.diff)
  | .declare _ (.described _) => none
  | .declare _ _ => step.emittedDelta?
  | _ => none

theorem emitted_eq {step : Step} {added : List Emission}
    (appended : step.after.emissions = step.before.emissions ++ added) :
    step.emitted = added := by
  rw [emitted, appended, List.drop_left]

theorem emitted_of_code {step : Step} {current : Snapshot} {frame : Frame} {code : Code}
    (reached : step.after = step.before.afterCode current frame code) :
    step.emitted = code.map .instruction := by
  apply emitted_eq
  rw [reached, Builder.emissions_afterCode]

theorem emitted_of_jump {step : Step} {current : Snapshot} {frame : Frame}
    {labels : LabelFrames} {instruction : Instruction}
    (reached : step.after = step.before.afterJump current frame labels instruction) :
    step.emitted = [.instruction instruction] := by
  apply emitted_eq
  rw [reached, Builder.emissions_afterJump]

theorem emitted_of_label {step : Step} {label : Label} {settled : LabelFrame}
    (reached : step.after = step.before.afterLabel label settled) :
    step.emitted = [.label label, .frame settled.delta] := by
  apply emitted_eq
  rw [reached, Builder.emissions_afterLabel]

theorem emitted_of_freshLabel {step : Step} (reached : step.after = step.before.freshLabel.2) :
    step.emitted = [] := by
  apply emitted_eq
  rw [reached, Builder.emissions_freshLabel, List.append_nil]

/-- A step only adds to what has been emitted. -/
theorem emissions_after {step : Step}
    (made : Builder.Makes step.request.graph step.before step.request.call step.after) :
    step.after.emissions = step.before.emissions ++ step.emitted := by
  have grown : ∃ added, step.after.emissions = step.before.emissions ++ added := by
    generalize step.request.call = call at made
    generalize step.after = after at made ⊢
    cases made with
    | operation | splice => exact ⟨_, Builder.emissions_afterCode⟩
    | jump => exact ⟨_, Builder.emissions_afterJump⟩
    | declare => exact ⟨_, Builder.emissions_afterLabel⟩
    | freshLabel => exact ⟨[], by simp⟩
  obtain ⟨added, appended⟩ := grown
  rw [emitted_eq appended, appended]

/-- Only a declaration emits a label, and it emits its own. -/
theorem declares_of_emits {step : Step} {label : Label}
    (made : Builder.Makes step.request.graph step.before step.request.call step.after)
    (emits : .label label ∈ step.emitted) :
    ∃ framing settled, step.request.call = .declare label framing ∧
      step.before.Settles label framing settled ∧
      step.after = step.before.afterLabel label settled := by
  generalize step.request.call = call at made ⊢
  generalize reached : step.after = after at made ⊢
  cases made with
  | operation | splice => simp [emitted_of_code reached] at emits
  | jump => simp [emitted_of_jump reached] at emits
  | @declare declared framing settled unplaced settles =>
      have same : label = declared := by simpa [emitted_of_label reached] using emits
      subst same
      exact ⟨framing, settled, rfl, settles, rfl⟩
  | freshLabel => simp [emitted_of_freshLabel reached] at emits

theorem emittedDelta?_of_label {step : Step} {label : Label} {settled : LabelFrame}
    (reached : step.after = step.before.afterLabel label settled) :
    step.emittedDelta? = some settled.delta := by
  rw [emittedDelta?, emitted_of_label reached]

theorem base?_of_jumpBase {step : Step} {branch : Branch} {source : Option Label}
    {target : Label} {base : Snapshot} (jumps : step.request.call = .jump branch source target)
    (based : step.before.jumpBase source target = .ok base) : step.base? = some base.frame := by
  rcases Builder.jumpBase_eq_ok.mp based with ⟨rfl, rfl⟩ | ⟨label, placed, rfl, found, rfl⟩
  · simp [base?, jumps, Snapshot.ofFrame]
  · simp [base?, jumps, found]

theorem left?_of_taken {step : Step} {branch : Branch} {source : Option Label}
    {target : Label} {current : Snapshot} {frame : Frame} {operands : List ValueType}
    {graph : ClassGraph} (jumps : step.request.call = .jump branch source target)
    (reachable : step.before.current = some current)
    (met : Requirement.Met graph branch.requirements operands)
    (taken : current.frame = ⟨frame.locals, operands.reverse ++ frame.stack⟩) :
    step.left? = some frame := by
  have counted : branch.requirements.length = operands.reverse.length := by
    rw [List.length_reverse]
    exact List.Forall₂.length_eq met
  simp [left?, jumps, reachable, taken, Frame.drop, counted]

end Step

/-- A run emits what its steps emit, in order. -/
theorem Builder.emissions_run (builder : Builder) (requests : List Request) :
    (builder.run requests).emissions =
      builder.emissions ++ (builder.steps requests).flatMap Step.emitted := by
  apply history_induction (fun trace reached =>
    reached.emissions = builder.emissions ++ trace.flatMap Step.emitted)
  · simp
  · intro trace step _ held made
    rw [step.emissions_after made, held, List.flatMap_append, List.flatMap_singleton,
      List.append_assoc]

/-- Every emission of a routine is that of a step, which had emitted all that stands before. -/
theorem Builder.step_of_emission {routine : Method} {requests : List Request}
    {front back : List Emission} {emission : Emission}
    (split : ((start routine).run requests).emissions = front ++ emission :: back) :
    ∃ step ∈ (start routine).steps requests, ∃ earlier later,
      step.emitted = earlier ++ emission :: later ∧ front = step.before.emissions ++ earlier := by
  suffices located : ∀ front back, ((start routine).run requests).emissions =
      front ++ emission :: back → ∃ step ∈ (start routine).steps requests, ∃ earlier later,
        step.emitted = earlier ++ emission :: later ∧ front = step.before.emissions ++ earlier from
    located front back split
  apply history_induction (fun trace reached => ∀ front back,
    reached.emissions = front ++ emission :: back → ∃ step ∈ trace, ∃ earlier later,
      step.emitted = earlier ++ emission :: later ∧ front = step.before.emissions ++ earlier)
  · intro front back split
    simp [emissions, start] at split
  · intro trace step _ held made front back split
    rw [step.emissions_after made] at split
    rcases List.append_eq_append_iff.mp split with ⟨earlier, rfl, added⟩ | ⟨between, before, rest⟩
    · exact ⟨step, by simp, earlier, back, added, rfl⟩
    · rcases between with _ | ⟨first, between⟩
      · rw [List.append_nil] at before
        exact ⟨step, by simp, [], back, rest.symm, by simp [before]⟩
      · obtain ⟨rfl, -⟩ := List.cons.inj rest
        obtain ⟨found, member, located⟩ := held front between before
        exact ⟨found, by simp [member], located⟩

/-! ## Properties of all frames -/

/-- All frames that a builder holds have a property. -/
structure Builder.AllFrames (Holds : Frame → Prop) (builder : Builder) : Prop where
  entry : Holds builder.entry
  current : ∀ snapshot, builder.current = some snapshot → Holds snapshot.frame
  labels : ∀ label state, builder.labels.find? label = some state →
    Holds state.frame.snapshot.frame

namespace Builder.AllFrames

variable {Holds : Frame → Prop} {graph : ClassGraph} {builder next : Builder} {label : Label}

theorem start {routine : Method} (entry : Holds (entryFrame routine)) :
    (start routine).AllFrames Holds := by
  refine ⟨entry, ?_, by simp [Builder.start]⟩
  rintro snapshot ⟨⟩
  exact entry

theorem arriving (all : builder.AllFrames Holds) {frame : Frame}
    (arrives : builder.arriving? label = some frame) : Holds frame := by
  unfold arriving? at arrives
  split at arrives
  · rename_i current reachable
    cases arrives
    exact all.current current reachable
  · obtain ⟨brought, pending, rfl⟩ := Option.map_eq_some_iff.mp arrives
    exact all.labels label _ (LabelFrames.pending?_eq_some.mp pending)

theorem settles (all : builder.AllFrames Holds) {framing : Framing} {settled : LabelFrame}
    (applied : ∀ delta frame, framing = .described delta →
      builder.entry.applyDelta? delta = some frame → Holds frame)
    (settles : builder.Settles label framing settled) : Holds settled.snapshot.frame := by
  cases settles with
  | recorded found agreed => exact all.arriving agreed.arrives
  | fromEntry agreed => exact all.arriving agreed.arrives
  | fromLabel found agreed => exact all.arriving agreed.arrives
  | arriving arrives => exact all.arriving arrives
  | applied unreached fits => exact applied _ _ rfl fits

/-- A label that is set to a frame with the property leaves the others as they are. -/
theorem labels_set (all : builder.AllFrames Holds) {state : LabelState}
    (holds : Holds state.frame.snapshot.frame) :
    ∀ other found, (builder.labels.set label state).find? other = some found →
      Holds found.frame.snapshot.frame := by
  intro other found isSet
  rcases LabelFrames.find?_set_eq_some.mp isSet with ⟨-, rfl⟩ | ⟨-, before⟩
  · exact holds
  · exact all.labels other found before

/-- One call keeps a property of all frames, if operations, taking operands and the descriptions
that are handed in keep it. -/
theorem makes {call : Call} (all : builder.AllFrames Holds) (unspliced : call.isUnspliced = true)
    (performed : ∀ operation current after code, call = .operation operation →
      builder.current = some current →
      operation.Performs graph builder.routine builder.localOffset current.frame after code →
        Holds current.frame → Holds after)
    (taken : ∀ locals operands stack, Holds ⟨locals, operands ++ stack⟩ → Holds ⟨locals, stack⟩)
    (applied : ∀ label delta frame, call = .declare label (.described delta) →
      builder.entry.applyDelta? delta = some frame → Holds frame)
    (made : Makes graph builder call next) : next.AllFrames Holds := by
  cases made with
  | @operation operation current frame code reachable performs =>
      refine ⟨all.entry, ?_, all.labels⟩
      intro snapshot held
      simp only [afterCode, Option.ite_none_left_eq_some, Option.some.injEq] at held
      obtain ⟨-, rfl⟩ := held
      exact performed operation current _ code rfl reachable performs
        (all.current current reachable)
  | splice => cases unspliced
  | @jump branch source target current base frame operands labels reachable met took based
      recorded =>
      have left : Holds frame := by
        have before := all.current current reachable
        rw [took] at before
        exact taken _ _ _ before
      refine ⟨all.entry, ?_, ?_⟩
      · intro snapshot held
        simp only [afterJump, Option.ite_none_left_eq_some, Option.some.injEq] at held
        obtain ⟨-, rfl⟩ := held
        exact left
      · rcases LabelFrames.recordJump_eq_ok.mp recorded with ⟨-, rfl⟩ | ⟨_, -, -, rfl⟩
        · exact all.labels_set left
        · exact all.labels
  | @declare label framing settled unplaced settles =>
      have holds : Holds settled.snapshot.frame :=
        all.settles (fun delta frame given => applied label delta frame (given ▸ rfl)) settles
      refine ⟨all.entry, ?_, all.labels_set holds⟩
      rintro snapshot ⟨⟩
      exact holds
  | freshLabel => exact ⟨all.entry, all.current, all.labels⟩

end Builder.AllFrames

end TypedBytecode
