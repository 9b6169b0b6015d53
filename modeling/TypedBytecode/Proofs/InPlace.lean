import TypedBytecode.Proofs.Joins

/-!
Contract: calls that change their builder in place, and what is left of those that fail.

Owns:
- `InPlace`: work that writes to a builder stage by stage, where nothing that was written is
  taken back;
- every call as such work, with its checks and writes in the order in which they are made;
- the agreement with `Builder.call`: no check comes behind a write;
- the run theorem: a run is the same without the calls that fail.

Frames are worked on as copies, and are written back once. The label table, the emissions, the
sizes and the current frame are each written on their own.

Does not own: which calls fail.
-/

namespace TypedBytecode

/-- Work that changes a builder in place. What is written before a failure stays written. -/
abbrev InPlace := ExceptT Error (StateM Builder)

namespace InPlace

/-! ## Checks and writes -/

/-- Go on with the result of a check, or fail as it does. -/
def check {α : Type} : Except Error α → InPlace α
  | .ok value => pure value
  | .error cause => throw cause

def emit (emission : Emission) : InPlace Unit :=
  modify (fun builder => { builder with emitted := emission :: builder.emitted })

/-- Emit instructions one at a time. -/
def emitCode : Code → InPlace Unit
  | [] => pure ()
  | instruction :: rest => do
    emit (.instruction instruction)
    emitCode rest

/-- Make room on the stack. -/
def needStack (depth : Nat) : InPlace Unit :=
  modify (fun builder => { builder with maxStack := max builder.maxStack depth })

/-- Make room for locals. -/
def needLocals (count : Nat) : InPlace Unit :=
  modify (fun builder => { builder with maxLocals := max builder.maxLocals count })

def goOnFrom (current : Option Snapshot) : InPlace Unit :=
  modify (fun builder => { builder with current := current })

/-- A copy of the current frame. -/
def reachableFrame (operation : String) : InPlace Snapshot := do
  let builder ← get
  match builder.current with
  | some current => pure current
  | none => throw (.unreachableCode operation)

/-- Write the label table, if the change to it is allowed. -/
def changeLabels (change : LabelFrames → Except Error LabelFrames) : InPlace Unit := do
  let builder ← get
  let labels ← check (change builder.labels)
  set { builder with labels := labels }

/-! ## Calls -/

def track (operation : String) (effect : Effect) : InPlace Unit := do
  let current ← reachableFrame operation
  let (next, code) ← check (effect current.frame)
  needStack (current.frame.stackWidth + code.maxGrowth).toNat
  needLocals next.locals.length
  emitCode code
  goOnFrom (if code.isTerminal then none else some { current with frame := next })

def operate (graph : ClassGraph) (operation : Operation) : InPlace Unit := do
  let builder ← get
  let effect ← check (operation.plan graph builder.routine builder.localOffset)
  track operation.name effect

def splice (generate : Frame → Frame × Code) : InPlace Unit :=
  track "manual" (fun frame => .ok (generate frame))

/-- The frame that a jump brings is recorded before the jump is emitted. -/
def jump (graph : ClassGraph) (branch : Branch) (source : Option Label) (target : Label) :
    InPlace Unit := do
  let current ← reachableFrame branch.name
  let (_, next) ← check (current.frame.take graph branch.name branch.requirements)
  let builder ← get
  let base ← check (builder.jumpBase source target)
  changeLabels (fun labels => labels.recordJump target
    ⟨.describedAgainst next base, next.diff base.frame⟩ source.isNone)
  let instruction := branch.instruction target
  emit (.instruction instruction)
  goOnFrom (if instruction.isTerminal then none else some { current with frame := next })

/-- A label enters the table before it is emitted with its frame. -/
def place (label : Label) (settled : LabelFrame) : InPlace Unit := do
  changeLabels (fun labels => labels.place label settled)
  needLocals settled.snapshot.frame.locals.length
  needStack settled.snapshot.frame.stackWidth
  emit (.label label)
  emit (.frame settled.delta)
  goOnFrom (some settled.snapshot)

def declareAgainst (label : Label) (base : Snapshot) : InPlace Unit := do
  let builder ← get
  let frame ← check (builder.agreedFrame label)
  place label ⟨.describedAgainst frame base, frame.diff base.frame⟩

def declare (label : Label) : Framing → InPlace Unit
  | .recorded => do
    let builder ← get
    let _ ← check (builder.agreedFrame label)
    match builder.labels.pending? label with
    | some pending => place label pending
    | none => throw (.frameConsistency label .unreferenced)
  | .fromEntry => do
    let builder ← get
    declareAgainst label (.ofFrame builder.entry)
  | .fromLabel source => do
    let builder ← get
    match builder.labels.placed? source with
    | some placed => declareAgainst label placed.snapshot
    | none => throw (.frameConsistency label (.missingSourceFrame source))
  | .described delta => do
    let builder ← get
    let frame ← check (builder.describedFrame label delta)
    place label ⟨.ofFrame frame, delta⟩

def freshLabel : InPlace Label := do
  let builder ← get
  let (label, supply) := builder.supply.fresh
  set { builder with supply := supply }
  pure label

/-- One call. Only the call for a fresh label gives one back. -/
def call (graph : ClassGraph) : Call → InPlace (Option Label)
  | .operation operation => do
    operate graph operation
    pure none
  | .splice generate => do
    splice generate
    pure none
  | .jump branch source target => do
    jump graph branch source target
    pure none
  | .declare label framing => do
    declare label framing
    pure none
  | .freshLabel => do
    let label ← freshLabel
    pure (some label)

/-! ## All or nothing -/

/-- What work with the given outcome gives back and leaves behind, if it is either done as a
whole or not begun. -/
def settle (builder : Builder) : Except Error Builder → Except Error Unit × Builder
  | .ok next => (.ok (), next)
  | .error cause => (.error cause, builder)

section Stages

variable {α β : Type} {builder after : Builder}

/-- Work goes on from where the work before it has left off. -/
theorem run_bind (first : InPlace α) (next : α → InPlace β) :
    (first >>= next).run builder =
      match first.run builder with
      | (.ok value, after) => (next value).run after
      | (.error cause, after) => (.error cause, after) := by
  show (ExceptT.bindCont next (first.run builder).1) (first.run builder).2 = _
  rcases first.run builder with ⟨_ | _, after⟩ <;> rfl

theorem run_get_bind (next : Builder → InPlace β) :
    (get >>= next : InPlace β).run builder = (next builder).run builder := rfl

/-- Work behind a check is settled if it is so on its own. -/
theorem run_check_bind {checked : Except Error α} {next : α → InPlace Unit}
    {outcome : α → Except Error Builder}
    (settled : ∀ value, (next value).run builder = settle builder (outcome value)) :
    (check checked >>= next).run builder = settle builder (checked >>= outcome) := by
  cases checked with
  | ok value => exact settled value
  | error cause => rfl

theorem run_reachableFrame_bind (operation : String) (next : Snapshot → InPlace β) :
    (reachableFrame operation >>= next).run builder =
      match builder.current with
      | some current => (next current).run builder
      | none => (.error (.unreachableCode operation), builder) := by
  have copied : (reachableFrame operation).run builder =
      match builder.current with
      | some current => (.ok current, builder)
      | none => (.error (.unreachableCode operation), builder) := by
    rw [reachableFrame, run_get_bind]
    cases builder.current <;> rfl
  rw [run_bind, copied]
  cases builder.current <;> rfl

theorem run_emitCode (code : Code) :
    (emitCode code).run builder =
      (.ok (), { builder with emitted := (code.map .instruction).reverse ++ builder.emitted }) := by
  induction code generalizing builder with
  | nil => rfl
  | cons instruction code inductionHypothesis =>
      have emitted : (emit (.instruction instruction)).run builder =
          (.ok (), { builder with emitted := .instruction instruction :: builder.emitted }) := rfl
      rw [emitCode, run_bind, emitted]
      dsimp only
      rw [inductionHypothesis]
      simp

/-- Writes behind a change of the table are made if the change is. -/
theorem run_changeLabels_bind {change : LabelFrames → Except Error LabelFrames}
    {next : Unit → InPlace Unit} {written : LabelFrames → Builder}
    (writes : ∀ labels, (next ()).run { builder with labels := labels } =
      (.ok (), written labels)) :
    (changeLabels change >>= next).run builder =
      settle builder (change builder.labels >>= fun labels => .ok (written labels)) := by
  have changed : (changeLabels change).run builder =
      match change builder.labels with
      | .ok labels => (.ok (), { builder with labels := labels })
      | .error cause => (.error cause, builder) := by
    show (check (change builder.labels) >>= fun labels =>
      (set { builder with labels := labels } : InPlace Unit)).run builder = _
    cases change builder.labels <;> rfl
  rw [run_bind, changed]
  cases change builder.labels with
  | ok labels => exact writes labels
  | error cause => rfl

end Stages

section Calls

variable {builder : Builder}

theorem run_track (operation : String) (effect : Effect) :
    (track operation effect).run builder = settle builder (builder.track operation effect) := by
  unfold track Builder.track
  rw [run_reachableFrame_bind]
  cases builder.current with
  | none => rfl
  | some current =>
      apply run_check_bind
      rintro ⟨next, code⟩
      -- All checks have been made, and the rest are writes.
      show (emitCode code >>= _).run _ = _
      rw [run_bind, run_emitCode]
      rfl

theorem run_operate (graph : ClassGraph) (operation : Operation) :
    (operate graph operation).run builder = settle builder (builder.operate graph operation) :=
  run_check_bind (fun effect => run_track operation.name effect)

theorem run_jump (graph : ClassGraph) (branch : Branch) (source : Option Label)
    (target : Label) :
    (jump graph branch source target).run builder =
      settle builder (builder.jump graph branch source target) := by
  unfold jump Builder.jump
  rw [run_reachableFrame_bind]
  cases builder.current with
  | none => rfl
  | some current =>
      apply run_check_bind
      rintro ⟨operands, next⟩
      apply run_check_bind
      intro base
      exact run_changeLabels_bind (fun labels => rfl)

theorem run_place (label : Label) (settled : LabelFrame) :
    (place label settled).run builder = settle builder (builder.place label settled) :=
  run_changeLabels_bind (fun _ => rfl)

theorem run_declareAgainst (label : Label) (base : Snapshot) :
    (declareAgainst label base).run builder =
      settle builder (builder.declareAgainst label base) :=
  run_check_bind (fun _ => run_place label _)

theorem run_declare (label : Label) (framing : Framing) :
    (declare label framing).run builder = settle builder (builder.declare label framing) := by
  cases framing with
  | recorded =>
      rw [declare, run_get_bind, Builder.declare]
      apply run_check_bind
      intro _
      cases builder.labels.pending? label with
      | some pending => exact run_place label pending
      | none => rfl
  | fromEntry =>
      rw [declare, run_get_bind, Builder.declare]
      exact run_declareAgainst label (.ofFrame builder.entry)
  | fromLabel source =>
      rw [declare, run_get_bind, Builder.declare]
      cases builder.labels.placed? source with
      | some placed => exact run_declareAgainst label placed.snapshot
      | none => rfl
  | described delta =>
      rw [declare, run_get_bind, Builder.declare]
      exact run_check_bind (fun _ => run_place label _)

/-- The label that a call gives back. -/
def given? (builder : Builder) : Call → Option Label
  | .freshLabel => some builder.freshLabel.1
  | _ => none

/-- In place, a call does what it does as a whole, and a call that fails has changed nothing. -/
theorem run_call (graph : ClassGraph) (asked : Call) :
    (call graph asked).run builder =
      match builder.call graph asked with
      | .ok next => (.ok (given? builder asked), next)
      | .error cause => (.error cause, builder) := by
  have closed : ∀ (work : InPlace Unit) (outcome : Except Error Builder),
      work.run builder = settle builder outcome →
        (work >>= fun _ => (pure none : InPlace (Option Label))).run builder =
          match outcome with
          | .ok next => (.ok none, next)
          | .error cause => (.error cause, builder) := by
    intro work outcome settled
    rw [run_bind, settled]
    cases outcome <;> rfl
  cases asked with
  | operation operation => exact closed _ _ (run_operate graph operation)
  | splice generate => exact closed _ _ (run_track "manual" _)
  | jump branch source target => exact closed _ _ (run_jump graph branch source target)
  | declare label framing => exact closed _ _ (run_declare label framing)
  | freshLabel => rfl

end Calls

end InPlace

/-! ## Runs without failures -/

namespace Builder

/-- Make requests one after the other, each from where the one before has left the builder. Every
request is listed with its answer, also if that is a failure. -/
def perform : Builder → List Request → List (Request × Except Error (Option Label)) × Builder
  | builder, [] => ([], builder)
  | builder, request :: rest =>
    let (answer, next) := (InPlace.call request.graph request.call).run builder
    let (answered, last) := next.perform rest
    ((request, answer) :: answered, last)

/-- The requests that do not fail when all are made in turn. -/
def accepted (builder : Builder) (requests : List Request) : List Request :=
  ((builder.perform requests).1.filter (fun answered => answered.2.isOk)).map Prod.fst

section Perform

variable {builder next : Builder} {request : Request} {requests : List Request}

theorem perform_cons_of_ok (succeeds : builder.call request.graph request.call = .ok next) :
    builder.perform (request :: requests) =
      ((request, .ok (InPlace.given? builder request.call)) :: (next.perform requests).1,
        (next.perform requests).2) := by
  rw [perform, InPlace.run_call, succeeds]

theorem perform_cons_of_error {cause : Error}
    (fails : builder.call request.graph request.call = .error cause) :
    builder.perform (request :: requests) =
      ((request, .error cause) :: (builder.perform requests).1,
        (builder.perform requests).2) := by
  rw [perform, InPlace.run_call, fails]

theorem accepted_cons_of_ok (succeeds : builder.call request.graph request.call = .ok next) :
    builder.accepted (request :: requests) = request :: next.accepted requests := by
  rw [accepted, perform_cons_of_ok succeeds]
  rfl

theorem accepted_cons_of_error {cause : Error}
    (fails : builder.call request.graph request.call = .error cause) :
    builder.accepted (request :: requests) = builder.accepted requests := by
  rw [accepted, perform_cons_of_error fails]
  rfl

/-- Requests made in place lead where they lead as a whole. -/
theorem perform_run : (builder.perform requests).2 = builder.run requests := by
  induction requests generalizing builder with
  | nil => rfl
  | cons request requests inductionHypothesis =>
      rw [run_cons]
      cases called : builder.call request.graph request.call with
      | ok next => rw [perform_cons_of_ok called, attempt_of_ok called, inductionHypothesis]
      | error cause =>
          rw [perform_cons_of_error called, attempt_of_error called, inductionHypothesis]

/-- The accepted requests are answered and lead on as among all others. -/
theorem perform_accepted :
    builder.perform (builder.accepted requests) =
      ((builder.perform requests).1.filter (fun answered => answered.2.isOk),
        (builder.perform requests).2) := by
  induction requests generalizing builder with
  | nil => rfl
  | cons request requests inductionHypothesis =>
      cases called : builder.call request.graph request.call with
      | ok next =>
          rw [accepted_cons_of_ok called, perform_cons_of_ok called, perform_cons_of_ok called,
            inductionHypothesis]
          rfl
      | error cause =>
          rw [accepted_cons_of_error called, perform_cons_of_error called, inductionHypothesis]
          rfl

end Perform

/-- Whatever requests are made in place, of any kind: without those that fail, all others get the
same answers and the builder ends up the same, so that it is finished in the same way. It is also
the builder that the run of whole calls comes to. -/
theorem failures_leave_no_trace (builder : Builder) (requests : List Request) :
    (builder.perform (builder.accepted requests)).1 =
        (builder.perform requests).1.filter (fun answered => answered.2.isOk) ∧
      (builder.perform (builder.accepted requests)).2 = (builder.perform requests).2 ∧
      (builder.perform (builder.accepted requests)).2.finish =
        (builder.perform requests).2.finish ∧
      (builder.perform requests).2 = builder.run requests := by
  rw [perform_accepted]
  exact ⟨rfl, rfl, rfl, perform_run⟩

/-- Calls of every kind that fail at some stage: a jump whose frame disagrees once its operand is
taken, jumps and labels without a frame to go by, code that cannot be reached, a description that
does not fit and a label that is placed already. -/
def refusedCalls : List Request :=
  [.operation (.constInt 0), .jump (.ifZero .eq) none ⟨0⟩, .operation (.constInt 1),
    .operation .dup, .jump (.ifZero .ne) none ⟨0⟩, .jump .goto (some ⟨5⟩) ⟨1⟩,
    .splice (fun frame => (frame, [.nop])), .freshLabel, .operation (.arithmetic .add),
    .operation .returnValue, .splice (fun frame => (frame, [.nop])), .freshLabel,
    .declare ⟨1⟩ .recorded, .declare ⟨1⟩ (.fromLabel ⟨5⟩),
    .declare ⟨1⟩ (.described (.chop [.int .int])), .declare ⟨0⟩ .recorded,
    .declare ⟨0⟩ .fromEntry, .operation .returnValue].map (⟨.empty, ·⟩)

theorem refusedCalls_leave_no_trace :
    ((start plainRoutine).perform refusedCalls).1.map (fun answered => answered.2.isOk) =
        [true, true, true, true, false, false, true, true, true, true, false, true, false, false,
          false, true, false, true] ∧
      ((start plainRoutine).perform ((start plainRoutine).accepted refusedCalls)).2 =
        ((start plainRoutine).perform refusedCalls).2 :=
  ⟨by decide, (failures_leave_no_trace (start plainRoutine) refusedCalls).2.1⟩

end Builder

end TypedBytecode
