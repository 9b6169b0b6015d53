import Mathlib.Data.List.Nodup
import TypedBytecode.Proofs.Joins

/-!
Contract: labels that are jumped to and labels that are declared, over whole runs.

Owns:
- the label table as a table, with one state for each label, and its unresolved labels in order;
- the labels that the emissions declare and those that they jump to;
- `Builder.Indexed`: the table tells the declared labels from those that are only jumped to;
- finishing a routine into a consumer that gets one event after the other;
- the run theorem: a routine is sent, as a whole, exactly if no jump is left without its label.

Descriptions of frames may be handed in. Spliced code is not covered.

Does not own: the frames of labels.
-/

namespace TypedBytecode

/-! ## The table -/

namespace LabelFrames

variable {frames : LabelFrames} {label : Label} {state : LabelState}

/-- No label has two states. -/
def Unique (frames : LabelFrames) : Prop :=
  (frames.states.map Prod.fst).Nodup

theorem unique_empty : empty.Unique :=
  List.nodup_nil

theorem Unique.set (unique : frames.Unique) : (frames.set label state).Unique := by
  unfold Unique LabelFrames.set
  rw [List.map_cons, List.nodup_cons]
  constructor
  · intro member
    obtain ⟨other, kept, same⟩ := List.mem_map.mp member
    have different := (List.mem_filter.mp kept).2
    rw [same, bne_self_eq_false] at different
    cases different
  · exact List.Nodup.sublist (List.filter_sublist.map Prod.fst) unique

/-- Looking a label up finds the state that the table holds for it. -/
theorem Unique.find?_eq_some (unique : frames.Unique) :
    frames.find? label = some state ↔ (label, state) ∈ frames.states := by
  obtain ⟨states⟩ := frames
  unfold Unique at unique
  unfold find?
  dsimp only at unique ⊢
  induction states with
  | nil => simp
  | cons first states inductionHypothesis =>
      obtain ⟨other, held⟩ := first
      rw [List.map_cons, List.nodup_cons] at unique
      obtain ⟨fresh, unique⟩ := unique
      by_cases same : other = label
      · have missing : (label, state) ∉ states := by
          intro member
          apply fresh
          exact List.mem_map.mpr ⟨_, member, same.symm⟩
        simp only [same, List.find?_cons, beq_self_eq_true, Option.map_some, Option.some.injEq,
          List.mem_cons, Prod.mk.injEq, true_and, missing, or_false]
        exact eq_comm
      · have skipped : (other == label) = false := beq_eq_false_iff_ne.mpr same
        have different : ¬ label = other := fun equal => same equal.symm
        simp only [List.find?_cons, skipped, List.mem_cons, Prod.mk.injEq, different, false_and,
          false_or]
        exact inductionHypothesis unique

/-- The unresolved labels are those with a pending frame. -/
theorem Unique.mem_unresolved (unique : frames.Unique) :
    label ∈ frames.unresolved ↔ ∃ brought, frames.find? label = some (.pending brought) := by
  simp only [unresolved, List.mem_mergeSort, List.mem_filterMap, unique.find?_eq_some]
  constructor
  · rintro ⟨⟨other, state⟩, member, named⟩
    cases state with
    | pending brought =>
        cases named
        exact ⟨brought, member⟩
    | placed settled => cases named
  · rintro ⟨brought, member⟩
    exact ⟨(label, .pending brought), member, rfl⟩

/-- Labels that are picked from the states are listed as they stand there. -/
theorem picked_sublist {pick? : Label × LabelState → Option Label}
    (own : ∀ state label, pick? state = some label → state.1 = label)
    (states : List (Label × LabelState)) :
    (states.filterMap pick?).Sublist (states.map Prod.fst) := by
  induction states with
  | nil => exact .slnil
  | cons state states inductionHypothesis =>
      cases picked : pick? state with
      | none =>
          rw [List.filterMap_cons_none picked]
          exact inductionHypothesis.cons state.1
      | some label =>
          rw [List.filterMap_cons_some picked, List.map_cons, own state label picked]
          exact inductionHypothesis.cons_cons label

/-- The unresolved labels are listed in strictly increasing order. -/
theorem Unique.unresolved_increasing (unique : frames.Unique) :
    frames.unresolved.Pairwise (fun earlier later => earlier.index < later.index) := by
  have distinct : frames.unresolved.Nodup := by
    apply (List.mergeSort_perm _ _).nodup_iff.mpr
    refine List.Nodup.sublist (picked_sublist ?_ frames.states) unique
    rintro ⟨label, state⟩ other picked
    cases state with
    | pending brought => exact Option.some.inj picked
    | placed settled => cases picked
  have sorted : frames.unresolved.Pairwise
      (fun earlier later => decide (earlier.index ≤ later.index) = true) := by
    apply List.pairwise_mergeSort
    · intro first second third
      simp only [decide_eq_true_eq]
      omega
    · intro first second
      simp only [Bool.or_eq_true, decide_eq_true_eq]
      omega
  apply (sorted.and distinct).imp
  rintro ⟨earlier⟩ ⟨later⟩ ⟨ordered, different⟩
  simp only [decide_eq_true_eq, ne_eq, Label.mk.injEq] at ordered different
  dsimp only
  omega

end LabelFrames

/-! ## Labels in the emissions -/

/-- Label that an emission declares. -/
def Emission.declared? : Emission → Option Label
  | .label position => some position
  | _ => none

/-- Label that an emission can jump to. -/
def Emission.target? : Emission → Option Label
  | .instruction emitted => emitted.target?
  | _ => none

theorem Branch.target?_instruction (branch : Branch) (target : Label) :
    (branch.instruction target).target? = some target := by
  cases branch <;> rfl

namespace Builder

/-- The labels declared in the emissions, in order. -/
def declared (builder : Builder) : List Label :=
  builder.emissions.filterMap Emission.declared?

/-- The targets of the jumps in the emissions, in order. -/
def targets (builder : Builder) : List Label :=
  builder.emissions.filterMap Emission.target?

section Labels

variable {builder : Builder} {current : Snapshot} {frame : Frame} {labels : LabelFrames}
  {branch : Branch} {target label : Label} {settled : LabelFrame}

@[simp] theorem declared_afterCode {code : Code} :
    (builder.afterCode current frame code).declared = builder.declared := by
  have none : (code.map Emission.instruction).filterMap Emission.declared? = [] := by
    rw [List.filterMap_eq_nil_iff]
    intro emission member
    obtain ⟨instruction, -, rfl⟩ := List.mem_map.mp member
    rfl
  rw [declared, emissions_afterCode, List.filterMap_append, none, List.append_nil, declared]

theorem targets_afterCode {code : Code}
    (straight : ∀ instruction ∈ code, instruction.target? = none) :
    (builder.afterCode current frame code).targets = builder.targets := by
  have none : (code.map Emission.instruction).filterMap Emission.target? = [] := by
    rw [List.filterMap_eq_nil_iff]
    intro emission member
    obtain ⟨instruction, inCode, rfl⟩ := List.mem_map.mp member
    exact straight instruction inCode
  rw [targets, emissions_afterCode, List.filterMap_append, none, List.append_nil, targets]

@[simp] theorem declared_afterJump :
    (builder.afterJump current frame labels (branch.instruction target)).declared =
      builder.declared := by
  simp [declared, Emission.declared?]

@[simp] theorem targets_afterJump :
    (builder.afterJump current frame labels (branch.instruction target)).targets =
      builder.targets ++ [target] := by
  simp [targets, Emission.target?, Branch.target?_instruction]

@[simp] theorem declared_afterLabel :
    (builder.afterLabel label settled).declared = builder.declared ++ [label] := by
  simp [declared, Emission.declared?]

@[simp] theorem targets_afterLabel :
    (builder.afterLabel label settled).targets = builder.targets := by
  simp [targets, Emission.target?]

end Labels

/-! ## What the table knows -/

/-- The table holds one state for each label: placed for the declared labels, pending for those
that are jumped to and not declared. No label is declared twice. -/
structure Indexed (builder : Builder) : Prop where
  unique : builder.labels.Unique
  placed_iff : ∀ label, (∃ settled, builder.labels.find? label = some (.placed settled)) ↔
    label ∈ builder.declared
  pending_iff : ∀ label, (∃ brought, builder.labels.find? label = some (.pending brought)) ↔
    label ∈ builder.targets ∧ label ∉ builder.declared
  once : builder.declared.Nodup

theorem indexed_start (routine : Method) : (start routine).Indexed where
  unique := LabelFrames.unique_empty
  placed_iff := by simp [start, declared, emissions]
  pending_iff := by simp [start, declared, targets, emissions]
  once := List.nodup_nil

namespace Indexed

variable {graph : ClassGraph} {builder next : Builder} {label : Label}

theorem not_declared (indexed : builder.Indexed) (unplaced : builder.labels.placed? label = none) :
    label ∉ builder.declared := by
  intro member
  obtain ⟨settled, found⟩ := (indexed.placed_iff label).mpr member
  rw [LabelFrames.placed?_eq_some.mpr found] at unplaced
  cases unplaced

theorem not_declared_of_unknown (indexed : builder.Indexed)
    (unknown : builder.labels.find? label = none) : label ∉ builder.declared := by
  intro member
  obtain ⟨settled, found⟩ := (indexed.placed_iff label).mpr member
  rw [unknown] at found
  cases found

/-- The first jump to a label makes it pending. -/
theorem afterFirstJump (indexed : builder.Indexed) {current : Snapshot} {frame : Frame}
    {branch : Branch} {target : Label} {brought : LabelFrame}
    (unknown : builder.labels.find? target = none) :
    (builder.afterJump current frame (builder.labels.set target (.pending brought))
      (branch.instruction target)).Indexed where
  unique := indexed.unique.set
  placed_iff := by
    intro label
    rw [declared_afterJump, ← indexed.placed_iff label]
    simp only [afterJump, LabelFrames.find?_set_eq_some, reduceCtorEq, and_false, false_or]
    constructor
    · rintro ⟨settled, -, found⟩
      exact ⟨settled, found⟩
    · rintro ⟨settled, found⟩
      refine ⟨settled, ?_, found⟩
      rintro rfl
      rw [unknown] at found
      cases found
  pending_iff := by
    intro label
    rw [declared_afterJump, targets_afterJump, List.mem_append, List.mem_singleton]
    simp only [afterJump, LabelFrames.find?_set_eq_some]
    by_cases same : label = target
    · have undeclared := indexed.not_declared_of_unknown unknown
      simp [same, undeclared]
    · simpa [same] using indexed.pending_iff label
  once := by
    rw [declared_afterJump]
    exact indexed.once

/-- A jump to a label that has a frame leaves the table alone. -/
theorem afterKnownJump (indexed : builder.Indexed) {current : Snapshot} {frame : Frame}
    {branch : Branch} {target : Label} {state : LabelState}
    (known : builder.labels.find? target = some state) :
    (builder.afterJump current frame builder.labels (branch.instruction target)).Indexed where
  unique := indexed.unique
  placed_iff := by
    intro label
    rw [declared_afterJump]
    exact indexed.placed_iff label
  pending_iff := by
    intro label
    rw [declared_afterJump, targets_afterJump, List.mem_append, List.mem_singleton]
    by_cases same : label = target
    · -- The target is pending or placed already, so it is not pending exactly if declared.
      subst same
      have pending := indexed.pending_iff label
      have placed := indexed.placed_iff label
      cases state with
      | pending brought =>
          have held : ∃ brought, builder.labels.find? label = some (.pending brought) :=
            ⟨brought, known⟩
          simpa [afterJump, held] using (pending.mp held).2
      | placed settled =>
          have member := placed.mp ⟨settled, known⟩
          simp [afterJump, known, member]
    · simpa [afterJump, same] using indexed.pending_iff label
  once := by
    rw [declared_afterJump]
    exact indexed.once

/-- A declaration places its label. -/
theorem afterLabel (indexed : builder.Indexed) {settled : LabelFrame}
    (unplaced : builder.labels.placed? label = none) :
    (builder.afterLabel label settled).Indexed where
  unique := indexed.unique.set
  placed_iff := by
    intro other
    rw [declared_afterLabel, List.mem_append, List.mem_singleton, ← indexed.placed_iff other]
    simp only [Builder.afterLabel, LabelFrames.find?_set_eq_some]
    by_cases same : other = label
    · simp [same]
    · simp [same]
  pending_iff := by
    intro other
    rw [declared_afterLabel, targets_afterLabel, List.mem_append, List.mem_singleton]
    simp only [Builder.afterLabel, LabelFrames.find?_set_eq_some]
    by_cases same : other = label
    · simp [same]
    · simpa [same] using indexed.pending_iff other
  once := by
    rw [declared_afterLabel, List.nodup_append]
    refine ⟨indexed.once, List.nodup_singleton label, ?_⟩
    rintro other member _ placed rfl
    rw [List.mem_singleton] at placed
    subst placed
    exact indexed.not_declared unplaced member

/-- One call keeps the table in step with the emissions. -/
theorem makes {call : Call} (indexed : builder.Indexed) (unspliced : call.isUnspliced = true)
    (made : Makes graph builder call next) : next.Indexed := by
  cases made with
  | operation reachable performed =>
      have straight := performed.target?_eq_none
      refine ⟨indexed.unique, ?_, ?_, ?_⟩
      · rw [declared_afterCode]
        exact indexed.placed_iff
      · rw [declared_afterCode, targets_afterCode straight]
        exact indexed.pending_iff
      · rw [declared_afterCode]
        exact indexed.once
  | splice => cases unspliced
  | jump reachable met taken based recorded =>
      rcases LabelFrames.recordJump_eq_ok.mp recorded with ⟨unknown, rfl⟩ | ⟨_, known, -, rfl⟩
      · exact indexed.afterFirstJump unknown
      · exact indexed.afterKnownJump known
  | declare unplaced settles => exact indexed.afterLabel unplaced
  | freshLabel => exact ⟨indexed.unique, indexed.placed_iff, indexed.pending_iff, indexed.once⟩

end Indexed

/-- A run keeps the table in step with the emissions. -/
theorem indexed_run {routine : Method} {requests : List Request}
    (unspliced : ∀ request ∈ requests, request.call.isUnspliced = true) :
    ((start routine).run requests).Indexed :=
  run_induction Indexed (indexed_start routine) (fun request member _ _ held made =>
    held.makes (unspliced request member) made)

/-! ## Handing a routine out -/

end Builder

/-- What the consumer of a finished routine gets to see, one at a time. -/
inductive Event where
  | emission (emission : Emission)
  | size (size : CodeSize)
deriving DecidableEq, Repr

/-- Work that sends events to a consumer. What was sent before a failure stays sent. -/
abbrev Sending := ExceptT Error (StateM (List Event))

namespace Sending

def send (event : Event) : Sending Unit :=
  modify (fun received => received ++ [event])

def sendAll : List Emission → Sending Unit
  | [] => pure ()
  | emission :: rest => do
    send (.emission emission)
    sendAll rest

theorem run_sendAll_bind {α : Type} (emissions : List Emission) (next : Sending α)
    (received : List Event) :
    (sendAll emissions >>= fun _ => next).run received =
      next.run (received ++ emissions.map .emission) := by
  induction emissions generalizing received with
  | nil => exact congrArg next.run (List.append_nil received).symm
  | cons emission rest inductionHypothesis =>
      have later := inductionHypothesis (received ++ [.emission emission])
      rw [List.append_assoc, List.singleton_append] at later
      exact later

end Sending

namespace Builder

/-- Finish a routine by sending its emissions in order and then its size. -/
def finishInto (builder : Builder) : Sending CodeSize :=
  match builder.labels.unresolved with
  | [] => do
    Sending.sendAll builder.emissions
    Sending.send (.size ⟨builder.maxStack, builder.maxLocals⟩)
    pure ⟨builder.maxStack, builder.maxLocals⟩
  | labels => throw (.unresolvedLabels labels)

theorem finish_of_resolved {builder : Builder} (resolved : builder.labels.unresolved = []) :
    builder.finish = .ok ⟨builder.emissions, ⟨builder.maxStack, builder.maxLocals⟩⟩ := by
  rw [finish, resolved]

theorem finish_of_unresolved {builder : Builder} (left : builder.labels.unresolved ≠ []) :
    builder.finish = .error (.unresolvedLabels builder.labels.unresolved) := by
  unfold finish
  split
  · contradiction
  · rfl

/-- A finished routine is sent as a whole, and of one that is not finished nothing is sent. -/
theorem run_finishInto {builder : Builder} (received : List Event) :
    builder.finishInto.run received =
      match builder.finish with
      | .ok listing =>
        (.ok listing.size, received ++ (listing.emissions.map .emission ++ [.size listing.size]))
      | .error cause => (.error cause, received) := by
  by_cases resolved : builder.labels.unresolved = []
  · rw [finish_of_resolved resolved, finishInto, resolved]
    dsimp only
    rw [Sending.run_sendAll_bind, ← List.append_assoc]
    rfl
  · rw [finish_of_unresolved resolved]
    unfold finishInto
    split
    · contradiction
    · rfl

theorem Indexed.mem_unresolved {builder : Builder} (indexed : builder.Indexed) {label : Label} :
    label ∈ builder.labels.unresolved ↔ label ∈ builder.targets ∧ label ∉ builder.declared := by
  rw [indexed.unique.mem_unresolved, indexed.pending_iff]

theorem Indexed.resolved_iff {builder : Builder} (indexed : builder.Indexed) :
    builder.labels.unresolved = [] ↔ ∀ label ∈ builder.targets, label ∈ builder.declared := by
  simp only [List.eq_nil_iff_forall_not_mem, indexed.mem_unresolved, not_and, not_not]

/-- How a routine that has emitted the given stream is finished, by its labels. -/
structure Resolves (builder : Builder) (stream : List Emission) : Prop where
  succeeds_iff : (∃ listing, builder.finish = .ok listing) ↔
    ∀ label ∈ builder.targets, label ∈ builder.declared
  of_success : ∀ listing, builder.finish = .ok listing →
    listing.emissions = stream ∧
      (∀ received, builder.finishInto.run received =
        (.ok listing.size, received ++ (stream.map .emission ++ [.size listing.size]))) ∧
      builder.declared.Nodup ∧ ∀ label ∈ builder.targets, builder.declared.count label = 1
  of_failure : ∀ cause, builder.finish = .error cause →
    (∀ received, builder.finishInto.run received = (.error cause, received)) ∧
      ∃ labels, cause = .unresolvedLabels labels ∧
        labels.Pairwise (fun earlier later => earlier.index < later.index) ∧
        ∀ label, label ∈ labels ↔ label ∈ builder.targets ∧ label ∉ builder.declared

/-- The table knows all that finishing a routine has to find out. -/
theorem Indexed.resolves {builder : Builder} (indexed : builder.Indexed) :
    builder.Resolves builder.emissions := by
  by_cases resolved : builder.labels.unresolved = []
  · have finished := finish_of_resolved resolved
    have answered := indexed.resolved_iff.mp resolved
    refine ⟨⟨fun _ => answered, fun _ => ⟨_, finished⟩⟩, ?_, ?_⟩
    · intro listing given
      rw [finished] at given
      cases given
      refine ⟨rfl, ?_, indexed.once, ?_⟩
      · intro received
        rw [run_finishInto, finished]
      · intro label member
        exact List.count_eq_one_of_mem indexed.once (answered label member)
    · intro cause failed
      rw [finished] at failed
      cases failed
  · have failed := finish_of_unresolved resolved
    refine ⟨⟨?_, ?_⟩, ?_, ?_⟩
    · rintro ⟨listing, given⟩
      rw [failed] at given
      cases given
    · intro answered
      exact absurd (indexed.resolved_iff.mpr answered) resolved
    · intro listing given
      rw [failed] at given
      cases given
    · intro cause given
      rw [failed] at given
      cases given
      refine ⟨?_, _, rfl, indexed.unique.unresolved_increasing, ?_⟩
      · intro received
        rw [run_finishInto, failed]
      · intro label
        exact indexed.mem_unresolved

/-- Whatever calls are made, successful or not: the routine can be finished exactly if every
label that an emitted jump leads to has been declared. Its listing is then what its steps have
emitted, and so is what is sent, with no label twice and the label of every jump once. Otherwise the labels that are jumped to
and not declared are reported in strictly increasing order, and nothing is sent. -/
theorem finish_resolves (routine : Method) (requests : List Request)
    (unspliced : ∀ request ∈ requests, request.call.isUnspliced = true) :
    ((start routine).run requests).Resolves
      (((start routine).steps requests).flatMap Step.emitted) := by
  have emitted : ((start routine).run requests).emissions =
      ((start routine).steps requests).flatMap Step.emitted :=
    emissions_run (start routine) requests
  rw [← emitted]
  exact (indexed_run unspliced).resolves

/-- Calls that jump to four labels. One is declared as recorded and jumped to again, one by a
given description, and two stay open. A second declaration fails, and so does a jump that brings
another frame. -/
def openJumps : List Request :=
  [.operation (.constInt 0), .jump (.ifZero .eq) none ⟨7⟩, .operation (.constInt 0),
    .jump (.ifZero .ne) none ⟨1⟩, .operation (.constInt 0), .jump (.ifZero .gt) none ⟨2⟩,
    .declare ⟨1⟩ .recorded, .declare ⟨1⟩ .fromEntry, .operation (.constInt 0),
    .jump .goto none ⟨1⟩, .operation .pop, .declare ⟨2⟩ (.described .same),
    .operation (.constInt 0), .jump (.ifZero .lt) (some ⟨1⟩) ⟨3⟩,
    .jump .goto none ⟨1⟩].map (⟨.empty, ·⟩)

theorem finish_resolves_with_open_jumps :
    (∀ request ∈ openJumps, request.call.isUnspliced = true) ∧
      ((start plainRoutine).run openJumps).targets = [⟨7⟩, ⟨1⟩, ⟨2⟩, ⟨3⟩, ⟨1⟩] ∧
      ((start plainRoutine).run openJumps).declared = [⟨1⟩, ⟨2⟩] ∧
      ((start plainRoutine).run openJumps).Resolves
        (((start plainRoutine).steps openJumps).flatMap Step.emitted) :=
  ⟨by decide, by decide, by decide, finish_resolves plainRoutine openJumps (by decide)⟩

end Builder

end TypedBytecode
