import TypedBytecode.Proofs.Balance
import TypedBytecode.Proofs.Resolution

/-!
Contract: the space that a routine is said to need, over whole runs.

Owns:
- the depth of the stack, in slots, as it is replayed from what is emitted;
- `Builder.Accounted`: the replayed depth is the width of the tracked stack, and the size of the
  stack is the greatest depth;
- the run theorem: the sizes are the deepest stack and the most locals that a run comes by.

Descriptions of frames may be handed in, also with `top` on the stack. Spliced code is not
covered.

Does not own: the slots that single operations take and give.
-/

namespace TypedBytecode

/-! ## The replay -/

namespace Emission

/-- Depth of the stack behind an emission. A label sets it anew. -/
def depthAfter (widthAt : Label → Nat) (depth : Int) : Emission → Int
  | .label position => widthAt position
  | .frame _ => depth
  | .instruction emitted => depth + emitted.stackEffect

/-- Only the widths at the labels of a stream matter to its replay. -/
theorem depths_congr {first second : Label → Nat} {stream : List Emission} {depth : Int}
    (same : ∀ label ∈ stream.filterMap declared?, first label = second label) :
    stream.scanl (depthAfter first) depth = stream.scanl (depthAfter second) depth := by
  induction stream generalizing depth with
  | nil => simp
  | cons emission stream inductionHypothesis =>
      have later : ∀ label ∈ stream.filterMap declared?, first label = second label := by
        intro label member
        obtain ⟨emission, inStream, named⟩ := List.mem_filterMap.mp member
        exact same label (List.mem_filterMap.mpr ⟨emission, List.mem_cons_of_mem _ inStream, named⟩)
      have once : depthAfter first depth emission = depthAfter second depth emission := by
        cases emission with
        | label position => exact congrArg Int.ofNat (same position (by simp [declared?]))
        | frame | instruction => rfl
      rw [List.scanl_cons, List.scanl_cons, once, inductionHypothesis later]

theorem depths_of_code {widthAt : Label → Nat} {code : Code} {depth : Int} :
    (code.map Emission.instruction).scanl (depthAfter widthAt) depth = code.depthsFrom depth := by
  rw [List.scanl_map]
  rfl

theorem depth_of_code {widthAt : Label → Nat} {code : Code} {depth : Int} :
    (code.map Emission.instruction).foldl (depthAfter widthAt) depth = depth + code.growth := by
  rw [List.foldl_map]
  exact Code.foldl_growth depth code

end Emission

namespace Builder

/-- Width of the stack that a label was given where it was placed. -/
def labelWidth (builder : Builder) (label : Label) : Nat :=
  match builder.labels.placed? label with
  | some settled => settled.snapshot.frame.stackWidth
  | none => 0

/-- Depths of the stack at the beginning and behind each emission. -/
def depths (builder : Builder) : List Int :=
  builder.emissions.scanl (Emission.depthAfter builder.labelWidth) 0

/-- Depth of the stack behind the last emission. -/
def depth (builder : Builder) : Int :=
  builder.emissions.foldl (Emission.depthAfter builder.labelWidth) 0

theorem depth_mem_depths (builder : Builder) : builder.depth ∈ builder.depths :=
  List.mem_of_getLast? List.getLast?_scanl

section LabelWidth

variable {builder : Builder} {label other target : Label} {settled brought : LabelFrame}
  {current : Snapshot} {frame : Frame} {labels : LabelFrames} {instruction : Instruction}
  {backward : Bool}

theorem labelWidth_afterLabel_same :
    (builder.afterLabel label settled).labelWidth label = settled.snapshot.frame.stackWidth := by
  have placed : (builder.afterLabel label settled).labels.placed? label = some settled :=
    LabelFrames.placed?_eq_some.mpr LabelFrames.find?_set_same
  rw [labelWidth, placed]

theorem labelWidth_afterLabel_other (different : other ≠ label) :
    (builder.afterLabel label settled).labelWidth other = builder.labelWidth other := by
  have kept : (builder.afterLabel label settled).labels.placed? other =
      builder.labels.placed? other := by
    simp only [afterLabel, LabelFrames.placed?, LabelFrames.find?_set_other different]
  rw [labelWidth, labelWidth, kept]

/-- A jump places no label. -/
theorem labelWidth_afterJump
    (recorded : builder.labels.recordJump target brought backward = .ok labels) :
    (builder.afterJump current frame labels instruction).labelWidth label =
      builder.labelWidth label := by
  have kept : (builder.afterJump current frame labels instruction).labels.placed? label =
      builder.labels.placed? label := by
    rcases LabelFrames.recordJump_eq_ok.mp recorded with ⟨unknown, rfl⟩ | ⟨_, -, -, rfl⟩
    · by_cases same : label = target
      · subst same
        simp only [afterJump, LabelFrames.placed?, LabelFrames.find?_set_same, unknown]
      · simp only [afterJump, LabelFrames.placed?, LabelFrames.find?_set_other same]
    · rfl
  rw [labelWidth, labelWidth, kept]

end LabelWidth

/-- What has been emitted is only added to, and its labels keep their widths. -/
structure Continues (builder next : Builder) : Prop where
  grows : builder.emissions <+: next.emissions
  widths : ∀ label ∈ builder.declared, next.labelWidth label = builder.labelWidth label

namespace Continues

variable {builder next last : Builder} {added : List Emission}

theorem refl : builder.Continues builder :=
  ⟨List.prefix_rfl, fun _ _ => rfl⟩

theorem declared_subset (continues : builder.Continues next) {label : Label}
    (member : label ∈ builder.declared) : label ∈ next.declared :=
  (continues.grows.filterMap Emission.declared?).subset member

theorem trans (first : builder.Continues next) (second : next.Continues last) :
    builder.Continues last where
  grows := first.grows.trans second.grows
  widths := by
    intro label member
    rw [second.widths label (first.declared_subset member), first.widths label member]

/-- The earlier part of the replay stays as it was. -/
theorem depths_replayed (continues : builder.Continues next) :
    builder.emissions.scanl (Emission.depthAfter next.labelWidth) 0 = builder.depths :=
  Emission.depths_congr continues.widths

theorem depth_replayed (continues : builder.Continues next) :
    builder.emissions.foldl (Emission.depthAfter next.labelWidth) 0 = builder.depth := by
  have ends := congrArg List.getLast? continues.depths_replayed
  rw [depths, List.getLast?_scanl, List.getLast?_scanl] at ends
  exact Option.some.inj ends

theorem depth_eq (continues : builder.Continues next)
    (grown : next.emissions = builder.emissions ++ added) :
    next.depth = added.foldl (Emission.depthAfter next.labelWidth) builder.depth := by
  rw [depth, grown, List.foldl_append, continues.depth_replayed]

theorem mem_depths (continues : builder.Continues next)
    (grown : next.emissions = builder.emissions ++ added) {reached : Int} :
    reached ∈ next.depths ↔ reached ∈ builder.depths ∨
      reached ∈ added.scanl (Emission.depthAfter next.labelWidth) builder.depth := by
  rw [depths, grown, mem_scanl_append, continues.depths_replayed, continues.depth_replayed]

theorem replay_begins (continues : builder.Continues next) : builder.depths <+: next.depths := by
  obtain ⟨added, grown⟩ := continues.grows
  rw [← continues.depths_replayed, depths, ← grown, List.scanl_append]
  exact List.prefix_append _ _

end Continues

/-- A call that succeeds continues what has been emitted. -/
theorem Makes.continues {graph : ClassGraph} {builder next : Builder} {call : Call}
    (indexed : builder.Indexed) (made : Makes graph builder call next) :
    builder.Continues next := by
  cases made with
  | operation | splice => exact ⟨⟨_, emissions_afterCode.symm⟩, fun _ _ => rfl⟩
  | jump reachable met taken based recorded =>
      exact ⟨⟨_, emissions_afterJump.symm⟩, fun _ _ => labelWidth_afterJump recorded⟩
  | @declare label framing settled unplaced settles =>
      refine ⟨⟨_, emissions_afterLabel.symm⟩, ?_⟩
      intro other member
      apply labelWidth_afterLabel_other
      rintro rfl
      exact indexed.not_declared unplaced member
  | freshLabel => exact ⟨List.prefix_rfl, fun _ _ => rfl⟩

/-! ## The deepest stack -/

/-- The replay ends at the width of the tracked stack. It never goes below zero, and the size of
the stack is the greatest depth in it. -/
structure Accounted (builder : Builder) : Prop where
  tracked : ∀ current, builder.current = some current →
    builder.depth = current.frame.stackWidth
  covered : ∀ depth ∈ builder.depths, 0 ≤ depth
  reached : (builder.maxStack : Int) ∈ builder.depths
  bounded : ∀ depth ∈ builder.depths, depth ≤ builder.maxStack

theorem accounted_start (routine : Method) : (start routine).Accounted where
  tracked := by
    rintro _ ⟨⟩
    rfl
  covered := by simp [depths, emissions, start]
  reached := by simp [depths, emissions, start]
  bounded := by simp [depths, emissions, start]

namespace Accounted

variable {graph : ClassGraph} {builder next : Builder} {current : Snapshot}

/-- The account is kept if the greatest of the depths that are added to the replay is counted. -/
theorem extend {passed : Int → Prop} {peak : Int} (accounted : builder.Accounted)
    (tracked : ∀ current, next.current = some current → next.depth = current.frame.stackWidth)
    (passes : ∀ depth, depth ∈ next.depths ↔ depth ∈ builder.depths ∨ passed depth)
    (covered : ∀ depth, passed depth → 0 ≤ depth) (reached : passed peak)
    (bounded : ∀ depth, passed depth → depth ≤ peak)
    (counted : (next.maxStack : Int) = max (builder.maxStack : Int) peak) : next.Accounted := by
  refine ⟨tracked, ?_, ?_, ?_⟩
  · intro depth member
    rcases (passes depth).mp member with before | added
    · exact accounted.covered depth before
    · exact covered depth added
  · rw [passes, counted]
    rcases Int.le_total peak builder.maxStack with low | high
    · rw [Int.max_eq_left low]
      exact Or.inl accounted.reached
    · rw [Int.max_eq_right high]
      exact Or.inr reached
  · intro depth member
    rw [counted]
    rcases (passes depth).mp member with before | added
    · exact Int.le_trans (accounted.bounded depth before) (Int.le_max_left _ _)
    · exact Int.le_trans (bounded depth added) (Int.le_max_right _ _)

/-- Code keeps the account if its peak is counted. -/
theorem code {frame : Frame} {code : Code} (accounted : builder.Accounted)
    (continues : builder.Continues next) (reachable : builder.current = some current)
    (fills : code.Fills current.frame.stackWidth frame.stackWidth)
    (grown : next.emissions = builder.emissions ++ code.map .instruction)
    (counted : (next.maxStack : Int) =
      max (builder.maxStack : Int) (current.frame.stackWidth + code.maxGrowth))
    (leaves : ∀ snapshot, next.current = some snapshot → snapshot.frame = frame) :
    next.Accounted := by
  have starts := accounted.tracked current reachable
  have tracked : ∀ snapshot, next.current = some snapshot →
      next.depth = snapshot.frame.stackWidth := by
    intro snapshot continued
    rw [continues.depth_eq grown, Emission.depth_of_code, starts, leaves snapshot continued,
      fills.balanced]
  have passes : ∀ depth, depth ∈ next.depths ↔
      depth ∈ builder.depths ∨ depth ∈ code.depthsFrom current.frame.stackWidth := by
    intro depth
    rw [continues.mem_depths grown, Emission.depths_of_code, starts]
  exact accounted.extend tracked passes fills.covered (Code.peak_mem_depthsFrom _ code)
    (fun _ => Code.le_peak_of_mem_depthsFrom) counted

/-- A label keeps the account, whatever frame it is given. -/
theorem label {label : Label} {settled : LabelFrame} (accounted : builder.Accounted)
    (continues : builder.Continues (builder.afterLabel label settled)) :
    (builder.afterLabel label settled).Accounted := by
  have width : (builder.afterLabel label settled).labelWidth label =
      settled.snapshot.frame.stackWidth := labelWidth_afterLabel_same
  have tracked : ∀ current, (builder.afterLabel label settled).current = some current →
      (builder.afterLabel label settled).depth = current.frame.stackWidth := by
    rintro _ ⟨⟩
    rw [continues.depth_eq emissions_afterLabel]
    simp only [List.foldl_cons, List.foldl_nil, Emission.depthAfter, width]
  have passes : ∀ depth, depth ∈ (builder.afterLabel label settled).depths ↔
      depth ∈ builder.depths ∨ depth = settled.snapshot.frame.stackWidth := by
    intro depth
    have before := builder.depth_mem_depths
    rw [continues.mem_depths emissions_afterLabel]
    simp only [List.scanl_cons, List.scanl_nil, Emission.depthAfter, width, List.mem_cons,
      List.not_mem_nil, or_false, or_self]
    constructor
    · rintro (earlier | rfl | now)
      · exact Or.inl earlier
      · exact Or.inl before
      · exact Or.inr now
    · rintro (earlier | now)
      · exact Or.inl earlier
      · exact Or.inr (Or.inr now)
  apply accounted.extend tracked passes
  · omega
  · rfl
  · omega
  · simp only [afterLabel]
    omega

/-- One call keeps the account. Only a jump does not count its peak, which is where it starts. -/
theorem makes {call : Call} (accounted : builder.Accounted) (indexed : builder.Indexed)
    (unspliced : call.isUnspliced = true) (made : Makes graph builder call next) :
    next.Accounted := by
  have continues := made.continues indexed
  cases made with
  | @operation operation current frame code reachable performed =>
      apply accounted.code continues reachable performed.fills emissions_afterCode
      · have growth := code.maxGrowth_nonneg
        simp only [afterCode]
        omega
      · intro snapshot continued
        simp only [afterCode] at continued
        split at continued <;> cases continued
        rfl
  | splice => cases unspliced
  | @jump branch source target current base frame operands labels reachable met taken based
      recorded =>
      have fills : Code.Fills [branch.instruction target] current.frame.stackWidth
          frame.stackWidth := by
        rw [taken]
        exact Branch.fills met
      apply accounted.code continues reachable fills emissions_afterJump
      · have starts := accounted.bounded _ builder.depth_mem_depths
        rw [accounted.tracked current reachable] at starts
        simp only [afterJump, Code.maxGrowth, Branch.stackEffect_instruction]
        omega
      · intro snapshot continued
        simp only [afterJump] at continued
        split at continued <;> cases continued
        rfl
  | declare => exact accounted.label continues
  | freshLabel => exact ⟨accounted.tracked, accounted.covered, accounted.reached, accounted.bounded⟩

end Accounted

/-- A run keeps the account. -/
theorem accounted_run {routine : Method} {requests : List Request}
    (unspliced : ∀ request ∈ requests, request.call.isUnspliced = true) :
    ((start routine).run requests).Accounted := by
  have held : ((start routine).run requests).Indexed ∧
      ((start routine).run requests).Accounted := by
    apply run_induction (fun builder => builder.Indexed ∧ builder.Accounted)
    · exact ⟨indexed_start routine, accounted_start routine⟩
    · rintro request member before after ⟨indexed, accounted⟩ made
      have itself := unspliced request member
      exact ⟨indexed.makes itself made, accounted.makes indexed itself made⟩
  exact held.2

/-- A run continues what was emitted before it. -/
theorem continues_run {builder : Builder} {requests : List Request} (indexed : builder.Indexed)
    (unspliced : ∀ request ∈ requests, request.call.isUnspliced = true) :
    builder.Continues (builder.run requests) := by
  have held : (builder.run requests).Indexed ∧ builder.Continues (builder.run requests) := by
    apply run_induction (fun reached => reached.Indexed ∧ builder.Continues reached)
    · exact ⟨indexed, .refl⟩
    · rintro request member before after ⟨indexed, continues⟩ made
      exact ⟨indexed.makes (unspliced request member) made,
        continues.trans (made.continues indexed)⟩
  exact held.2

/-! ## The most locals -/

/-- Number of the local slots that are tracked. -/
def localCount? (builder : Builder) : Option Nat :=
  builder.current.map (fun current => current.frame.locals.length)

/-- The locals that are tracked fit in the size. -/
def HasRoom (builder : Builder) : Prop :=
  builder.localCount?.getD 0 ≤ builder.maxLocals

section Locals

variable {builder next : Builder} {request : Request} {requests : List Request}

theorem HasRoom.locals_le (hasRoom : builder.HasRoom) {current : Snapshot}
    (reachable : builder.current = some current) :
    current.frame.locals.length ≤ builder.maxLocals := by
  simpa [HasRoom, localCount?, reachable] using hasRoom

/-- A call makes just the room that the frame behind it needs. -/
theorem Makes.maxLocals {graph : ClassGraph} {call : Call} (hasRoom : builder.HasRoom)
    (unspliced : call.isUnspliced = true) (made : Makes graph builder call next) :
    next.maxLocals = max builder.maxLocals (next.localCount?.getD 0) := by
  cases made with
  | @operation operation current frame code reachable performed =>
      have fits := hasRoom.locals_le reachable
      cases terminal : code.isTerminal with
      | true =>
          -- The frame behind is given up, and has no locals that the one before had not.
          have same := performed.locals_of_isTerminal terminal
          simp only [afterCode, localCount?, terminal, same, ↓reduceIte, Option.map_none,
            Option.getD_none]
          omega
      | false => simp [afterCode, localCount?, terminal]
  | splice => cases unspliced
  | @jump branch source target current base frame operands labels reachable met taken based
      recorded =>
      have fits : frame.locals.length ≤ builder.maxLocals := by
        simpa [taken] using hasRoom.locals_le reachable
      simp only [afterJump, localCount?]
      split
      · simp
      · simp only [Option.map_some, Option.getD_some]
        omega
  | declare => rfl
  | freshLabel => exact (Nat.max_eq_left hasRoom).symm

theorem maxLocals_attempt (hasRoom : builder.HasRoom)
    (unspliced : request.call.isUnspliced = true) :
    (builder.attempt request).maxLocals =
      max builder.maxLocals ((builder.attempt request).localCount?.getD 0) := by
  cases called : builder.call request.graph request.call with
  | ok next =>
      rw [attempt_of_ok called]
      exact (makes_of_call called).maxLocals hasRoom unspliced
  | error cause =>
      rw [attempt_of_error called]
      exact (Nat.max_eq_left hasRoom).symm

theorem HasRoom.attempt (hasRoom : builder.HasRoom)
    (unspliced : request.call.isUnspliced = true) : (builder.attempt request).HasRoom := by
  have made := maxLocals_attempt hasRoom unspliced
  unfold HasRoom
  omega

/-- Room is never given back, -/
theorem maxLocals_le_run (hasRoom : builder.HasRoom)
    (unspliced : ∀ request ∈ requests, request.call.isUnspliced = true) :
    builder.maxLocals ≤ (builder.run requests).maxLocals := by
  induction requests generalizing builder with
  | nil => exact Nat.le_refl _
  | cons request requests inductionHypothesis =>
      obtain ⟨itself, others⟩ := List.forall_mem_cons.mp unspliced
      have made := maxLocals_attempt hasRoom itself
      have later := inductionHypothesis (hasRoom.attempt itself) others
      rw [run_cons]
      omega

/-- there is enough of it at every moment, -/
theorem localCount?_le_run (hasRoom : builder.HasRoom)
    (unspliced : ∀ request ∈ requests, request.call.isUnspliced = true) :
    ∀ moment ∈ builder.moments requests,
      moment.localCount?.getD 0 ≤ (builder.run requests).maxLocals := by
  induction requests generalizing builder with
  | nil =>
      intro moment member
      rw [moments, List.scanl_nil, List.mem_singleton] at member
      rw [member]
      exact hasRoom
  | cons request requests inductionHypothesis =>
      obtain ⟨itself, others⟩ := List.forall_mem_cons.mp unspliced
      intro moment member
      rw [moments_cons] at member
      rcases List.mem_cons.mp member with rfl | later
      · exact Nat.le_trans hasRoom (maxLocals_le_run hasRoom unspliced)
      · exact inductionHypothesis (hasRoom.attempt itself) others moment later

/-- and all that was added to it is used at some moment. -/
theorem maxLocals_run_reached (hasRoom : builder.HasRoom)
    (unspliced : ∀ request ∈ requests, request.call.isUnspliced = true) :
    (builder.run requests).maxLocals = builder.maxLocals ∨
      ∃ moment ∈ builder.moments requests,
        moment.localCount? = some (builder.run requests).maxLocals := by
  induction requests generalizing builder with
  | nil => exact Or.inl rfl
  | cons request requests inductionHypothesis =>
      obtain ⟨itself, others⟩ := List.forall_mem_cons.mp unspliced
      have made := maxLocals_attempt hasRoom itself
      rw [run_cons, moments_cons]
      rcases inductionHypothesis (hasRoom.attempt itself) others with same | ⟨moment, member, used⟩
      · rw [same]
        cases count : (builder.attempt request).localCount? with
        | none =>
            rw [count, Option.getD_none] at made
            exact Or.inl (by omega)
        | some used =>
            rw [count, Option.getD_some] at made
            rcases Nat.le_total used builder.maxLocals with few | more
            · exact Or.inl (by omega)
            · have reached : used = (builder.attempt request).maxLocals := by omega
              rw [← reached]
              exact Or.inr ⟨_, List.mem_cons_of_mem _ start_mem_moments, count⟩
      · exact Or.inr ⟨moment, List.mem_cons_of_mem _ member, used⟩

/-- The most locals of a run that starts with an entry frame. -/
theorem maxLocals_run {routine : Method}
    (unspliced : ∀ request ∈ requests, request.call.isUnspliced = true) :
    (((start routine).moments requests).filterMap localCount?).max? =
      some ((start routine).run requests).maxLocals := by
  have hasRoom : (start routine).HasRoom := Nat.le_refl _
  rw [List.max?_eq_some_iff]
  constructor
  · rw [List.mem_filterMap]
    rcases maxLocals_run_reached hasRoom unspliced with same | reached
    · rw [same]
      exact ⟨start routine, start_mem_moments, rfl⟩
    · exact reached
  · intro count member
    obtain ⟨moment, inRun, counted⟩ := List.mem_filterMap.mp member
    have enough := localCount?_le_run hasRoom unspliced moment inRun
    rwa [counted, Option.getD_some] at enough

end Locals

/-! ## Sizes over a run -/

/-- The sizes that a run comes to, by what it emits and tracks. -/
structure ExactSizes (builder : Builder) (requests : List Request) : Prop where
  /-- Wherever there is a current frame, the replay is at the width of its stack. -/
  tracked : ∀ moment ∈ builder.moments requests, ∀ current, moment.current = some current →
    moment.depth = current.frame.stackWidth
  /-- The replay at a moment is the beginning of that of the run, -/
  replayed : ∀ moment ∈ builder.moments requests,
    moment.depths <+: (builder.run requests).depths
  /-- in which a label has the width of the stack that the builder goes on with. -/
  resets : ∀ step ∈ builder.steps requests, ∀ label, .label label ∈ step.emitted →
    ∃ current, step.after.current = some current ∧
      (builder.run requests).labelWidth label = current.frame.stackWidth
  covered : ∀ depth ∈ (builder.run requests).depths, 0 ≤ depth
  deepest : (builder.run requests).depths.max? = some ((builder.run requests).maxStack : Int)
  mostLocals : ((builder.moments requests).filterMap localCount?).max? =
    some (builder.run requests).maxLocals
  /-- These are the sizes that a finished routine has. -/
  reported : ∀ listing, (builder.run requests).finish = .ok listing →
    listing.size = ⟨(builder.run requests).maxStack, (builder.run requests).maxLocals⟩

/-- The builder goes on with the frame that the label of a step is given. -/
theorem labelWidth_of_emitted {step : Step} {label : Label}
    (made : Makes step.request.graph step.before step.request.call step.after)
    (emitted : .label label ∈ step.emitted) :
    ∃ current, step.after.current = some current ∧ label ∈ step.after.declared ∧
      step.after.labelWidth label = current.frame.stackWidth := by
  obtain ⟨framing, settled, -, -, reached⟩ := step.declares_of_emits made emitted
  rw [reached]
  exact ⟨settled.snapshot, rfl, by simp, labelWidth_afterLabel_same⟩

theorem size_of_finish {builder : Builder} {listing : Listing}
    (finished : builder.finish = .ok listing) :
    listing.size = ⟨builder.maxStack, builder.maxLocals⟩ := by
  unfold finish at finished
  split at finished <;> cases finished
  rfl

theorem emissions_of_finish {builder : Builder} {listing : Listing}
    (finished : builder.finish = .ok listing) : listing.emissions = builder.emissions := by
  unfold finish at finished
  split at finished <;> cases finished
  rfl

/-- Whatever calls are made, successful or not: replaying the emissions gives the width of the
tracked stack wherever there is one, and never less than nothing. A finished routine has the
greatest depth of the replay as the size of its stack, and the most locals that were ever
tracked as the size of its locals. -/
theorem sizes_exact (routine : Method) (requests : List Request)
    (unspliced : ∀ request ∈ requests, request.call.isUnspliced = true) :
    (start routine).ExactSizes requests where
  tracked := by
    intro moment member
    obtain ⟨front, back, rfl, rfl⟩ := mem_moments member
    have before := (List.forall_mem_append.mp unspliced).1
    exact (accounted_run before).tracked
  replayed := by
    intro moment member
    obtain ⟨front, back, rfl, rfl⟩ := mem_moments member
    obtain ⟨before, behind⟩ := List.forall_mem_append.mp unspliced
    rw [run_append]
    exact (continues_run (indexed_run before) behind).replay_begins
  resets := by
    intro step member label emitted
    obtain ⟨front, back, rfl, reached, succeeds⟩ := mem_steps member
    obtain ⟨before, behind⟩ := List.forall_mem_append.mp unspliced
    obtain ⟨itself, behind⟩ := List.forall_mem_cons.mp behind
    have made := makes_of_call succeeds
    obtain ⟨current, goesOn, declared, width⟩ := labelWidth_of_emitted made emitted
    have indexed : step.before.Indexed := by
      rw [reached]
      exact indexed_run before
    have continues := continues_run (indexed.makes itself made) behind
    refine ⟨current, goesOn, ?_⟩
    rw [run_after_step succeeds reached, continues.widths label declared, width]
  covered := (accounted_run unspliced).covered
  deepest := by
    rw [List.max?_eq_some_iff]
    exact ⟨(accounted_run unspliced).reached, (accounted_run unspliced).bounded⟩
  mostLocals := maxLocals_run unspliced
  reported := fun _ => size_of_finish

/-- Calls with wide values on the stack and in a local. A jump leaves a `long` at its label, and
a call that lacks an operand fails. The stack is deepest at a label that no code comes to, where
it is described. -/
def wideSteps : List Request :=
  [.operation (.constLong 7), .operation (.constLong 1), .operation .storeLocal,
    .operation (.constInt 0), .jump (.ifZero .eq) none ⟨0⟩, .operation .dup,
    .operation (.arithmetic .add), .operation (.arithmetic .add), .operation .killLocal,
    .operation .returnValue, .declare ⟨0⟩ .recorded, .operation .returnValue,
    .declare ⟨1⟩ (.described (.full [.double, .float] [.int .int, .long, .long])),
    .operation .pop, .operation (.arithmetic .add), .operation .returnValue].map (⟨.empty, ·⟩)

theorem sizes_exact_when_wide :
    (∀ request ∈ wideSteps, request.call.isUnspliced = true) ∧
      ((start plainRoutine).run wideSteps).depths =
        [0, 1, 2, 4, 2, 3, 2, 4, 2, 2, 2, 2, 2, 5, 5, 4, 2, 2] ∧
      ((start plainRoutine).moments wideSteps).map localCount? =
        [some 0, some 0, some 0, some 2, some 2, some 2, some 2, some 2, some 2, some 0, none,
          some 2, none, some 3, some 3, some 3, none] ∧
      (start plainRoutine).ExactSizes wideSteps :=
  ⟨by decide, by decide, by decide, sizes_exact plainRoutine wideSteps (by decide)⟩

end Builder

end TypedBytecode
