import TypedBytecode.Proofs.Joins

/-!
Contract: the shape of the emitted stream, over whole runs.

Owns:
- `Emission.Stream`, the ways in which a stream grows, with whether its end can be reached;
- what stands next to terminal instructions, labels and frames in such a stream;
- the run theorem: at every moment the emissions are such a stream, and there is a current
  frame exactly where its end can be reached.

Descriptions of frames may be handed in. Spliced code is not covered.

Does not own: which labels are declared, or what their frames say.
-/

namespace TypedBytecode

/-! ## Streams -/

namespace Emission

/-- A stream with the newest emission first, and whether its end can be reached. Instructions
only come where it can, and a label always comes with its frame. -/
inductive Stream : Bool → List Emission → Prop where
  | start : Stream true []
  | instruction {emitted : List Emission} (added : Instruction) (reached : Stream true emitted) :
      Stream (!added.isTerminal) (.instruction added :: emitted)
  | label {reachable : Bool} {emitted : List Emission} (position : Label) (delta : FrameDelta)
      (before : Stream reachable emitted) :
      Stream true (.frame delta :: .label position :: emitted)

namespace Stream

variable {reachable : Bool} {emitted newer older : List Emission} {instruction : Instruction}

/-- The end cannot be reached exactly if a terminal instruction stands there. -/
theorem unreachable_iff (stream : Stream reachable emitted) :
    reachable = false ↔
      ∃ instruction, emitted.head? = some (.instruction instruction) ∧
        instruction.isTerminal = true := by
  cases stream with
  | start => simp
  | instruction added reached => simp
  | label position delta before => simp

theorem head_ne_terminal (stream : Stream true (.instruction instruction :: emitted)) :
    instruction.isTerminal = false := by
  cases terminal : instruction.isTerminal with
  | false => rfl
  | true =>
      have unreachable := stream.unreachable_iff.mpr ⟨instruction, rfl, terminal⟩
      cases unreachable

/-- Behind a terminal instruction stands nothing or a label. -/
theorem after_terminal (stream : Stream reachable emitted)
    (split : emitted = newer ++ .instruction instruction :: older)
    (terminal : instruction.isTerminal = true) :
    newer = [] ∨ ∃ later position, newer = later ++ [.label position] := by
  induction stream generalizing newer with
  | start => simp at split
  | instruction added reached inductionHypothesis =>
      rcases newer with _ | ⟨newest, newer⟩
      · exact Or.inl rfl
      · obtain ⟨rfl, rest⟩ := List.cons.inj split
        rcases inductionHypothesis rest with none | ⟨later, position, ends⟩
        · -- The newest instruction would stand right behind the terminal one.
          rw [rest, none] at reached
          rw [reached.head_ne_terminal] at terminal
          cases terminal
        · exact Or.inr ⟨.instruction added :: later, position, by rw [ends, List.cons_append]⟩
  | label position delta before inductionHypothesis =>
      rcases newer with _ | ⟨newest, _ | ⟨second, newer⟩⟩
      · cases split
      · cases split
      · simp only [List.cons_append, List.cons.injEq] at split
        obtain ⟨rfl, rfl, rest⟩ := split
        rcases inductionHypothesis rest with none | ⟨later, other, ends⟩
        · exact Or.inr ⟨[.frame delta], position, by rw [none, List.singleton_append]⟩
        · exact Or.inr ⟨.frame delta :: .label position :: later, other, by
            rw [ends, List.cons_append, List.cons_append]⟩

/-- Behind a label stands a frame. -/
theorem after_label {position : Label} (stream : Stream reachable emitted)
    (split : emitted = newer ++ .label position :: older) :
    ∃ later delta, newer = later ++ [.frame delta] := by
  induction stream generalizing newer with
  | start => simp at split
  | instruction added reached inductionHypothesis =>
      rcases newer with _ | ⟨newest, newer⟩
      · cases split
      · obtain ⟨rfl, rest⟩ := List.cons.inj split
        obtain ⟨later, delta, ends⟩ := inductionHypothesis rest
        exact ⟨.instruction added :: later, delta, by rw [ends, List.cons_append]⟩
  | label declared delta before inductionHypothesis =>
      rcases newer with _ | ⟨newest, _ | ⟨second, newer⟩⟩
      · cases split
      · obtain ⟨rfl, -⟩ := List.cons.inj split
        exact ⟨[], delta, rfl⟩
      · simp only [List.cons_append, List.cons.injEq] at split
        obtain ⟨rfl, rfl, rest⟩ := split
        obtain ⟨later, other, ends⟩ := inductionHypothesis rest
        exact ⟨.frame delta :: .label declared :: later, other, by
          rw [ends, List.cons_append, List.cons_append]⟩

/-- Before a frame stands a label. -/
theorem before_frame {delta : FrameDelta} (stream : Stream reachable emitted)
    (split : emitted = newer ++ .frame delta :: older) :
    ∃ position earlier, older = .label position :: earlier := by
  induction stream generalizing newer with
  | start => simp at split
  | instruction added reached inductionHypothesis =>
      rcases newer with _ | ⟨newest, newer⟩
      · cases split
      · exact inductionHypothesis (List.cons.inj split).2
  | @label _ emitted declared placed before inductionHypothesis =>
      rcases newer with _ | ⟨newest, _ | ⟨second, newer⟩⟩
      · exact ⟨declared, emitted, (List.cons.inj split).2.symm⟩
      · cases split
      · exact inductionHypothesis (List.cons.inj (List.cons.inj split).2).2

/-- Code of which only the last instruction may be terminal goes on from a stream whose end can
be reached. -/
theorem append {code : Code} (stream : Stream true emitted)
    (passesOn : ∀ instruction ∈ code.dropLast, instruction.isTerminal = false) :
    Stream (!code.isTerminal) ((code.map .instruction).reverse ++ emitted) := by
  induction code generalizing emitted with
  | nil => exact stream
  | cons instruction code inductionHypothesis =>
      have first := Stream.instruction instruction stream
      cases code with
      | nil => simpa [Code.isTerminal] using first
      | cons second code =>
          rw [List.dropLast_cons_cons] at passesOn
          have continues : instruction.isTerminal = false :=
            passesOn instruction List.mem_cons_self
          rw [continues, Bool.not_false] at first
          have rest := inductionHypothesis first
            (fun later member => passesOn later (List.mem_cons_of_mem _ member))
          have sameEnd : Code.isTerminal (instruction :: second :: code) =
              Code.isTerminal (second :: code) := by
            simp [Code.isTerminal]
          rw [sameEnd, List.map_cons, List.reverse_cons, List.append_assoc]
          exact rest

end Stream

end Emission

/-! ## Operations -/

theorem Instruction.Pushes.isTerminal_eq_false {instruction : Instruction} {value : ValueType}
    (pushes : instruction.Pushes value) : instruction.isTerminal = false := by
  cases pushes <;> rfl

/-- An operation emits at most one terminal instruction, as its last. -/
theorem Operation.Performs.passesOn {graph : ClassGraph} {routine : Method} {offset : Nat}
    {operation : Operation} {before after : Frame} {code : Code}
    (performed : operation.Performs graph routine offset before after code) :
    ∀ instruction ∈ code.dropLast, instruction.isTerminal = false := by
  cases performed with
  | constant chosen =>
      cases pushes_of_constant? chosen with
      | single pushes => simp
      | converted pushes source target => simpa using pushes.isTerminal_eq_false
  | convert valueKind notBoolean =>
      intro instruction member
      obtain ⟨conversion, -, rfl⟩ := List.mem_map.mp (List.dropLast_subset _ member)
      rfl
  | _ => simp

/-! ## Runs -/

namespace Builder

variable {graph : ClassGraph} {builder next : Builder} {call : Call}

/-- One call keeps the shape of the stream. -/
theorem Makes.stream (made : Makes graph builder call next) (unspliced : call.isUnspliced = true)
    (stream : Emission.Stream builder.current.isSome builder.emitted) :
    Emission.Stream next.current.isSome next.emitted := by
  cases made with
  | @operation _ current frame code reachable performed =>
      rw [reachable] at stream
      have continues : (builder.afterCode current frame code).current.isSome =
          !code.isTerminal := by
        cases terminal : code.isTerminal <;> simp [afterCode, terminal]
      rw [continues]
      exact stream.append performed.passesOn
  | splice => cases unspliced
  | @jump branch _ target current _ frame _ labels reachable =>
      rw [reachable] at stream
      have continues : (builder.afterJump current frame labels
          (branch.instruction target)).current.isSome =
            !(branch.instruction target).isTerminal := by
        cases terminal : (branch.instruction target).isTerminal <;> simp [afterJump, terminal]
      rw [continues]
      exact .instruction _ stream
  | declare unplaced settles => exact .label _ _ stream
  | freshLabel => exact stream

/-- A run keeps the shape of the stream. -/
theorem stream_run {routine : Method} {requests : List Request}
    (unspliced : ∀ request ∈ requests, request.call.isUnspliced = true) :
    Emission.Stream ((start routine).run requests).current.isSome
      ((start routine).run requests).emitted :=
  run_induction (fun builder => Emission.Stream builder.current.isSome builder.emitted) .start
    (fun request member _ _ held made => made.stream (unspliced request member) held)

theorem emitted_of_emissions {front back : List Emission} {emission : Emission}
    (split : builder.emissions = front ++ emission :: back) :
    builder.emitted = back.reverse ++ emission :: front.reverse := by
  have reversed := congrArg List.reverse split
  simpa [emissions] using reversed

/-- What stands side by side in the emissions, and what their end says about the current
frame. -/
structure WellShaped (builder : Builder) : Prop where
  unreached_iff : builder.current = none ↔
    ∃ instruction, builder.emissions.getLast? = some (.instruction instruction) ∧
      instruction.isTerminal = true
  after_terminal : ∀ front instruction back,
    builder.emissions = front ++ .instruction instruction :: back →
      instruction.isTerminal = true → back = [] ∨ ∃ position rest, back = .label position :: rest
  after_label : ∀ front position back, builder.emissions = front ++ .label position :: back →
    ∃ delta rest, back = .frame delta :: rest ∧ ∀ other later, rest ≠ .frame other :: later
  before_frame : ∀ front delta back, builder.emissions = front ++ .frame delta :: back →
    ∃ earlier position, front = earlier ++ [.label position]

theorem wellShaped_of_stream
    (stream : Emission.Stream builder.current.isSome builder.emitted) : builder.WellShaped := by
  have framed : ∀ front delta back, builder.emissions = front ++ .frame delta :: back →
      ∃ earlier position, front = earlier ++ [.label position] := by
    intro front delta back split
    obtain ⟨position, earlier, ends⟩ := stream.before_frame (emitted_of_emissions split)
    refine ⟨earlier.reverse, position, ?_⟩
    rw [← List.reverse_inj, ends, List.reverse_append, List.reverse_reverse]
    rfl
  refine ⟨?_, ?_, ?_, framed⟩
  · have unreached : builder.current = none ↔ builder.current.isSome = false := by simp
    rw [unreached, stream.unreachable_iff, emissions, List.getLast?_reverse]
  · intro front instruction back split terminal
    rcases stream.after_terminal (emitted_of_emissions split) terminal with
      none | ⟨later, position, ends⟩
    · exact Or.inl (List.reverse_eq_nil_iff.mp none)
    · refine Or.inr ⟨position, later.reverse, ?_⟩
      rw [← List.reverse_inj, ends, List.reverse_cons, List.reverse_reverse]
  · intro front position back split
    obtain ⟨later, delta, ends⟩ := stream.after_label (emitted_of_emissions split)
    have follows : back = .frame delta :: later.reverse := by
      rw [← List.reverse_inj, ends, List.reverse_cons, List.reverse_reverse]
    refine ⟨delta, later.reverse, follows, ?_⟩
    intro other rest again
    -- A second frame would have the first one before it, and not a label.
    rw [follows, again] at split
    obtain ⟨earlier, declared, before⟩ :=
      framed (front ++ [.label position, .frame delta]) other rest (by simpa using split)
    have lasts := congrArg List.getLast? before
    simp at lasts

/-- Whatever calls are made, successful or not, at every moment: there is no current frame
exactly if the last emission is a terminal instruction. A terminal instruction is the last
emission or has a label right behind it, every label has one frame right behind it, and every
frame has a label right before it. -/
theorem wellShaped_throughout (routine : Method) (requests : List Request)
    (unspliced : ∀ request ∈ requests, request.call.isUnspliced = true) :
    ∀ moment ∈ (start routine).moments requests, moment.WellShaped := by
  intro moment member
  obtain ⟨asked, later, rfl, rfl⟩ := mem_moments member
  apply wellShaped_of_stream
  apply stream_run
  intro request asks
  exact unspliced request (List.mem_append_left later asks)

/-- Calls that narrow a constant by two conversions, jump over a return, and go on behind a
second jump from a given description. What follows the first return fails, and so does a second
declaration. -/
def jumpOverReturn : List Request :=
  [.operation (.constLong 2), .operation (.convert .byte), .jump (.ifZero .eq) none ⟨0⟩,
    .operation .returnValue, .operation (.constInt 0), .declare ⟨0⟩ .recorded,
    .declare ⟨0⟩ .fromEntry, .operation (.constInt 1), .operation .storeLocal,
    .operation .killLocal, .jump .goto none ⟨1⟩, .declare ⟨2⟩ (.described .same),
    .operation .returnValue, .declare ⟨1⟩ .fromEntry].map (⟨.empty, ·⟩)

theorem wellShaped_over_return :
    (∀ request ∈ jumpOverReturn, request.call.isUnspliced = true) ∧
      ((start plainRoutine).run jumpOverReturn).emissions =
        [.instruction (.intConst 2), .instruction (.convert .intToLong),
          .instruction (.convert .longToInt), .instruction (.convert .intToByte),
          .instruction (.ifZero .eq ⟨0⟩), .instruction .returnVoid, .label ⟨0⟩, .frame .same,
          .instruction (.intConst 1), .instruction (.store .int 0), .instruction (.goto ⟨1⟩),
          .label ⟨2⟩, .frame .same, .instruction .returnVoid, .label ⟨1⟩, .frame .same] ∧
      ∀ moment ∈ (start plainRoutine).moments jumpOverReturn, moment.WellShaped :=
  ⟨by decide, by decide, wellShaped_throughout plainRoutine jumpOverReturn (by decide)⟩

end Builder

end TypedBytecode
