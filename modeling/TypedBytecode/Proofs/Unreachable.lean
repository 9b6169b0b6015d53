import TypedBytecode.Proofs.InPlace
import TypedBytecode.Proofs.Parameters

/-!
Contract: which cause a call fails with where the code cannot be reached.

Owns:
- `Operation.Refused`: the causes that are found before the frame is looked at, each with the
  arguments that bring it about;
- the agreement with plans: an operation has no plan for just these causes;
- the run theorem: in code that cannot be reached, every call but those about labels fails and
  changes nothing, with unreachable code as the cause unless the call is refused anyway.

Does not own: causes that a frame brings about.
-/

namespace TypedBytecode

/-- The causes for which an operation is refused whether or not it can be reached. They depend on
the routine, on the class graph and on the arguments of the operation. -/
inductive Operation.Refused (graph : ClassGraph) (routine : Method) : Operation → Error → Prop where
  | noReceiver (static : routine.isStatic = true) :
      Refused graph routine .loadThis (.invalidLocal "load_this" 0 .noReceiver)
  | noParameter {index : UInt64} (beyond : routine.type.parameters.length ≤ index.toNat) :
      Refused graph routine (.loadParameter index)
        (.invalidLocal "load_parameter" index.toNat
          (.noSuchParameter routine.type.parameters.length))
  | noFieldToGet {name : String}
      (missing : ∀ entry ∈ graph.superChain routine.owner, ∀ field ∈ entry.fields,
        field.name.text ≠ name) :
      Refused graph routine (.getOwnField name) (.missingMember (.field routine.owner name))
  | noFieldToPut {name : String}
      (missing : ∀ entry ∈ graph.superChain routine.owner, ∀ field ∈ entry.fields,
        field.name.text ≠ name) :
      Refused graph routine (.putOwnField name) (.missingMember (.field routine.owner name))
  | tooWide {method : Method} (overridable : method.isOverridable = true)
      (interface : graph.isInterface method.owner = true)
      (wide : 255 < method.type.argumentWidth true) :
      Refused graph routine (.invoke method)
        (.tooManyArguments method (method.type.argumentWidth true))
  | notFunctional {method : Method} {interface : ClassName}
      (missing : graph.functionalMethod? interface = none) :
      Refused graph routine (.lambda method interface)
        (.missingMember (.functionalMethod interface))
  | tooFewParameters {method functional : Method} {interface : ClassName}
      (found : graph.functionalMethod? interface = some functional)
      (few : method.type.parameters.length + (if method.isStatic then 0 else 1) <
        functional.type.parameters.length) :
      Refused graph routine (.lambda method interface)
        (.typeMismatch "lambda" (.parameterCount functional.type.parameters.length)
          (.method method))
  | notFunctionalForField {field : Field} {interface : ClassName}
      (missing : graph.functionalMethod? interface = none) :
      Refused graph routine (.lambdaField field interface)
        (.missingMember (.functionalMethod interface))
  | notAccessor {field : Field} {functional : Method} {interface : ClassName}
      (found : graph.functionalMethod? interface = some functional)
      (many : 1 < functional.type.parameters.length) :
      Refused graph routine (.lambdaField field interface)
        (.typeMismatch "lambda_field" .accessor (.functional functional))
  | indexOverflow {operation : Operation} {index : UInt64}
      (given : operation.relativeIndex? = some index)
      (exceeds : UInt64.size ≤ routine.type.argumentWidth (!routine.isStatic) + index.toNat) :
      Refused graph routine operation .overflow

/-- Calls whose name a failure in unreachable code gives. Declarations and fresh labels have
none. -/
def Call.trackedName? : Call → Option String
  | .operation asked => some asked.name
  | .splice _ => some "manual"
  | .jump branch _ _ => some branch.name
  | .declare _ _ => none
  | .freshLabel => none

/-- Only operations are refused before the frame is looked at. -/
inductive Call.Refused (graph : ClassGraph) (routine : Method) : Call → Error → Prop where
  | operation {operation : Operation} {cause : Error}
      (refused : operation.Refused graph routine cause) :
      Refused graph routine (.operation operation) cause

/-! ## Plans -/

theorem bind_eq_error {ε α β : Type} {first : Except ε α} {next : α → Except ε β} {cause : ε} :
    (first >>= next) = .error cause ↔
      first = .error cause ∨ ∃ value, first = .ok value ∧ next value = .error cause := by
  cases first with
  | error found => simp [bind, Except.bind]
  | ok value => simp [bind, Except.bind]

theorem bind_ok_eq_error {ε α β : Type} {first : Except ε α} {next : α → β} {cause : ε} :
    (first >>= fun value => .ok (next value)) = .error cause ↔ first = .error cause := by
  simp [bind_eq_error]

namespace Operation

section Refused

variable {graph : ClassGraph} {routine : Method} {offset : Nat} {operation : Operation}
  {cause : Error}

theorem ownField_eq_error {name : String} :
    ownField graph routine name = .error cause ↔
      (∀ entry ∈ graph.superChain routine.owner, ∀ field ∈ entry.fields,
        field.name.text ≠ name) ∧ cause = .missingMember (.field routine.owner name) := by
  have missing : graph.findField? routine.owner name = none ↔
      ∀ entry ∈ graph.superChain routine.owner, ∀ field ∈ entry.fields,
        field.name.text ≠ name := by
    simp [ClassGraph.findField?]
  rw [← missing]
  unfold ownField
  cases found : graph.findField? routine.owner name with
  | some field => simp
  | none => simpa using eq_comm

theorem invokeKind_eq_error {method : Method} :
    graph.invokeKind method = .error cause ↔
      (method.isOverridable = true ∧ graph.isInterface method.owner = true ∧
        255 < method.type.argumentWidth true) ∧
      cause = .tooManyArguments method (method.type.argumentWidth true) := by
  unfold ClassGraph.invokeKind
  cases static : method.isStatic with
  | true => simp [Method.isOverridable, static]
  | false =>
      cases overridable : method.isOverridable with
      | false => simp
      | true =>
          cases interface : graph.isInterface method.owner with
          | false => simp
          | true =>
              by_cases fits : method.type.argumentWidth true < 256
              · have narrow : ¬ 255 < method.type.argumentWidth true := by omega
                simp [fits, narrow]
              · have wide : 255 < method.type.argumentWidth true := by omega
                simpa [fits, wide] using eq_comm

theorem lambda_eq_error {name : String} {method : Method} {interface : ClassName} :
    Effect.lambda graph name method interface = .error cause ↔
      (graph.functionalMethod? interface = none ∧
        cause = .missingMember (.functionalMethod interface)) ∨
      ∃ functional, graph.functionalMethod? interface = some functional ∧
        method.type.parameters.length + (if method.isStatic then 0 else 1) <
          functional.type.parameters.length ∧
        cause = .typeMismatch name (.parameterCount functional.type.parameters.length)
          (.method method) := by
  rw [Effect.lambda, bind_eq_error, Effect.functionalMethod]
  cases found : graph.functionalMethod? interface with
  | none => simpa using eq_comm
  | some functional =>
      by_cases few : method.type.parameters.length + (if method.isStatic then 0 else 1) <
          functional.type.parameters.length
      · simpa [few] using eq_comm
      · simp [few]

theorem lambdaField_eq_error {name : String} {field : Field} {interface : ClassName} :
    Effect.lambdaField graph name field interface = .error cause ↔
      (graph.functionalMethod? interface = none ∧
        cause = .missingMember (.functionalMethod interface)) ∨
      ∃ functional, graph.functionalMethod? interface = some functional ∧
        1 < functional.type.parameters.length ∧
        cause = .typeMismatch name .accessor (.functional functional) := by
  rw [Effect.lambdaField, bind_eq_error, Effect.functionalMethod]
  cases found : graph.functionalMethod? interface with
  | none => simpa using eq_comm
  | some functional =>
      rcases count : functional.type.parameters.length with _ | _ | more
      · cases static : field.isStatic <;> simp [Effect.fieldHandleKind?, count, static]
      · cases static : field.isStatic <;> simp [Effect.fieldHandleKind?, count, static]
      · simpa [Effect.fieldHandleKind?, count] using eq_comm

/-- The plan of an operation, in a routine that is entered with its parameters, fails for just the
causes for which the operation is refused. -/
theorem plan_eq_error (entered : offset = routine.type.argumentWidth (!routine.isStatic)) :
    operation.plan graph routine offset = .error cause ↔
      operation.Refused graph routine cause := by
  constructor
  · intro failed
    have overflows : ∀ {index}, operation.relativeIndex? = some index →
        relativeSlot offset index = .error cause → operation.Refused graph routine cause := by
      intro index given noSlot
      obtain ⟨exceeds, rfl⟩ := relativeSlot_eq_error.mp noSlot
      exact .indexOverflow given (entered ▸ exceeds)
    cases operation with
    | loadThis =>
        simp only [plan] at failed
        split at failed
        · rename_i static
          cases failed
          exact .noReceiver static
        · cases failed
    | loadParameter index =>
        simp only [plan] at failed
        split at failed
        · rename_i beyond
          cases failed
          exact .noParameter beyond
        · cases failed
    | loadLocal index => exact overflows rfl (bind_ok_eq_error.mp failed)
    | storeLocalAt index => exact overflows rfl (bind_ok_eq_error.mp failed)
    | increment index delta => exact overflows rfl (bind_ok_eq_error.mp failed)
    | getOwnField name =>
        obtain ⟨missing, rfl⟩ := ownField_eq_error.mp (bind_ok_eq_error.mp failed)
        exact .noFieldToGet missing
    | putOwnField name =>
        obtain ⟨missing, rfl⟩ := ownField_eq_error.mp (bind_ok_eq_error.mp failed)
        exact .noFieldToPut missing
    | invoke method =>
        obtain ⟨⟨overridable, interface, wide⟩, rfl⟩ :=
          invokeKind_eq_error.mp (bind_ok_eq_error.mp failed)
        exact .tooWide overridable interface wide
    | lambda method interface =>
        rcases lambda_eq_error.mp failed with ⟨missing, rfl⟩ | ⟨functional, found, few, rfl⟩
        · exact .notFunctional missing
        · exact .tooFewParameters found few
    | lambdaField field interface =>
        rcases lambdaField_eq_error.mp failed with ⟨missing, rfl⟩ | ⟨functional, found, many, rfl⟩
        · exact .notFunctionalForField missing
        · exact .notAccessor found many
    | _ => cases failed
  · intro refused
    cases refused with
    | noReceiver static => simp [plan, static, name]
    | noParameter beyond => simp [plan, beyond, name]
    | noFieldToGet missing => exact bind_ok_eq_error.mpr (ownField_eq_error.mpr ⟨missing, rfl⟩)
    | noFieldToPut missing => exact bind_ok_eq_error.mpr (ownField_eq_error.mpr ⟨missing, rfl⟩)
    | tooWide overridable interface wide =>
        exact bind_ok_eq_error.mpr
          (invokeKind_eq_error.mpr ⟨⟨overridable, interface, wide⟩, rfl⟩)
    | notFunctional missing => exact lambda_eq_error.mpr (.inl ⟨missing, rfl⟩)
    | tooFewParameters found few => exact lambda_eq_error.mpr (.inr ⟨_, found, few, rfl⟩)
    | notFunctionalForField missing => exact lambdaField_eq_error.mpr (.inl ⟨missing, rfl⟩)
    | notAccessor found many => exact lambdaField_eq_error.mpr (.inr ⟨_, found, many, rfl⟩)
    | @indexOverflow _ index given exceeds =>
        have noSlot := relativeSlot_eq_error.mpr ⟨entered ▸ exceeds, rfl⟩
        cases operation with
        | loadLocal =>
            cases given
            exact bind_ok_eq_error.mpr noSlot
        | storeLocalAt =>
            cases given
            exact bind_ok_eq_error.mpr noSlot
        | increment =>
            cases given
            exact bind_ok_eq_error.mpr noSlot
        | _ => cases given

end Refused

end Operation

theorem Call.Refused.ne_unreachableCode {graph : ClassGraph} {routine : Method} {call : Call}
    {cause : Error} (refused : call.Refused graph routine cause) (name : String) :
    cause ≠ .unreachableCode name := by
  cases refused with
  | operation refused => cases refused <;> exact nofun

/-! ## Calls in unreachable code -/

namespace Builder

theorem track_of_unreachable {builder : Builder} {name : String}
    (unreachable : builder.current = none) {effect : Effect} :
    builder.track name effect = .error (.unreachableCode name) := by
  rw [track, unreachable]

section Unreachable

variable {graph : ClassGraph} {routine : Method} {requests : List Request} {call : Call}
  {name : String}

theorem call_of_refused {cause : Error} (refused : call.Refused graph routine cause) :
    ((start routine).run requests).call graph call = .error cause := by
  cases refused with
  | operation refused =>
      have planned := (Operation.plan_eq_error (localOffset_run routine requests)).mpr refused
      rw [Builder.call, operate, routine_run, planned]
      rfl

/-- A call that is not refused gets as far as the frame. -/
theorem call_of_unreachable (unreachable : ((start routine).run requests).current = none)
    (named : call.trackedName? = some name)
    (accepted : ∀ cause, ¬ call.Refused graph routine cause) :
    ((start routine).run requests).call graph call = .error (.unreachableCode name) := by
  cases call with
  | operation operation =>
      cases named
      have entered := localOffset_run routine requests
      cases planned : operation.plan graph routine ((start routine).run requests).localOffset with
      | error cause =>
          have refused := (Operation.plan_eq_error entered).mp planned
          exact absurd (.operation refused) (accepted cause)
      | ok effect =>
          rw [Builder.call, operate, routine_run, planned]
          exact track_of_unreachable unreachable
  | splice generate =>
      cases named
      rw [Builder.call, splice]
      exact track_of_unreachable unreachable
  | jump branch source target =>
      cases named
      rw [Builder.call, jump, unreachable]
  | declare label framing => cases named
  | freshLabel => cases named

end Unreachable

theorem run_call_of_error {graph : ClassGraph} {builder : Builder} {call : Call} {cause : Error}
    (failed : builder.call graph call = .error cause) :
    (InPlace.call graph call).run builder = (.error cause, builder) := by
  rw [InPlace.run_call, failed]

/-- Whatever calls have led to code that cannot be reached: every call that works on the current
frame fails there and leaves the builder as it is. The cause is unreachable code under the name of
the call, unless the call is refused for a cause that is found earlier. -/
theorem unreachable_calls_fail (routine : Method) (requests : List Request)
    (unreachable : ((start routine).run requests).current = none) (graph : ClassGraph)
    (call : Call) (name : String) (named : call.trackedName? = some name) :
    ∃ cause,
      (InPlace.call graph call).run ((start routine).run requests) =
        (.error cause, (start routine).run requests) ∧
      (cause = .unreachableCode name ↔ ∀ refusal, ¬ call.Refused graph routine refusal) ∧
      ∀ refusal, call.Refused graph routine refusal → cause = refusal := by
  by_cases accepted : ∀ refusal, ¬ call.Refused graph routine refusal
  · have failed := call_of_unreachable unreachable named accepted
    refine ⟨_, run_call_of_error failed, ⟨fun _ => accepted, fun _ => rfl⟩, ?_⟩
    intro refusal refused
    exact absurd refused (accepted refusal)
  · obtain ⟨cause, refused⟩ : ∃ cause, call.Refused graph routine cause := by
      simpa using accepted
    have decided : ∀ refusal, call.Refused graph routine refusal →
        ((start routine).run requests).call graph call = .error refusal :=
      fun _ => call_of_refused
    refine ⟨cause, run_call_of_error (decided cause refused), ⟨?_, ?_⟩, ?_⟩
    · intro same
      exact absurd same (refused.ne_unreachableCode name)
    · intro acceptedNow
      exact absurd acceptedNow accepted
    · intro refusal refusedToo
      exact Except.error.inj ((decided cause refused).symm.trans (decided refusal refusedToo))

/-- A return, and calls of three kinds behind it that fail or do not need a frame. -/
def returnedRequests : List Request :=
  [.operation .returnValue, .operation .dup, .freshLabel, .declare ⟨0⟩ .fromEntry].map
    (⟨.empty, ·⟩)

theorem unreachable_jump_fails :
    ((start plainRoutine).run returnedRequests).current = none ∧
      Call.trackedName? (.jump (.ifZero .eq) (some ⟨5⟩) ⟨0⟩) = some "if_zero" ∧
      ∃ cause,
        (InPlace.call .empty (.jump (.ifZero .eq) (some ⟨5⟩) ⟨0⟩)).run
            ((start plainRoutine).run returnedRequests) =
          (.error cause, (start plainRoutine).run returnedRequests) ∧
        (cause = .unreachableCode "if_zero" ↔ ∀ refusal,
          ¬ Call.Refused .empty plainRoutine (.jump (.ifZero .eq) (some ⟨5⟩) ⟨0⟩) refusal) ∧
        ∀ refusal, Call.Refused .empty plainRoutine (.jump (.ifZero .eq) (some ⟨5⟩) ⟨0⟩) refusal →
          cause = refusal :=
  ⟨by decide, rfl, unreachable_calls_fail plainRoutine returnedRequests (by decide) .empty
    (.jump (.ifZero .eq) (some ⟨5⟩) ⟨0⟩) "if_zero" rfl⟩

/-- Not every call in unreachable code is told that it is there: in a static routine, loading the
receiver fails for want of a receiver. -/
theorem unreachable_loadThis_invalid :
    ¬ ∀ (routine : Method) (requests : List Request),
      ((start routine).run requests).current = none →
        ∀ graph call name, call.trackedName? = some name →
          (InPlace.call graph call).run ((start routine).run requests) =
            (.error (.unreachableCode name), (start routine).run requests) := by
  intro always
  have named := always plainRoutine returnedRequests (by decide) .empty (.operation .loadThis)
    "load_this" rfl
  have refused : Call.Refused .empty plainRoutine (.operation .loadThis)
      (.invalidLocal "load_this" 0 .noReceiver) :=
    .operation (.noReceiver (by decide))
  rw [run_call_of_error (call_of_refused refused)] at named
  cases named

end Builder

end TypedBytecode
