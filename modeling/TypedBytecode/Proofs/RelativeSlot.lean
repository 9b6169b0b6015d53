import TypedBytecode.Proofs.LocalAccess
import TypedBytecode.Proofs.Parameters
import TypedBytecode.Proofs.Unreachable

/-!
Contract: the slots that relative indices of locals lead to.

Owns:
- `Operation.ActsOn`: what loading, storing and incrementing a slot needs and does;
- `Builder.Addresses`: an operation works on one slot, or fails;
- the run theorem: a relative index leads to the slot that many behind the parameters, unless the
  sum is too great for a machine word; the run is then cut off.

Does not own: what is in the slots of the parameters.
-/

namespace TypedBytecode

namespace Operation

/-! ## Operations on a slot -/

/-- What operations on a slot do to the frame, and the one instruction they emit. The slot has to
hold a value, which keeps its type. -/
inductive ActsOn (graph : ClassGraph) (slot : Nat) :
    Operation → Frame → Frame → Instruction → Prop where
  | load {index : UInt64} {frame : Frame} {value : ValueType}
      (held : frame.locals[slot]? = some value) (usable : value ≠ .top)
      (inRange : slot ≤ Effect.lastSlot) :
      ActsOn graph slot (.loadLocal index) frame (frame.push value)
        (.load (.ofValue value) (UInt16.ofNat slot))
  | store {index : UInt64} {locals stack : List ValueType} {value found : ValueType}
      (held : locals[slot]? = some value) (usable : value ≠ .top)
      (fits : found.assignable graph value = true) (inRange : slot ≤ Effect.lastSlot) :
      ActsOn graph slot (.storeLocalAt index) ⟨locals, found :: stack⟩ ⟨locals, stack⟩
        (.store (.ofValue value) (UInt16.ofNat slot))
  | increment {index : UInt64} {delta : Int16} {frame : Frame} {kind : IntKind}
      (held : frame.locals[slot]? = some (.int kind)) (inRange : slot ≤ Effect.lastSlot) :
      ActsOn graph slot (.increment index delta) frame frame
        (.increment (UInt16.ofNat slot) delta)

/-- Whatever acts on a slot finds it in use, and its instruction names that slot. -/
theorem ActsOn.access {graph : ClassGraph} {slot : Nat} {operation : Operation}
    {before after : Frame} {instruction : Instruction}
    (acts : operation.ActsOn graph slot before after instruction) :
    slot < before.locals.length ∧ ∃ kind, instruction.access? = some (kind, slot) := by
  have inUse : ∀ value, before.locals[slot]? = some value → slot < before.locals.length :=
    fun _ held => (List.getElem?_eq_some_iff.mp held).1
  cases acts with
  | load held usable inRange =>
      exact ⟨inUse _ held, _, by rw [Instruction.access?, Code.toNat_slot inRange]⟩
  | store held usable fits inRange =>
      exact ⟨inUse _ held, _, by rw [Instruction.access?, Code.toNat_slot inRange]⟩
  | increment held inRange =>
      exact ⟨inUse _ held, _, by rw [Instruction.access?, Code.toNat_slot inRange]⟩

end Operation

theorem Frame.localAt_of_outside {frame : Frame} {operation : String} {slot : Nat}
    (outside : frame.locals.length ≤ slot) :
    frame.localAt operation slot =
      .error (.invalidLocal operation slot (.outOfRange frame.locals.length)) := by
  rw [localAt, List.getElem?_eq_none outside]

namespace Effect

/-- The effect of an operation on a slot: it acts on the slot, and fails where the slot is not in
use. -/
structure WorksOn (graph : ClassGraph) (operation : Operation) (slot : Nat) (effect : Effect) :
    Prop where
  acts : ∀ before after code, effect before = .ok (after, code) ↔
    ∃ instruction, operation.ActsOn graph slot before after instruction ∧ code = [instruction]
  outside : ∀ before : Frame, before.locals.length ≤ slot → effect before =
    .error (.invalidLocal operation.name slot (.outOfRange before.locals.length))

section WorksOn

variable {graph : ClassGraph} {slot : Nat} {index : UInt64}

theorem worksOn_loadSlot : (loadSlot (Operation.loadLocal index).name slot).WorksOn graph
    (.loadLocal index) slot where
  acts before after code := by
    rw [loadSlot_eq_ok]
    constructor
    · rintro ⟨value, held, usable, inRange, rfl, rfl⟩
      exact ⟨_, .load held usable inRange, rfl⟩
    · rintro ⟨instruction, acts, rfl⟩
      cases acts with
      | @load _ _ value held usable inRange => exact ⟨value, held, usable, inRange, rfl, rfl⟩
  outside before unused := by
    rw [loadSlot, Frame.localAt_of_outside unused]
    rfl

theorem worksOn_storeSlot : (storeSlot graph (Operation.storeLocalAt index).name slot).WorksOn
    graph (.storeLocalAt index) slot where
  acts before after code := by
    rw [storeSlot_eq_ok]
    constructor
    · rintro ⟨value, found, held, usable, fits, inRange, rfl, rfl⟩
      exact ⟨_, .store held usable fits inRange, rfl⟩
    · rintro ⟨instruction, acts, rfl⟩
      cases acts with
      | @store _ _ _ value found held usable fits inRange =>
          exact ⟨value, found, held, usable, fits, inRange, rfl, rfl⟩
  outside before unused := by
    rw [storeSlot, Frame.localAt_of_outside unused]
    rfl

theorem worksOn_incrementSlot {delta : Int16} :
    (incrementSlot (Operation.increment index delta).name slot delta).WorksOn graph
      (.increment index delta) slot where
  acts before after code := by
    rw [incrementSlot_eq_ok]
    constructor
    · rintro ⟨kind, held, inRange, rfl, rfl⟩
      exact ⟨_, .increment held inRange, rfl⟩
    · rintro ⟨instruction, acts, rfl⟩
      cases acts with
      | @increment _ _ _ kind held inRange => exact ⟨kind, held, inRange, rfl, rfl⟩
  outside before unused := by
    rw [incrementSlot, Frame.localAt_of_outside unused]
    rfl

end WorksOn

end Effect

/-- Operations that are given a relative index are planned as work on the slot it leads to. -/
theorem Operation.worksOn_of_relativeIndex? (graph : ClassGraph) (routine : Method)
    {offset slot : Nat} {operation : Operation} {index : UInt64}
    (given : operation.relativeIndex? = some index)
    (leads : relativeSlot offset index = .ok slot) :
    ∃ effect, operation.plan graph routine offset = .ok effect ∧
      Effect.WorksOn graph operation slot effect := by
  cases operation with
  | loadLocal =>
      cases given
      exact ⟨_, by rw [plan, leads]; rfl, Effect.worksOn_loadSlot⟩
  | storeLocalAt =>
      cases given
      exact ⟨_, by rw [plan, leads]; rfl, Effect.worksOn_storeSlot⟩
  | increment =>
      cases given
      exact ⟨_, by rw [plan, leads]; rfl, Effect.worksOn_incrementSlot⟩
  | _ => cases given

/-! ## Calls -/

namespace Builder

/-- An operation works on one slot. It succeeds just where it can act on the slot, which then is
in use and is the one that its instruction names; it fails where the slot is not in use. -/
structure Addresses (graph : ClassGraph) (builder : Builder) (operation : Operation)
    (slot : Nat) : Prop where
  acts : ∀ current, builder.current = some current → ∀ next,
    builder.call graph (.operation operation) = .ok next ↔
      ∃ after instruction, operation.ActsOn graph slot current.frame after instruction ∧
        next = builder.afterCode current after [instruction]
  accesses : ∀ next, builder.call graph (.operation operation) = .ok next →
    ∃ current instruction kind, builder.current = some current ∧
      slot < current.frame.locals.length ∧
      next.emissions = builder.emissions ++ [.instruction instruction] ∧
      instruction.access? = some (kind, slot)
  outside : ∀ current, builder.current = some current → current.frame.locals.length ≤ slot →
    builder.call graph (.operation operation) =
      .error (.invalidLocal operation.name slot (.outOfRange current.frame.locals.length))
  unreachable : builder.current = none →
    builder.call graph (.operation operation) = .error (.unreachableCode operation.name)

theorem Addresses.of_worksOn {graph : ClassGraph} {builder : Builder} {operation : Operation}
    {slot : Nat} {effect : Effect}
    (planned : operation.plan graph builder.routine builder.localOffset = .ok effect)
    (works : effect.WorksOn graph operation slot) : builder.Addresses graph operation slot := by
  have acts : ∀ current, builder.current = some current → ∀ next,
      builder.call graph (.operation operation) = .ok next ↔
        ∃ after instruction, operation.ActsOn graph slot current.frame after instruction ∧
          next = builder.afterCode current after [instruction] := by
    intro current reachable next
    rw [call_of_plan planned reachable]
    constructor
    · intro succeeds
      cases performed : effect current.frame with
      | error cause =>
          rw [performed] at succeeds
          cases succeeds
      | ok result =>
          obtain ⟨after, code⟩ := result
          obtain ⟨instruction, acts, rfl⟩ := (works.acts _ _ _).mp performed
          rw [performed] at succeeds
          cases succeeds
          exact ⟨after, instruction, acts, rfl⟩
    · rintro ⟨after, instruction, acts, rfl⟩
      rw [(works.acts _ _ _).mpr ⟨instruction, acts, rfl⟩]
      rfl
  have unreachable : builder.current = none →
      builder.call graph (.operation operation) = .error (.unreachableCode operation.name) := by
    intro missing
    rw [Builder.call, operate, planned]
    exact track_of_unreachable missing
  refine ⟨acts, ?_, ?_, unreachable⟩
  · intro next succeeds
    cases reachable : builder.current with
    | none =>
        rw [unreachable reachable] at succeeds
        cases succeeds
    | some current =>
        obtain ⟨after, instruction, actsOn, rfl⟩ := (acts current reachable next).mp succeeds
        obtain ⟨inUse, kind, names⟩ := actsOn.access
        exact ⟨current, instruction, kind, rfl, inUse, emissions_afterCode, names⟩
  · intro current reachable outside
    rw [call_of_plan planned reachable, works.outside _ outside]
    rfl

/-- Whatever calls are made before, also with spliced code and frames that are handed in: an
operation with a relative index works on the slot that many behind the receiver and the parameters,
if the sum is a machine word. A greater sum overflows, be the code reachable or not, before anything
is looked at or written. -/
theorem relative_index_addresses (routine : Method) (requests : List Request)
    (graph : ClassGraph) (operation : Operation) (index : UInt64)
    (given : operation.relativeIndex? = some index) :
    ((start routine).run requests).localOffset =
        routine.type.argumentWidth (!routine.isStatic) ∧
      (routine.type.argumentWidth (!routine.isStatic) + index.toNat < UInt64.size →
        ((start routine).run requests).Addresses graph operation
          (routine.type.argumentWidth (!routine.isStatic) + index.toNat)) ∧
      (UInt64.size ≤ routine.type.argumentWidth (!routine.isStatic) + index.toNat →
        (InPlace.call graph (.operation operation)).run ((start routine).run requests) =
          (.error .overflow, (start routine).run requests)) := by
  have offset := localOffset_run routine requests
  refine ⟨offset, ?_, ?_⟩
  · intro fits
    have leads := Operation.relativeSlot_eq_ok.mpr ⟨fits, rfl⟩
    rw [← offset] at leads
    obtain ⟨effect, planned, works⟩ := Operation.worksOn_of_relativeIndex? graph
      ((start routine).run requests).routine given leads
    rw [← offset]
    exact .of_worksOn planned works
  · intro exceeds
    exact run_call_of_error (call_of_refused (.operation (.indexOverflow given exceeds)))

/-- Behind the six slots of the receiver and the parameters, the greatest index but five is the
least whose sum is no machine word. -/
theorem relative_index_addresses_behind_parameters :
    Operation.relativeIndex? (.increment 2 7) = some 2 ∧
      ((start mixedRoutine).run storesBehindParameters).Addresses .empty (.increment 2 7) 8 ∧
      Operation.relativeIndex? (.increment 0xfffffffffffffffa 1) = some 0xfffffffffffffffa ∧
      (InPlace.call .empty (.operation (.increment 0xfffffffffffffffa 1))).run
          ((start mixedRoutine).run storesBehindParameters) =
        (.error .overflow, (start mixedRoutine).run storesBehindParameters) := by
  obtain ⟨-, addresses, -⟩ := relative_index_addresses mixedRoutine storesBehindParameters .empty
    (.increment 2 7) 2 rfl
  obtain ⟨-, -, overflows⟩ := relative_index_addresses mixedRoutine storesBehindParameters .empty
    (.increment 0xfffffffffffffffa 1) 0xfffffffffffffffa rfl
  exact ⟨rfl, addresses (by decide), rfl, overflows (by decide)⟩

/-- An instance routine without parameters. -/
def receiverRoutine : Method :=
  ⟨⟨"A"⟩, ⟨"f"⟩, ⟨[], none⟩, .empty⟩

/-- Indices out of range are not always refused: behind a receiver, the greatest index overflows. -/
theorem greatest_index_overflows :
    (start receiverRoutine).call .empty (.operation (.loadLocal 0xffffffffffffffff)) =
        .error .overflow ∧
      ¬ ∀ (routine : Method) (requests : List Request) (graph : ClassGraph)
          (operation : Operation) (index : UInt64), operation.relativeIndex? = some index →
        ∀ cause, ((start routine).run requests).call graph (.operation operation) =
          .error cause → cause ≠ .overflow := by
  have refused : Call.Refused .empty receiverRoutine (.operation (.loadLocal 0xffffffffffffffff))
      .overflow :=
    .operation (.indexOverflow rfl (by decide))
  have overflows : ((start receiverRoutine).run []).call .empty
      (.operation (.loadLocal 0xffffffffffffffff)) = .error .overflow := call_of_refused refused
  refine ⟨overflows, ?_⟩
  intro always
  exact always receiverRoutine [] .empty _ _ rfl _ overflows rfl

end Builder

end TypedBytecode
