import TypedBytecode.LabelFrames
import TypedBytecode.Listing
import TypedBytecode.Operation

/-!
Contract: assembling the body of one routine.

Owns:
- the state of a routine under construction: entry frame, current frame, label frames, what
  has been emitted, sizes and the label supply;
- calls: operations, spliced code, jumps, label declarations and fresh labels;
- finishing a routine.

A call either fails and changes nothing, or gives the next state. After a jump, return or
throw that control never passes, there is no current frame until a label is declared.

Does not own: the class graph, which calls only read.
-/

namespace TypedBytecode

/-- A routine under construction. Emissions are kept with the newest first, and a missing
current frame means that the end of the code cannot be reached. -/
structure Builder where
  routine : Method
  entry : Frame
  current : Option Snapshot
  labels : LabelFrames
  emitted : List Emission
  maxStack : Nat
  maxLocals : Nat
  supply : LabelSupply
deriving DecidableEq, Repr

/-- A jump, without its labels. -/
inductive Branch where
  | goto
  | ifZero (comparison : OrdComparison)
  | ifInt (comparison : OrdComparison)
  | ifReference (comparison : EqComparison)
  | ifNull (comparison : EqComparison)
deriving DecidableEq, Repr

namespace Branch

def name : Branch → String
  | .goto => "goto"
  | .ifZero _ => "if_zero"
  | .ifInt _ => "if_icmp"
  | .ifReference _ => "if_acmp"
  | .ifNull _ => "if_null"

def requirements : Branch → List Requirement
  | .goto => []
  | .ifZero _ => [.intLike]
  | .ifInt _ => [.intLike, .intLike]
  | .ifReference _ => [.anyReference, .anyReference]
  | .ifNull _ => [.anyReference]

def instruction (target : Label) : Branch → Instruction
  | .goto => .goto target
  | .ifZero comparison => .ifZero comparison target
  | .ifInt comparison => .ifInt comparison target
  | .ifReference comparison => .ifReference comparison target
  | .ifNull comparison => .ifNull comparison target

end Branch

/-- How the frame of a label is described where the label is declared. -/
inductive Framing where
  /-- As recorded by the jumps to the label. -/
  | recorded
  /-- Relative to the entry frame. -/
  | fromEntry
  /-- Relative to the frame of a label that is already placed. -/
  | fromLabel (source : Label)
  /-- As given, for a label that is reached by code the builder does not track. -/
  | described (delta : FrameDelta)
deriving DecidableEq, Repr

/-- One call on a builder. Spliced code answers for its own effect on the frame. -/
inductive Call where
  | operation (operation : Operation)
  | splice (generate : Frame → Frame × Code)
  | jump (branch : Branch) (source : Option Label) (target : Label)
  | declare (label : Label) (framing : Framing)
  | freshLabel

namespace Builder

/-- Frame on entry: the receiver, if there is one, then the parameters. -/
def entryFrame (routine : Method) : Frame :=
  .ofValues
    ((if routine.isStatic then [] else [.object routine.owner]) ++
      routine.type.parameters.map .ofFieldType)
    []

def start (routine : Method) : Builder where
  routine := routine
  entry := entryFrame routine
  current := some (.ofFrame (entryFrame routine))
  labels := .empty
  emitted := []
  maxStack := 0
  maxLocals := (entryFrame routine).locals.length
  supply := .startingAt ⟨0⟩

/-- Slots of the entry frame. Relative indices of locals count from here. -/
def localOffset (builder : Builder) : Nat :=
  builder.entry.locals.length

/-- What has been emitted, in code order. -/
def emissions (builder : Builder) : List Emission :=
  builder.emitted.reverse

/-- Apply an effect to the current frame and emit its code. -/
def track (builder : Builder) (operation : String) (effect : Effect) : Except Error Builder :=
  match builder.current with
  | none => .error (.unreachableCode operation)
  | some current => do
    let (next, code) ← effect current.frame
    let peak := current.frame.stackWidth + code.maxGrowth
    .ok { builder with
      current := if code.isTerminal then none else some { current with frame := next }
      emitted := (code.map .instruction).reverse ++ builder.emitted
      maxStack := max builder.maxStack peak.toNat
      maxLocals := max builder.maxLocals next.locals.length }

def operate (graph : ClassGraph) (builder : Builder) (operation : Operation) :
    Except Error Builder := do
  let effect ← operation.plan graph builder.routine builder.localOffset
  builder.track operation.name effect

/-- Splice in code that is not checked. -/
def splice (builder : Builder) (generate : Frame → Frame × Code) : Except Error Builder :=
  builder.track "manual" (fun frame => .ok (generate frame))

/-! ## Jumps -/

/-- Frame that a jump's description is relative to: that of its source label, or the entry
frame for a jump without one. -/
def jumpBase (builder : Builder) (source : Option Label) (target : Label) :
    Except Error Snapshot :=
  match source with
  | none => .ok (.ofFrame builder.entry)
  | some label =>
    match builder.labels.placed? label with
    | some placed => .ok placed.snapshot
    | none => .error (.frameConsistency target (.missingSourceFrame label))

/-- Take the operands of a jump, record the frame it brings to its target, and emit it. -/
def jump (graph : ClassGraph) (builder : Builder) (branch : Branch) (source : Option Label)
    (target : Label) : Except Error Builder :=
  match builder.current with
  | none => .error (.unreachableCode branch.name)
  | some current => do
    let (_, next) ← current.frame.take graph branch.name branch.requirements
    let base ← builder.jumpBase source target
    let brought : LabelFrame := ⟨.describedAgainst next base, next.diff base.frame⟩
    let labels ← builder.labels.recordJump target brought source.isNone
    let instruction := branch.instruction target
    .ok { builder with
      current := if instruction.isTerminal then none else some { current with frame := next }
      labels := labels
      emitted := .instruction instruction :: builder.emitted }

/-! ## Labels -/

/-- Frame that comes to a label about to be declared: the current one if there is one, or else
the one that jumps have brought. -/
def arriving? (builder : Builder) (label : Label) : Option Frame :=
  match builder.current with
  | some current => some current.frame
  | none => (builder.labels.pending? label).map (fun pending => pending.snapshot.frame)

/-- Place a label, emit it with its frame, and continue from that frame. -/
def place (builder : Builder) (label : Label) (settled : LabelFrame) : Except Error Builder := do
  let labels ← builder.labels.place label settled
  let frame := settled.snapshot.frame
  .ok { builder with
    current := some settled.snapshot
    labels := labels
    emitted := .frame settled.delta :: .label label :: builder.emitted
    maxStack := max builder.maxStack frame.stackWidth
    maxLocals := max builder.maxLocals frame.locals.length }

/-- The frame at a label about to be declared, on which the code before the label and the
jumps to it have to agree. -/
def agreedFrame (builder : Builder) (label : Label) : Except Error Frame :=
  if (builder.labels.placed? label).isSome then .error (.frameConsistency label .alreadyPlaced)
  else
    match builder.current, builder.labels.pending? label with
    | some current, some pending =>
      if current.frame = pending.snapshot.frame then .ok current.frame
      else
        .error (.frameConsistency label
          (.incompatibleFrames current.frame pending.snapshot.frame))
    | some current, none => .ok current.frame
    | none, some pending => .ok pending.snapshot.frame
    | none, none => .error (.frameConsistency label .unreferenced)

/-- Declare a label with a description relative to the given frame. -/
def declareAgainst (builder : Builder) (label : Label) (base : Snapshot) :
    Except Error Builder := do
  let frame ← builder.agreedFrame label
  builder.place label ⟨.describedAgainst frame base, frame.diff base.frame⟩

/-- The frame after a label whose description is given. Only where nothing comes to the label
does the description settle it, relative to the entry frame. -/
def describedFrame (builder : Builder) (label : Label) (delta : FrameDelta) :
    Except Error Frame :=
  if (builder.labels.placed? label).isSome then .error (.frameConsistency label .alreadyPlaced)
  else
    match builder.arriving? label with
    | some frame => .ok frame
    | none =>
      match builder.entry.applyDelta? delta with
      | some frame => .ok frame
      | none => .error (.frameConsistency label (.unfitDelta delta))

def declare (builder : Builder) (label : Label) : Framing → Except Error Builder
  | .recorded => do
    let _ ← builder.agreedFrame label
    match builder.labels.pending? label with
    | some pending => builder.place label pending
    | none => .error (.frameConsistency label .unreferenced)
  | .fromEntry => builder.declareAgainst label (.ofFrame builder.entry)
  | .fromLabel source =>
    match builder.labels.placed? source with
    | some placed => builder.declareAgainst label placed.snapshot
    | none => .error (.frameConsistency label (.missingSourceFrame source))
  | .described delta => do
    let frame ← builder.describedFrame label delta
    builder.place label ⟨.ofFrame frame, delta⟩

def freshLabel (builder : Builder) : Label × Builder :=
  let (label, supply) := builder.supply.fresh
  (label, { builder with supply := supply })

/-! ## Calls -/

def call (graph : ClassGraph) (builder : Builder) : Call → Except Error Builder
  | .operation operation => builder.operate graph operation
  | .splice generate => builder.splice generate
  | .jump branch source target => builder.jump graph branch source target
  | .declare label framing => builder.declare label framing
  | .freshLabel => .ok builder.freshLabel.2

/-- The finished routine, if all labels that are jumped to have been declared. -/
def finish (builder : Builder) : Except Error Listing :=
  match builder.labels.unresolved with
  | [] => .ok ⟨builder.emissions, ⟨builder.maxStack, builder.maxLocals⟩⟩
  | labels => .error (.unresolvedLabels labels)

/-- The state of a routine on one line. -/
def summary (builder : Builder) : String :=
  Record.fields "CodeBuilder"
    [("method", builder.routine.text),
      ("current",
        match builder.current with
        | some current => Record.single "Some" current.frame.text
        | none => "None"),
      ("pending", Label.listText builder.labels.unresolved)]

end Builder

end TypedBytecode
