import TypedBytecode.Error

/-!
Contract: the frames that labels are to have.

Owns:
- for every label met so far, its frame and whether the label has been placed;
- the rule that all jumps to one label bring the same locals and stack;
- the labels that were jumped to and are not placed.

Does not own: emitting labels or frames.
-/

namespace TypedBytecode

/-- The frame at a label, with the description that goes into the output. -/
structure LabelFrame where
  snapshot : Snapshot
  delta : FrameDelta
deriving DecidableEq, Repr

/-- A label's frame is pending from the first jump on, and placed once it is declared. -/
inductive LabelState where
  | pending (frame : LabelFrame)
  | placed (frame : LabelFrame)
deriving DecidableEq, Repr

def LabelState.frame : LabelState → LabelFrame
  | .pending frame => frame
  | .placed frame => frame

/-- States of the labels met so far, at most one for each label. -/
structure LabelFrames where
  states : List (Label × LabelState)
deriving DecidableEq, Repr

namespace LabelFrames

def empty : LabelFrames := ⟨[]⟩

def find? (frames : LabelFrames) (label : Label) : Option LabelState :=
  (frames.states.find? (fun state => state.1 == label)).map Prod.snd

def pending? (frames : LabelFrames) (label : Label) : Option LabelFrame :=
  match frames.find? label with
  | some (.pending frame) => some frame
  | _ => none

def placed? (frames : LabelFrames) (label : Label) : Option LabelFrame :=
  match frames.find? label with
  | some (.placed frame) => some frame
  | _ => none

def set (frames : LabelFrames) (label : Label) (state : LabelState) : LabelFrames :=
  ⟨(label, state) :: frames.states.filter (fun other => other.1 != label)⟩

/-- Record the frame that a jump brings to a label. The first frame recorded is kept. -/
def recordJump (frames : LabelFrames) (label : Label) (brought : LabelFrame)
    (backward : Bool) : Except Error LabelFrames :=
  match frames.find? label with
  | none => .ok (frames.set label (.pending brought))
  | some state =>
    let found := brought.snapshot.frame
    let expected := state.frame.snapshot.frame
    if found = expected then .ok frames
    else if backward then
      .error (.frameConsistency label (.backwardJumpMismatch found expected))
    else .error (.frameConsistency label (.incompatibleFrames found expected))

/-- Place a label with its frame. A label is placed once. -/
def place (frames : LabelFrames) (label : Label) (frame : LabelFrame) :
    Except Error LabelFrames :=
  match frames.placed? label with
  | some _ => .error (.frameConsistency label .alreadyPlaced)
  | none => .ok (frames.set label (.placed frame))

/-- Labels jumped to and not placed, in order. -/
def unresolved (frames : LabelFrames) : List Label :=
  (frames.states.filterMap (fun state =>
    match state.2 with
    | .pending _ => some state.1
    | .placed _ => none)).mergeSort (fun left right => left.index ≤ right.index)

end LabelFrames

end TypedBytecode
