import TypedBytecode.Proofs.Layout
import Mathlib.Data.List.Induction

/-!
Contract: descriptions of a frame relative to another frame, as a code of their own.

Owns:
- `Frame.Padded`: every wide local has a `top` right behind it, which holds exactly of the locals
  that can be put together again from their values;
- when each kind of description is found, and what each kind decodes to;
- the laws of the code: decoding undoes `diff`, `diff` finds the compact description whenever there
  is one, and removing locals undoes adding them.

A description of a frame relative to itself is `same`, whatever is on the stack, and `same`
decodes to an empty stack. This is the only way in which decoding loses a frame.

Does not own: which frames a builder describes, and relative to which.
-/

namespace TypedBytecode

namespace Frame

/-! ## Locals that their values determine -/

/-- Every wide local is followed by `top`. A `top` may also stand anywhere else. -/
def Padded (locals : List ValueType) : Prop :=
  ∀ slot value, locals[slot]? = some value → value.isWide = true →
    locals[slot + 1]? = some .top

theorem Padded.tail {first : ValueType} {rest : List ValueType} (padded : Padded (first :: rest)) :
    Padded rest := by
  intro slot value held wide
  exact padded (slot + 1) value held wide

theorem padded_slots (values : List ValueType) : Padded (values.flatMap slots) :=
  fun _ _ => getElem?_slots_of_wide

/-- Laying the values of padded locals out again gives the same slots. -/
theorem Padded.slots_valuesFrom {locals : List ValueType} (padded : Padded locals) :
    (valuesFrom false locals).flatMap slots = locals := by
  -- A wide local and the `top` behind it are read as one value, so the induction takes two
  -- slots at a time.
  induction locals using List.twoStepInduction with
  | nil => rfl
  | singleton value =>
      have narrow : value.isWide = false := by
        by_contra wide
        have followed := padded 0 value rfl (by simpa using wide)
        simp at followed
      simp [valuesFrom, slots_of_narrow narrow]
  | cons_cons value second rest laidAfter laidBehind =>
      cases wide : value.isWide with
      | true =>
          have followed : second = .top := by
            simpa using padded 0 value rfl wide
          subst followed
          have laid := laidAfter padded.tail.tail
          simp [valuesFrom, wide, slots_of_wide wide, laid]
      | false =>
          have laid := laidBehind second padded.tail
          have first : valuesFrom false (value :: second :: rest) =
              value :: valuesFrom false (second :: rest) := by
            rw [valuesFrom]
            simp [wide]
          rw [first, List.flatMap_cons, slots_of_narrow wide, laid]
          rfl

theorem padded_iff_slots_valuesFrom {locals : List ValueType} :
    Padded locals ↔ (valuesFrom false locals).flatMap slots = locals := by
  constructor
  · exact Padded.slots_valuesFrom
  · intro laid
    rw [← laid]
    exact padded_slots _

instance (locals : List ValueType) : Decidable (Padded locals) :=
  decidable_of_iff _ padded_iff_slots_valuesFrom.symm

section Values

variable {frame previous : Frame} {values stack : List ValueType}

theorem Padded.ofValues_localValues (padded : Padded frame.locals) :
    ofValues frame.localValues frame.stack = frame := by
  have laid := padded.slots_valuesFrom
  rw [ofValues, localValues, laid]

/-- Only one frame with padded locals has given values and a given stack. -/
theorem Padded.ofValues_eq_iff (padded : Padded frame.locals) :
    ofValues values stack = frame ↔ frame.localValues = values ∧ frame.stack = stack := by
  constructor
  · rintro rfl
    exact ⟨valuesFrom_slots values, rfl⟩
  · rintro ⟨rfl, rfl⟩
    exact padded.ofValues_localValues

theorem Padded.eq_iff (padded : Padded frame.locals) (previousPadded : Padded previous.locals) :
    frame = previous ↔
      frame.localValues = previous.localValues ∧ frame.stack = previous.stack := by
  rw [← padded.ofValues_eq_iff, previousPadded.ofValues_localValues, eq_comm]

end Values

/-! ## Decoding what was found -/

/-- Decoding the description of a frame gives the frame, or the frame with its stack emptied
where it was described relative to itself. -/
theorem applyDelta?_diff {frame : Frame} (previous : Frame)
    (rebuilt : ofValues frame.localValues frame.stack = frame) :
    previous.applyDelta? (frame.diff previous) =
      some (if frame = previous then { frame with stack := [] } else frame) := by
  have locals : frame.localValues.flatMap slots = frame.locals :=
    congrArg Frame.locals rebuilt
  have diffs := diffs_diff frame previous
  generalize frame.diff previous = delta at diffs ⊢
  cases diffs with
  | same equal =>
      subst equal
      rw [if_pos rfl, applyDelta?, ofValues, locals]
  | append different empty extended listed =>
      rw [if_neg different, applyDelta?, ← extended, ← empty, rebuilt]
  | chop different empty extended listed =>
      rw [if_neg different]
      simp only [applyDelta?, extended, List.length_append, Nat.le_add_left,
        Nat.add_sub_cancel, List.drop_left, List.take_left, and_self, ↓reduceIte]
      rw [← empty, rebuilt]
  | sameOneStack different single unchanged =>
      rw [if_neg different, applyDelta?, ← unchanged, ← single, rebuilt]
  | full different => rw [if_neg different, applyDelta?, rebuilt]

/-- Decoding loses a frame exactly where it has a stack and was described relative to itself. -/
theorem applyDelta?_diff_eq_some {frame : Frame} (previous : Frame)
    (rebuilt : ofValues frame.localValues frame.stack = frame) :
    previous.applyDelta? (frame.diff previous) = some frame ↔
      frame ≠ previous ∨ frame.stack = [] := by
  rw [applyDelta?_diff previous rebuilt]
  by_cases equal : frame = previous
  · rw [if_pos equal]
    subst equal
    obtain ⟨locals, stack⟩ := frame
    simp [eq_comm]
  · rw [if_neg equal]
    simp [equal]

/-- Decoding undoes `diff`: a frame with padded locals is found again from its description
relative to any frame whatsoever, unless it has values on the stack and was described relative to
itself. -/
theorem decode_diff_iff {frame : Frame} (padded : Padded frame.locals) (previous : Frame) :
    previous.applyDelta? (frame.diff previous) = some frame ↔
      frame ≠ previous ∨ frame.stack = [] :=
  applyDelta?_diff_eq_some previous padded.ofValues_localValues

/-- A frame with `top` slots of its own. -/
def loneTops : Frame := ⟨[.top, .double, .top, .top], []⟩

/-- A frame with a wide local that is not followed by `top`. -/
def unpadded : Frame := ⟨[.top, .double, .int .int], [.float]⟩

theorem decode_diff_of_loneTops :
    Padded loneTops.locals ∧ ¬ Padded unpadded.locals ∧
      loneTops.diff unpadded = .full [.top, .double, .top] [] ∧
      (unpadded.applyDelta? (loneTops.diff unpadded) = some loneTops ↔
        loneTops ≠ unpadded ∨ loneTops.stack = []) :=
  ⟨by decide, by decide, by decide, decode_diff_iff (by decide) unpadded⟩

/-! ## When each kind of description is found -/

section Found

variable {frame previous : Frame} {locals : List ValueType} {value : ValueType}

theorem diff_eq_same : frame.diff previous = .same ↔ frame = previous := by
  constructor
  · intro found
    have diffs := diffs_diff frame previous
    rw [found] at diffs
    cases diffs with
    | same equal => exact equal
  · rintro rfl
    simp [diff]

theorem diff_eq_append :
    frame.diff previous = .append locals ↔
      frame.stack = [] ∧ frame.localValues = previous.localValues ++ locals ∧
        1 ≤ locals.length ∧ locals.length ≤ 3 := by
  constructor
  · intro found
    have diffs := diffs_diff frame previous
    rw [found] at diffs
    cases diffs with
    | append different empty extended listed => exact ⟨empty, extended, listed⟩
  · rintro ⟨empty, extended, listed⟩
    have different : frame ≠ previous := by
      rintro rfl
      have longer := congrArg List.length extended
      rw [List.length_append] at longer
      omega
    have added : extension? previous.localValues frame.localValues = some locals :=
      extension?_eq_some.mpr ⟨extended, listed⟩
    simp only [diff, if_neg different, empty, added]

theorem diff_eq_chop :
    frame.diff previous = .chop locals ↔
      frame.stack = [] ∧ previous.localValues = frame.localValues ++ locals ∧
        1 ≤ locals.length ∧ locals.length ≤ 3 := by
  constructor
  · intro found
    have diffs := diffs_diff frame previous
    rw [found] at diffs
    cases diffs with
    | chop different empty extended listed => exact ⟨empty, extended, listed⟩
  · rintro ⟨empty, extended, listed⟩
    have longer := congrArg List.length extended
    rw [List.length_append] at longer
    have different : frame ≠ previous := by
      rintro rfl
      omega
    have notAdded : extension? previous.localValues frame.localValues = none := by
      rw [extension?, if_neg]
      rintro ⟨shorter, -⟩
      omega
    have removed : extension? frame.localValues previous.localValues = some locals :=
      extension?_eq_some.mpr ⟨extended, listed⟩
    simp only [diff, if_neg different, empty, notAdded, removed]

theorem diff_eq_sameOneStack :
    frame.diff previous = .sameOneStack value ↔
      frame ≠ previous ∧ frame.stack = [value] ∧ frame.localValues = previous.localValues := by
  constructor
  · intro found
    have diffs := diffs_diff frame previous
    rw [found] at diffs
    cases diffs with
    | sameOneStack different single unchanged => exact ⟨different, single, unchanged⟩
  · rintro ⟨different, single, unchanged⟩
    simp only [diff, if_neg different, single, unchanged, ↓reduceIte]

/-- Added and removed locals are described with an empty stack only. -/
theorem stack_of_diff
    (listed : frame.diff previous = .append locals ∨ frame.diff previous = .chop locals) :
    frame.stack = [] := by
  rcases listed with appended | chopped
  · exact (diff_eq_append.mp appended).1
  · exact (diff_eq_chop.mp chopped).1

end Found

/-! ## What each kind of description decodes to -/

section Decoded

variable {frame previous : Frame} {locals : List ValueType} {value : ValueType}

theorem applyDelta?_same (padded : Padded frame.locals) :
    previous.applyDelta? .same = some frame ↔
      frame.localValues = previous.localValues ∧ frame.stack = [] := by
  rw [applyDelta?, Option.some.injEq, padded.ofValues_eq_iff]

theorem applyDelta?_sameOneStack (padded : Padded frame.locals) :
    previous.applyDelta? (.sameOneStack value) = some frame ↔
      frame.localValues = previous.localValues ∧ frame.stack = [value] := by
  rw [applyDelta?, Option.some.injEq, padded.ofValues_eq_iff]

theorem applyDelta?_append (padded : Padded frame.locals) :
    previous.applyDelta? (.append locals) = some frame ↔
      frame.localValues = previous.localValues ++ locals ∧ frame.stack = [] := by
  rw [applyDelta?, Option.some.injEq, padded.ofValues_eq_iff]

/-- Only the last locals can be removed, and they have to be named as they are. -/
theorem applyDelta?_chop (padded : Padded frame.locals) :
    previous.applyDelta? (.chop locals) = some frame ↔
      previous.localValues = frame.localValues ++ locals ∧ frame.stack = [] := by
  constructor
  · intro decoded
    rw [applyDelta?] at decoded
    split at decoded
    · rename_i named
      obtain ⟨kept, empty⟩ := padded.ofValues_eq_iff.mp (Option.some.inj decoded)
      have cut := List.take_append_drop (previous.localValues.length - locals.length)
        previous.localValues
      rw [← kept, named.2] at cut
      exact ⟨cut.symm, empty⟩
    · cases decoded
  · rintro ⟨split, empty⟩
    have rebuilt := padded.ofValues_localValues
    rw [empty] at rebuilt
    simp [applyDelta?, split, rebuilt]

end Decoded

end Frame

/-! ## Compact descriptions -/

/-- A description that does not list the whole frame, and that adds or removes one to three locals
if it adds or removes any. -/
def FrameDelta.Compact : FrameDelta → Prop
  | .same => True
  | .sameOneStack _ => True
  | .append locals => 1 ≤ locals.length ∧ locals.length ≤ 3
  | .chop locals => 1 ≤ locals.length ∧ locals.length ≤ 3
  | .full _ _ => False

namespace Frame

theorem compact_or_full (frame previous : Frame) :
    (frame.diff previous).Compact ∨ ∃ locals stack, frame.diff previous = .full locals stack := by
  have diffs := diffs_diff frame previous
  generalize frame.diff previous = delta at diffs ⊢
  cases diffs with
  | same equal => exact .inl trivial
  | append different empty extended listed => exact .inl listed
  | chop different empty extended listed => exact .inl listed
  | sameOneStack different single unchanged => exact .inl trivial
  | full different => exact .inr ⟨_, _, rfl⟩

/-- A compact description decodes to a frame exactly if it is the one that `diff` finds. -/
theorem applyDelta?_eq_some_iff_diff {frame previous : Frame} {delta : FrameDelta}
    (padded : Padded frame.locals) (previousPadded : Padded previous.locals)
    (empty : previous.stack = []) (compact : delta.Compact) :
    previous.applyDelta? delta = some frame ↔ frame.diff previous = delta := by
  cases delta with
  | same =>
      rw [applyDelta?_same padded, diff_eq_same, padded.eq_iff previousPadded, empty]
  | sameOneStack value =>
      rw [applyDelta?_sameOneStack padded, diff_eq_sameOneStack]
      constructor
      · rintro ⟨unchanged, single⟩
        refine ⟨?_, single, unchanged⟩
        rintro rfl
        rw [empty] at single
        cases single
      · rintro ⟨-, single, unchanged⟩
        exact ⟨unchanged, single⟩
  | append locals =>
      rw [applyDelta?_append padded, diff_eq_append]
      constructor
      · rintro ⟨extended, noStack⟩
        exact ⟨noStack, extended, compact⟩
      · rintro ⟨noStack, extended, -⟩
        exact ⟨extended, noStack⟩
  | chop locals =>
      rw [applyDelta?_chop padded, diff_eq_chop]
      constructor
      · rintro ⟨extended, noStack⟩
        exact ⟨noStack, extended, compact⟩
      · rintro ⟨noStack, extended, -⟩
        exact ⟨extended, noStack⟩
  | full locals stack => cases compact

/-- Between frames with padded locals, the earlier one with an empty stack: a compact description
decodes to the later frame exactly if it is the one that `diff` finds, so there is at most one.
`diff` falls back to a full description exactly if there is none. -/
theorem diff_finds_compact {frame previous : Frame} (padded : Padded frame.locals)
    (previousPadded : Padded previous.locals) (empty : previous.stack = []) :
    (∀ delta : FrameDelta, delta.Compact →
      (previous.applyDelta? delta = some frame ↔ frame.diff previous = delta)) ∧
    ((∃ locals stack, frame.diff previous = .full locals stack) ↔
      ∀ delta : FrameDelta, delta.Compact → previous.applyDelta? delta ≠ some frame) := by
  have found : ∀ delta : FrameDelta, delta.Compact →
      (previous.applyDelta? delta = some frame ↔ frame.diff previous = delta) :=
    fun delta => applyDelta?_eq_some_iff_diff padded previousPadded empty
  refine ⟨found, ?_, ?_⟩
  · rintro ⟨locals, stack, full⟩ delta compact decoded
    have same := (found delta compact).mp decoded
    rw [full] at same
    rw [← same] at compact
    exact compact
  · intro none
    rcases compact_or_full frame previous with compact | full
    · exact absurd ((found _ compact).mpr rfl) (none _ compact)
    · exact full

/-- The frame `loneTops` with a wide local more. -/
def longAfterTops : Frame := ⟨[.top, .double, .top, .top, .long, .top], []⟩

theorem diff_finds_compact_of_longAfterTops :
    Padded loneTops.locals ∧ Padded longAfterTops.locals ∧ longAfterTops.stack = [] ∧
      loneTops.diff longAfterTops = .chop [.long] ∧
      (∀ delta : FrameDelta, delta.Compact →
        (longAfterTops.applyDelta? delta = some loneTops ↔
          loneTops.diff longAfterTops = delta)) ∧
      ((∃ locals stack, loneTops.diff longAfterTops = .full locals stack) ↔
        ∀ delta : FrameDelta, delta.Compact →
          longAfterTops.applyDelta? delta ≠ some loneTops) :=
  ⟨by decide, by decide, rfl, by decide, diff_finds_compact (by decide) (by decide) rfl⟩

/-! ## Added locals and removed locals -/

/-- Between frames with empty stacks, locals are added one way exactly if the same locals are
removed the other way. Where the locals are padded, adding any number of locals and removing them
again gives the frame back. -/
theorem append_chop_dual (frame other : Frame) (empty : frame.stack = [])
    (otherEmpty : other.stack = []) (locals : List ValueType) :
    (other.diff frame = .append locals ↔ frame.diff other = .chop locals) ∧
      (Padded frame.locals → ∃ longer, frame.applyDelta? (.append locals) = some longer ∧
        longer.applyDelta? (.chop locals) = some frame) := by
  constructor
  · rw [diff_eq_append, diff_eq_chop, empty, otherEmpty]
  · intro padded
    refine ⟨ofValues (frame.localValues ++ locals) [], rfl, ?_⟩
    have values : (ofValues (frame.localValues ++ locals) []).localValues =
        frame.localValues ++ locals := valuesFrom_slots _
    exact (applyDelta?_chop padded).mpr ⟨values, empty⟩

/-- One more wide local can be described in both directions. Five more, some of them wide or
unusable, are too many for `diff`, and are still added and removed. -/
theorem append_chop_dual_of_loneTops :
    loneTops.stack = [] ∧ longAfterTops.stack = [] ∧ Padded loneTops.locals ∧
      longAfterTops.diff loneTops = .append [.long] ∧
      (longAfterTops.diff loneTops = .append [.long] ↔
        loneTops.diff longAfterTops = .chop [.long]) ∧
      ∃ longer,
        loneTops.applyDelta? (.append [.long, .top, .int .int, .double, .float]) = some longer ∧
        longer.applyDelta? (.chop [.long, .top, .int .int, .double, .float]) = some loneTops :=
  ⟨rfl, rfl, by decide, by decide, (append_chop_dual loneTops longAfterTops rfl rfl [.long]).1,
    (append_chop_dual loneTops longAfterTops rfl rfl _).2 (by decide)⟩

end Frame

end TypedBytecode
