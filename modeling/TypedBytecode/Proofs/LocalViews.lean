import TypedBytecode.Proofs.Delta

/-!
Contract: the locals of a frame by slot and by value, as two views of one list.

Owns:
- adding a local and ending the last one, each said of the values;
- the correspondence: values can always be read back from their slots, slots can be put together
  from their values exactly if they are padded, and on padded slots a local is added and ended at
  the end of the values.

Does not own: which frames have padded locals.
-/

namespace TypedBytecode.Frame

section Views

variable {frame : Frame}

/-- A local that is added comes behind the slots of all values before it. -/
theorem Padded.pushLocal_eq (padded : Padded frame.locals) (value : ValueType) :
    frame.pushLocal value = ofValues (frame.localValues ++ [value]) frame.stack := by
  have laid : frame.localValues.flatMap slots = frame.locals := padded.slots_valuesFrom
  rw [ofValues, List.flatMap_append, laid, pushLocal, pushLocals]

theorem localValues_ofValues (values stack : List ValueType) :
    (ofValues values stack).localValues = values :=
  valuesFrom_slots values

/-- Of values that are laid out the last one ends, and the others stay laid out. -/
theorem popLocal?_ofValues (values stack : List ValueType) :
    (ofValues values stack).popLocal? =
      values.getLast?.map (fun last => (last, ofValues values.dropLast stack)) := by
  rcases List.eq_nil_or_concat values with rfl | ⟨front, last, rfl⟩
  · rfl
  · rw [List.concat_eq_append, List.getLast?_concat, List.dropLast_concat]
    exact popLocal?_slots front last stack

theorem Padded.popLocal?_eq (padded : Padded frame.locals) :
    frame.popLocal? =
      frame.localValues.getLast?.map
        (fun last => (last, ofValues frame.localValues.dropLast frame.stack)) := by
  have popped := popLocal?_ofValues frame.localValues frame.stack
  rwa [padded.ofValues_localValues] at popped

theorem Padded.popLocal?_pushLocal (padded : Padded frame.locals) (value : ValueType) :
    (frame.pushLocal value).popLocal? = some (value, frame) := by
  rw [padded.pushLocal_eq, popLocal?_ofValues, List.getLast?_concat, List.dropLast_concat,
    Option.map_some, padded.ofValues_localValues]

end Views

/-- The locals by slot and by value. Laying out values, with `top` anywhere among them, and reading
them back gives the values. Reading slots and laying them out again gives the slots exactly if
every wide local is followed by `top`. On such slots, adding a local adds its value at the end,
ending a local removes the last value and answers with it, if there is one, and both leave such
slots. Ending a local that was just added gives the frame back. -/
theorem slots_and_values_correspond :
    (∀ values stack : List ValueType, (ofValues values stack).localValues = values) ∧
    (∀ frame : Frame,
      (ofValues frame.localValues frame.stack).locals = frame.locals ↔ Padded frame.locals) ∧
    ∀ frame : Frame, Padded frame.locals →
      (∀ value, (frame.pushLocal value).localValues = frame.localValues ++ [value] ∧
        Padded (frame.pushLocal value).locals) ∧
      frame.popLocal?.map Prod.fst = frame.localValues.getLast? ∧
      (∀ value rest, frame.popLocal? = some (value, rest) →
        rest.localValues = frame.localValues.dropLast ∧ Padded rest.locals ∧
          rest.stack = frame.stack) ∧
      ∀ value, (frame.pushLocal value).popLocal? = some (value, frame) := by
  refine ⟨localValues_ofValues, fun frame => padded_iff_slots_valuesFrom.symm, ?_⟩
  intro frame padded
  refine ⟨?_, ?_, ?_, padded.popLocal?_pushLocal⟩
  · intro value
    rw [padded.pushLocal_eq value, localValues_ofValues]
    exact ⟨rfl, padded_slots _⟩
  · rw [padded.popLocal?_eq, Option.map_map]
    exact Option.map_id'
  · intro value rest popped
    rw [padded.popLocal?_eq] at popped
    have split := Option.map_eq_some_iff.mp popped
    obtain ⟨last, isLast, same⟩ := split
    cases same
    exact ⟨localValues_ofValues _ _, padded_slots _, rfl⟩

/-- A frame whose locals are a wide value, a `top` of its own and another wide value. -/
def topBetweenWides : Frame := ⟨[.long, .top, .top, .double, .top], [.float]⟩

theorem slots_and_values_correspond_between_wides :
    Padded topBetweenWides.locals ∧ topBetweenWides.localValues = [.long, .top, .double] ∧
      topBetweenWides.popLocal? = some (.double, ⟨[.long, .top, .top], [.float]⟩) ∧
      (∀ value, (topBetweenWides.pushLocal value).localValues =
          topBetweenWides.localValues ++ [value] ∧
        Padded (topBetweenWides.pushLocal value).locals) ∧
      topBetweenWides.popLocal?.map Prod.fst = topBetweenWides.localValues.getLast? ∧
      (∀ value rest, topBetweenWides.popLocal? = some (value, rest) →
        rest.localValues = topBetweenWides.localValues.dropLast ∧ Padded rest.locals ∧
          rest.stack = topBetweenWides.stack) ∧
      ∀ value, (topBetweenWides.pushLocal value).popLocal? = some (value, topBetweenWides) :=
  ⟨by decide, by decide, by decide,
    slots_and_values_correspond.2.2 topBetweenWides (by decide)⟩

end TypedBytecode.Frame
