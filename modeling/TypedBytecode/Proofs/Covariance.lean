import TypedBytecode.ClassGraph.Assignable

/-!
Contract: assignability of array types, component by component.

Owns:
- `RefType.isJavaAssignable`, the rule as the machine states it: arrays are compared by their
  components, and components that are arrays again in the same way;
- opening an array type as the inverse of building one;
- the agreement of the rule with the comparison of flat types.

Does not own: which classes are assignable to each other.
-/

namespace TypedBytecode

namespace RefType

/-- Number of dimensions, none for an object. -/
def dimensions : RefType → Nat
  | .object _ => 0
  | .objectArray extra _ => extra + 1
  | .primitiveArray extra _ => extra + 1

theorem component?_array (component : FieldType) :
    (array component).component? = some component := by
  rcases component with element | (name | ⟨extra, element⟩ | ⟨extra, element⟩) <;> rfl

theorem component?_eq_some {type : RefType} {component : FieldType} :
    type.component? = some component ↔ type = array component := by
  constructor
  · intro opened
    rcases type with name | ⟨_ | extra, element⟩ | ⟨_ | extra, element⟩
    · cases opened
    all_goals
      cases opened
      rfl
  · rintro rfl
    exact component?_array component

/-- A reference that is no object is an array of something. -/
theorem exists_array {type : RefType} (notObject : ∀ name, type = object name → False) :
    ∃ component, type = array component := by
  rcases opened : type.component? with _ | component
  · rcases type with name | ⟨_ | extra, element⟩ | ⟨_ | extra, element⟩
    · exact (notObject name rfl).elim
    all_goals cases opened
  · exact ⟨component, component?_eq_some.mp opened⟩

theorem dimensions_array (component : RefType) :
    (array (.reference component)).dimensions = component.dimensions + 1 := by
  cases component <;> rfl

theorem dimensions_lt_of_component? {type component : RefType}
    (opened : type.component? = some (.reference component)) :
    component.dimensions < type.dimensions := by
  rw [component?_eq_some.mp opened, dimensions_array]
  omega

/-! ## The rule by components -/

/-- The classes, by name, to which every array is assignable. -/
def arraySupertypes : List String :=
  ["java/lang/Object", "java/lang/Cloneable", "java/io/Serializable"]

/-- When a reference can be used as another. Objects go by their classes, an array is an object of
three classes, no object is an array, and arrays go by their components: primitive ones have to be
the same, references follow this rule again. -/
def isJavaAssignable (graph : ClassGraph) (sub super : RefType) : Bool :=
  match sub, super with
  | .object subName, .object superName => graph.classAssignable subName superName
  | _, .object superName => arraySupertypes.contains superName.text
  | .object _, _ => false
  | subArray, superArray =>
    match _opened : subArray.component?, superArray.component? with
    | some (.primitive subComponent), some (.primitive superComponent) =>
      subComponent == superComponent
    | some (.reference subComponent), some (.reference superComponent) =>
      isJavaAssignable graph subComponent superComponent
    | _, _ => false
termination_by sub.dimensions
decreasing_by exact dimensions_lt_of_component? _opened

/-! ## The rule on flat types -/

section Flat

variable (graph : ClassGraph)

theorem isArraySupertype_eq (name : ClassName) :
    name.isArraySupertype = arraySupertypes.contains name.text := by
  obtain ⟨text⟩ := name
  simp [ClassName.isArraySupertype, ClassName.object, ClassName.cloneable,
    ClassName.serializable, arraySupertypes, Bool.or_assoc, Bool.beq_eq_decide_eq]

theorem assignable_object_of_array (component : FieldType) (super : ClassName) :
    (array component).assignable graph (.object super) = super.isArraySupertype := by
  rcases component with element | (name | ⟨extra, element⟩ | ⟨extra, element⟩) <;> rfl

theorem assignable_array_of_object (sub : ClassName) (component : FieldType) :
    (object sub).assignable graph (array component) = false := by
  rcases component with element | (name | ⟨extra, element⟩ | ⟨extra, element⟩) <;> rfl

theorem assignable_of_primitives (sub super : Primitive) :
    (array (.primitive sub)).assignable graph (array (.primitive super)) = (sub == super) :=
  rfl

/-- One dimension less on both sides changes nothing. -/
theorem assignable_of_references (sub super : RefType) :
    (array (.reference sub)).assignable graph (array (.reference super)) =
      sub.assignable graph super := by
  cases sub <;> cases super <;> simp [array, assignable]

theorem assignable_of_primitive_reference (sub : Primitive) (super : RefType) :
    (array (.primitive sub)).assignable graph (array (.reference super)) = false := by
  cases super <;> simp [array, assignable]

theorem assignable_of_reference_primitive (sub : RefType) (super : Primitive) :
    (array (.reference sub)).assignable graph (array (.primitive super)) = false := by
  cases sub <;> simp [array, assignable]

end Flat

/-- The comparison of flat types, which counts dimensions and never opens an array, decides the
rule by components, in every class graph and for arrays of any depth. -/
theorem assignable_eq_isJavaAssignable (graph : ClassGraph) (sub super : RefType) :
    sub.assignable graph super = isJavaAssignable graph sub super := by
  fun_induction isJavaAssignable graph sub super with
  | case1 subName superName => rfl
  | case2 sub superName notObject =>
      obtain ⟨component, rfl⟩ := exists_array notObject
      rw [assignable_object_of_array, isArraySupertype_eq]
  | case3 super subName notObject =>
      obtain ⟨component, rfl⟩ := exists_array notObject
      exact assignable_array_of_object graph subName component
  | case4 sub super _ _ _ subComponent superComponent subOpened superOpened =>
      rw [component?_eq_some.mp subOpened, component?_eq_some.mp superOpened]
      exact assignable_of_primitives graph subComponent superComponent
  | case5 sub super _ _ _ subComponent superComponent subOpened superOpened agrees =>
      rw [component?_eq_some.mp subOpened, component?_eq_some.mp superOpened,
        assignable_of_references]
      exact agrees
  | case6 sub super _ superNotObject subNotObject notPrimitives notReferences =>
      -- One component is primitive and the other is a reference.
      obtain ⟨subComponent, rfl⟩ := exists_array subNotObject
      obtain ⟨superComponent, rfl⟩ := exists_array superNotObject
      have subOpened := component?_array subComponent
      have superOpened := component?_array superComponent
      rcases subComponent with subElement | subComponent <;>
        rcases superComponent with superElement | superComponent
      · exact (notPrimitives subElement superElement subOpened superOpened).elim
      · exact assignable_of_primitive_reference graph subElement superComponent
      · exact assignable_of_reference_primitive graph subComponent superElement
      · exact (notReferences subComponent superComponent subOpened superOpened).elim

/-- A matrix of integers is an array of objects, and a row of it is not. -/
example :
    (primitiveArray 1 .int).assignable .empty (objectArray 0 .object) = true ∧
      (primitiveArray 0 .int).assignable .empty (objectArray 0 .object) = false := by
  decide

end RefType

end TypedBytecode
