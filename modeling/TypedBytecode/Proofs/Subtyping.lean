import TypedBytecode.Proofs.Covariance
import TypedBytecode.Proofs.Growth
import TypedBytecode.Proofs.Machine
import TypedBytecode.Proofs.Reachability
import TypedBytecode.Proofs.ScriptInvariant
import Mathlib.Algebra.Order.BigOperators.Group.List
import Mathlib.Algebra.Order.Group.Nat

/-!
Contract: assignability as an order on the types of values.

Owns:
- `ClassGraph.Built`: the graphs that programs build on the standard classes, with every class
  below classes that were there before and every interface directly below the root class;
- `ClassGraph.Hierarchy`: what building a graph keeps, and all that the order needs;
- the order on classes, where the way to an interface has more steps than the way to a class;
- the order on arrays, layer by layer, and on all types of values.

Does not own: how the walk through a graph decides that one class is above another.
-/

namespace TypedBytecode

namespace ClassGraph

/-! ## Graphs that are built -/

/-- Graphs made of the standard classes and of what programs and scripts add to them. A class is
added with a superclass and interfaces that are in the graph, an interface below the root class. -/
inductive Built : ClassGraph → Prop where
  | standard : Built Standard.graph
  | insert {graph : ClassGraph} {entry : ClassEntry} {superclass : ClassName}
      (built : Built graph) (extended : entry.superclass = some superclass)
      (below : ∀ name ∈ entry.parents, graph.contains name = true)
      (rooted : entry.isInterface = true → superclass = .object) : Built (graph.insert entry)
  | addField {graph : ClassGraph} (built : Built graph) (field : Field) :
      Built (graph.addField field).2
  | addMethod {graph : ClassGraph} (built : Built graph) (method : Method) :
      Built (graph.addMethod method).2
  | script {graph : ClassGraph} (built : Built graph) (source : String) :
      Built (Script.assemble graph source).2

/-- Where a class stands: below classes of the graph that rank lower. All but the root class have
a superclass. Interfaces and the classes that arrays are assignable to have nothing but the root
class for one. -/
structure Placed (graph : ClassGraph) (rank : ClassName → Nat) (entry : ClassEntry) : Prop where
  ranked : ∀ name ∈ entry.parents, rank name < rank entry.name
  below : ∀ name ∈ entry.parents, graph.contains name = true
  extended : entry.name ≠ .object → entry.superclass.isSome = true
  interface : entry.isInterface = true → entry.superclass = some .object
  arrays : entry.name.isArraySupertype = true → ∀ name ∈ entry.parents, name = .object

instance (graph : ClassGraph) (rank : ClassName → Nat) (entry : ClassEntry) :
    Decidable (graph.Placed rank entry) :=
  decidable_of_iff
    ((∀ name ∈ entry.parents, rank name < rank entry.name) ∧
      (∀ name ∈ entry.parents, graph.contains name = true) ∧
      (entry.name ≠ .object → entry.superclass.isSome = true) ∧
      (entry.isInterface = true → entry.superclass = some .object) ∧
      (entry.name.isArraySupertype = true → ∀ name ∈ entry.parents, name = .object))
    ⟨fun ⟨ranked, below, extended, interface, arrays⟩ =>
        ⟨ranked, below, extended, interface, arrays⟩,
      fun placed =>
        ⟨placed.ranked, placed.below, placed.extended, placed.interface, placed.arrays⟩⟩

/-- All classes have their place, and the classes that arrays are assignable to are there. -/
structure Hierarchy (graph : ClassGraph) : Prop where
  placed : ∃ rank, ∀ entry ∈ graph.entries, graph.Placed rank entry
  arrays : ∀ name : ClassName, name.isArraySupertype = true → graph.contains name = true

section Building

variable {graph later : ClassGraph} {entry old : ClassEntry} {superclass : ClassName}
  {rank : ClassName → Nat}

/-- A class keeps its place when members are added to it, and others to the graph. -/
theorem Placed.growsTo (placed : graph.Placed rank old) (keeps : graph.Extends later)
    (grows : old.GrowsTo entry) : later.Placed rank entry where
  ranked := by
    rw [grows.parents, grows.name]
    exact placed.ranked
  below := by
    rw [grows.parents]
    intro name above
    exact keeps.contains (placed.below name above)
  extended := by
    rw [grows.name, grows.superclass]
    exact placed.extended
  interface := by
    rw [ClassEntry.isInterface, grows.flags, grows.superclass]
    exact placed.interface
  arrays := by
    rw [grows.name, grows.parents]
    exact placed.arrays

namespace Hierarchy

theorem standard : Standard.graph.Hierarchy where
  placed := ⟨fun name => Standard.classes.findIdx (fun entry => entry.name == name),
    by decide +kernel⟩
  arrays := by
    intro name isSupertype
    simp only [ClassName.isArraySupertype, Bool.or_eq_true, beq_iff_eq] at isSupertype
    rcases isSupertype with (rfl | rfl) | rfl <;> decide +kernel

/-- A new class ranks above all that it lies below, and what was there keeps its rank. -/
theorem insert (hierarchy : graph.Hierarchy) (extended : entry.superclass = some superclass)
    (below : ∀ name ∈ entry.parents, graph.contains name = true)
    (rooted : entry.isInterface = true → superclass = .object) :
    (graph.insert entry).Hierarchy := by
  by_cases known : graph.contains entry.name = true
  · rwa [insert_of_contains known]
  have keeps := extends_insert graph entry
  obtain ⟨rank, placed⟩ := hierarchy.placed
  let newRank : ClassName → Nat := fun name =>
    if name = entry.name then (entry.parents.map rank).sum + 1 else rank name
  have added : newRank entry.name = (entry.parents.map rank).sum + 1 := if_pos rfl
  have unchanged : ∀ name, graph.contains name = true → newRank name = rank name := by
    intro name isKnown
    apply if_neg
    rintro rfl
    exact known isKnown
  refine ⟨⟨newRank, ?_⟩, fun name isSupertype => keeps.contains (hierarchy.arrays name isSupertype)⟩
  rw [insert_of_missing known] at keeps ⊢
  rw [List.forall_mem_cons]
  constructor
  · refine ⟨?_, fun name above => keeps.contains (below name above), ?_, ?_, ?_⟩
    · intro name above
      have bounded : rank name ≤ (entry.parents.map rank).sum :=
        List.le_sum_of_mem (List.mem_map_of_mem above)
      rw [unchanged name (below name above), added]
      omega
    · intro _
      rw [extended, Option.isSome_some]
    · intro isInterface
      rw [extended, rooted isInterface]
    · intro isSupertype
      exact absurd (hierarchy.arrays entry.name isSupertype) known
  · intro other member
    have stands := placed other member
    refine { stands.growsTo keeps (.refl other) with ranked := ?_ }
    intro name above
    rw [unchanged name (stands.below name above), unchanged other.name (contains_of_mem member)]
    exact stands.ranked name above

/-- Members do not change where a class stands. -/
theorem declares (hierarchy : graph.Hierarchy) (declares : graph.Declares later) :
    later.Hierarchy := by
  cases declares with
  | nothing => exact hierarchy
  | @changed name change grows keyed =>
      have keeps : graph.Extends (graph.modify name change) := extends_modify grows
      obtain ⟨rank, placed⟩ := hierarchy.placed
      refine ⟨⟨rank, ?_⟩, fun name isSupertype => keeps.contains (hierarchy.arrays name isSupertype)⟩
      intro entry member
      obtain ⟨old, inGraph, rfl⟩ := List.mem_map.mp member
      apply (placed old inGraph).growsTo keeps
      split
      · exact grows old
      · exact .refl old

/-- Scripts add classes directly below the root class. -/
theorem stable : Script.Stable Hierarchy where
  insert graph name isInterface rooted hierarchy := by
    refine hierarchy.insert rfl ?_ (fun _ => rfl)
    simpa [ClassEntry.parents, Script.Resolving.mentionedClass] using rooted
  addField graph field hierarchy := hierarchy.declares (graph.declares_addField field)
  addMethod graph method hierarchy := hierarchy.declares (graph.declares_addMethod method)

end Hierarchy

theorem Built.hierarchy (built : graph.Built) : graph.Hierarchy := by
  induction built with
  | standard => exact .standard
  | insert _ extended below rooted inductionHypothesis =>
      exact inductionHypothesis.insert extended below rooted
  | addField _ field inductionHypothesis =>
      exact Hierarchy.stable.addField _ field inductionHypothesis
  | addMethod _ method inductionHypothesis =>
      exact Hierarchy.stable.addMethod _ method inductionHypothesis
  | script _ source inductionHypothesis =>
      exact Hierarchy.stable.assemble inductionHypothesis source

end Building

/-! ## Classes -/

section Classes

variable {graph : ClassGraph} {name above first second third : ClassName}
  {throughInterfaces : Bool}

theorem Above.through (step : graph.Above throughInterfaces name above) :
    graph.Above true name above := by
  rcases step with ⟨found, listed⟩ | ⟨found, -, listed⟩
  · exact .superclass found listed
  · exact .interface found rfl listed

theorem Reachable.through (reachable : graph.Reachable throughInterfaces first second) :
    graph.Reachable true first second :=
  Relation.ReflTransGen.mono (fun _ _ => Above.through) _ _ reachable

/-- Whatever is one step above a class is listed by its entry. -/
theorem Above.entry (step : graph.Above throughInterfaces name above) :
    ∃ entry ∈ graph.entries, entry.name = name ∧ above ∈ entry.parents := by
  rcases step with ⟨found, listed⟩ | ⟨found, -, listed⟩
  · obtain ⟨member, named⟩ := mem_of_find? found
    exact ⟨_, member, named, List.mem_append_left _ (Option.mem_toList.mpr listed)⟩
  · obtain ⟨member, named⟩ := mem_of_find? found
    exact ⟨_, member, named, List.mem_append_right _ listed⟩

namespace Hierarchy

/-- The root class, and what arrays are assignable to, has nothing but the root class above. -/
theorem above_array (hierarchy : graph.Hierarchy) (isSupertype : name.isArraySupertype = true)
    (step : graph.Above throughInterfaces name above) : above = .object := by
  obtain ⟨rank, placed⟩ := hierarchy.placed
  obtain ⟨entry, member, rfl, listed⟩ := step.entry
  exact (placed entry member).arrays isSupertype above listed

theorem not_above_object (hierarchy : graph.Hierarchy) :
    ¬ graph.Above throughInterfaces .object above := by
  intro step
  obtain rfl : above = .object := hierarchy.above_array rfl step
  obtain ⟨rank, placed⟩ := hierarchy.placed
  obtain ⟨entry, member, named, listed⟩ := step.entry
  have lower := (placed entry member).ranked .object listed
  rw [named] at lower
  exact lt_irrefl _ lower

theorem eq_object_of_reachable (hierarchy : graph.Hierarchy)
    (reachable : graph.Reachable throughInterfaces .object above) : above = .object := by
  rcases Relation.ReflTransGen.cases_head reachable with same | ⟨_, step, -⟩
  · exact same.symm
  · exact absurd step hierarchy.not_above_object

/-- Every class of the graph comes to the root class by superclasses alone. -/
theorem reaches_object (hierarchy : graph.Hierarchy) (known : graph.contains name = true) :
    graph.Reachable false name .object := by
  obtain ⟨rank, placed⟩ := hierarchy.placed
  induction ranks : rank name using Nat.strong_induction_on generalizing name with
  | _ height inductionHypothesis =>
      by_cases isRoot : name = .object
      · rw [isRoot]
      · obtain ⟨entry, found⟩ := contains_iff.mp known
        obtain ⟨member, rfl⟩ := mem_of_find? found
        have stands := placed entry member
        obtain ⟨superclass, extended⟩ := Option.isSome_iff_exists.mp (stands.extended isRoot)
        have listed : superclass ∈ entry.parents :=
          List.mem_append_left _ (Option.mem_toList.mpr extended)
        have lower : rank superclass < height := ranks ▸ stands.ranked superclass listed
        exact .head (.superclass found extended)
          (inductionHypothesis _ lower (stands.below superclass listed) rfl)

/-- An interface has no superclass but the root class. -/
theorem above_interface (hierarchy : graph.Hierarchy) (isInterface : graph.isInterface name = true)
    (step : graph.Above false name above) : above = .object := by
  obtain ⟨rank, placed⟩ := hierarchy.placed
  rcases step with @⟨entry, found, listed⟩ | ⟨-, allowed, -⟩
  · rw [ClassGraph.isInterface, found, Option.any_some] at isInterface
    have rooted := (placed entry (mem_of_find? found).1).interface isInterface
    rw [listed] at rooted
    exact Option.some.inj rooted
  · cases allowed

/-- From an interface the walk to a class that is none ends at the root class. -/
theorem eq_object_of_interface (hierarchy : graph.Hierarchy)
    (isInterface : graph.isInterface first = true) (isClass : graph.isInterface second = false)
    (reachable : graph.Reachable false first second) : second = .object := by
  rcases Relation.ReflTransGen.cases_head reachable with rfl | ⟨above, step, further⟩
  · rw [isInterface] at isClass
    cases isClass
  · obtain rfl := hierarchy.above_interface isInterface step
    exact hierarchy.eq_object_of_reachable further

theorem classAssignable_trans (hierarchy : graph.Hierarchy)
    (below : graph.classAssignable first second = true)
    (further : graph.classAssignable second third = true) :
    graph.classAssignable first third = true := by
  rw [classAssignable_iff] at below further ⊢
  cases thirdKind : graph.isInterface third with
  | true =>
      rw [thirdKind] at further
      exact below.through.trans further
  | false =>
      rw [thirdKind] at further
      cases secondKind : graph.isInterface second with
      | false =>
          rw [secondKind] at below
          exact below.trans further
      | true =>
          -- The way to the interface in the middle is of no use: it need not be by superclasses.
          obtain rfl := hierarchy.eq_object_of_interface secondKind thirdKind further
          rcases Relation.ReflTransGen.cases_head below with rfl | ⟨above, step, -⟩
          · exact further
          · obtain ⟨entry, member, rfl, -⟩ := step.entry
            exact hierarchy.reaches_object (contains_of_mem member)

theorem rank_le {rank : ClassName → Nat}
    (placed : ∀ entry ∈ graph.entries, graph.Placed rank entry)
    (reachable : graph.Reachable throughInterfaces first second) : rank second ≤ rank first := by
  induction reachable with
  | refl => exact le_refl _
  | tail _ step inductionHypothesis =>
      obtain ⟨entry, member, rfl, listed⟩ := step.entry
      exact ((placed entry member).ranked _ listed).le.trans inductionHypothesis

theorem classAssignable_antisymm (hierarchy : graph.Hierarchy)
    (below : graph.classAssignable first second = true)
    (back : graph.classAssignable second first = true) : first = second := by
  rw [classAssignable_iff] at below back
  obtain ⟨rank, placed⟩ := hierarchy.placed
  rcases Relation.ReflTransGen.cases_head below with same | ⟨above, step, further⟩
  · exact same
  · obtain ⟨entry, member, rfl, listed⟩ := step.entry
    have lower := (placed entry member).ranked above listed
    have bounded := rank_le placed further
    have boundedBack := rank_le placed back
    omega

theorem isArraySupertype_of_above (hierarchy : graph.Hierarchy)
    (isSupertype : first.isArraySupertype = true)
    (below : graph.classAssignable first second = true) : second.isArraySupertype = true := by
  rw [classAssignable_iff] at below
  rcases Relation.ReflTransGen.cases_head below with rfl | ⟨above, step, further⟩
  · exact isSupertype
  · obtain rfl := hierarchy.above_array isSupertype step
    rw [hierarchy.eq_object_of_reachable further]
    rfl

end Hierarchy

end Classes

end ClassGraph

/-! ## References -/

namespace RefType

/-- Induction over the layers of a reference type. -/
@[elab_as_elim]
theorem layerInduction {motive : RefType → Prop} (object : ∀ name, motive (.object name))
    (primitives : ∀ element, motive (array (.primitive element)))
    (references : ∀ component, motive component → motive (array (.reference component)))
    (type : RefType) : motive type := by
  cases type with
  | object name => exact object name
  | objectArray extra name =>
      induction extra with
      | zero => exact references _ (object name)
      | succ extra inductionHypothesis => exact references _ inductionHypothesis
  | primitiveArray extra element =>
      induction extra with
      | zero => exact primitives element
      | succ extra inductionHypothesis => exact references _ inductionHypothesis

section Order

variable {graph : ClassGraph} {first second third : RefType} {component : FieldType}

theorem assignable_refl (graph : ClassGraph) (type : RefType) :
    type.assignable graph type = true := by
  induction type using layerInduction with
  | object name => exact ClassGraph.classAssignable_iff.mpr .refl
  | primitives element => rw [assignable_of_primitives, beq_self_eq_true]
  | references component inductionHypothesis =>
      rw [assignable_of_references]
      exact inductionHypothesis

/-- Only objects are assignable from objects. -/
theorem exists_object_of_assignable {name : ClassName}
    (below : (object name).assignable graph second = true) :
    ∃ super, second = object super ∧ graph.classAssignable name super = true := by
  induction second using layerInduction with
  | object super => exact ⟨super, rfl, below⟩
  | primitives element =>
      rw [assignable_array_of_object] at below
      cases below
  | references component =>
      rw [assignable_array_of_object] at below
      cases below

/-- What an object of an array's class is assignable to, the array is. -/
theorem assignable_of_array_object (hierarchy : graph.Hierarchy) {name : ClassName}
    (below : (array component).assignable graph (object name) = true)
    (further : (object name).assignable graph third = true) :
    (array component).assignable graph third = true := by
  obtain ⟨super, rfl, above⟩ := exists_object_of_assignable further
  rw [assignable_object_of_array] at below ⊢
  exact hierarchy.isArraySupertype_of_above below above

theorem assignable_trans (hierarchy : graph.Hierarchy)
    (below : first.assignable graph second = true)
    (further : second.assignable graph third = true) : first.assignable graph third = true := by
  induction first using layerInduction generalizing second third with
  | object name =>
      obtain ⟨middle, rfl, belowMiddle⟩ := exists_object_of_assignable below
      obtain ⟨super, rfl, aboveMiddle⟩ := exists_object_of_assignable further
      exact hierarchy.classAssignable_trans belowMiddle aboveMiddle
  | primitives element =>
      induction second using layerInduction with
      | object name => exact assignable_of_array_object hierarchy below further
      | primitives other =>
          rw [assignable_of_primitives, beq_iff_eq] at below
          rw [below]
          exact further
      | references component =>
          rw [assignable_of_primitive_reference] at below
          cases below
  | references component inductionHypothesis =>
      induction second using layerInduction with
      | object name => exact assignable_of_array_object hierarchy below further
      | primitives other =>
          rw [assignable_of_reference_primitive] at below
          cases below
      | references middle =>
          rw [assignable_of_references] at below
          induction third using layerInduction with
          | object name =>
              rw [assignable_object_of_array] at further ⊢
              exact further
          | primitives other =>
              rw [assignable_of_reference_primitive] at further
              cases further
          | references super =>
              rw [assignable_of_references] at further ⊢
              exact inductionHypothesis below further

theorem assignable_antisymm (hierarchy : graph.Hierarchy)
    (below : first.assignable graph second = true)
    (back : second.assignable graph first = true) : first = second := by
  induction first using layerInduction generalizing second with
  | object name =>
      obtain ⟨super, rfl, above⟩ := exists_object_of_assignable below
      rw [hierarchy.classAssignable_antisymm above back]
  | primitives element =>
      induction second using layerInduction with
      | object name =>
          rw [assignable_array_of_object] at back
          cases back
      | primitives other =>
          rw [assignable_of_primitives, beq_iff_eq] at below
          rw [below]
      | references component =>
          rw [assignable_of_primitive_reference] at below
          cases below
  | references component inductionHypothesis =>
      induction second using layerInduction with
      | object name =>
          rw [assignable_array_of_object] at back
          cases back
      | primitives other =>
          rw [assignable_of_reference_primitive] at below
          cases below
      | references super =>
          rw [assignable_of_references] at below back
          rw [inductionHypothesis below back]

/-- In every graph that is built on the standard classes, a reference can be used as another type
exactly when it can be assigned to it at once. -/
theorem usable_iff_assignable (built : graph.Built) :
    first.Usable graph second ↔ first.assignable graph second = true := by
  have transitive : IsTrans RefType (fun sub super => sub.assignable graph super = true) :=
    ⟨fun _ _ _ => assignable_trans built.hierarchy⟩
  rw [Usable, Relation.transGen_eq_self]

end Order

end RefType

/-! ## Values -/

namespace ValueType

/-- How one type can stand for another: as itself, as the `int` that an integer kind is held as, or
as a reference that is above. -/
inductive Below (graph : ClassGraph) : ValueType → ValueType → Prop where
  | same {type : ValueType} (usable : type ≠ .top) : Below graph type type
  | widened (kind : IntKind) : Below graph (.int kind) (.int .int)
  | reference {sub super : RefType} (fits : sub.assignable graph super = true) :
      Below graph (.reference sub) (.reference super)

section Order

variable {graph : ClassGraph} {first second third : ValueType}

theorem below_of_assignable (fits : first.assignable graph second = true) :
    Below graph first second := by
  cases first with
  | int sub =>
      cases second with
      | int super =>
          simp only [assignable, Bool.or_eq_true, beq_iff_eq] at fits
          rcases fits with rfl | rfl
          · exact .widened sub
          · exact .same (by simp)
      | _ => cases fits
  | reference sub =>
      cases second with
      | reference super => exact .reference fits
      | _ => cases fits
  | top => cases fits
  | _ =>
      cases second <;> cases fits
      exact .same (by simp)

theorem Below.assignable (below : Below graph first second) :
    first.assignable graph second = true := by
  cases below with
  | same usable =>
      cases first with
      | int kind => simp [ValueType.assignable]
      | reference type => exact type.assignable_refl graph
      | top => exact absurd rfl usable
      | _ => rfl
  | widened kind => rfl
  | reference fits => exact fits

theorem Below.trans (hierarchy : graph.Hierarchy) (below : Below graph first second)
    (further : Below graph second third) : Below graph first third := by
  cases below with
  | same => exact further
  | widened kind =>
      cases further with
      | same => exact .widened kind
      | widened => exact .widened kind
  | reference fits =>
      cases further with
      | same => exact .reference fits
      | reference fitsOn => exact .reference (RefType.assignable_trans hierarchy fits fitsOn)

theorem Below.antisymm (hierarchy : graph.Hierarchy) (below : Below graph first second)
    (back : Below graph second first) : first = second := by
  cases below with
  | same => rfl
  | widened kind => cases back <;> rfl
  | reference fits =>
      cases back with
      | same => rfl
      | reference fitsBack => rw [RefType.assignable_antisymm hierarchy fits fitsBack]

/-- Assignability orders the types of values. Only `top` stands apart: nothing is assignable to it
or from it. -/
structure OrderedBy (graph : ClassGraph) : Prop where
  refl : ∀ type : ValueType, type ≠ .top → type.assignable graph type = true
  trans : ∀ first second third : ValueType, first.assignable graph second = true →
    second.assignable graph third = true → first.assignable graph third = true
  antisymm : ∀ first second : ValueType, first.assignable graph second = true →
    second.assignable graph first = true → first = second
  top_apart : ∀ type : ValueType, ValueType.top.assignable graph type = false ∧
    type.assignable graph .top = false

/-- In every graph that is built on the standard classes, assignability is a partial order on the
types of values. -/
theorem assignable_partialOrder {graph : ClassGraph} (built : graph.Built) :
    OrderedBy graph := by
  have hierarchy := built.hierarchy
  refine ⟨?_, ?_, ?_, ?_⟩
  · intro type usable
    exact (Below.same usable).assignable
  · intro first second third below further
    exact ((below_of_assignable below).trans hierarchy (below_of_assignable further)).assignable
  · intro first second below back
    exact (below_of_assignable below).antisymm hierarchy (below_of_assignable back)
  · intro type
    exact ⟨rfl, by cases type <;> rfl⟩

/-- An interface below another, a class that lists both, a class below it that lists one of them
again, and a script that mentions a new class between them. -/
def shapes : ClassGraph :=
  let interfaces := (Standard.graph.insert
    ⟨⟨"demo/Shape"⟩, some .object, [.cloneable], Standard.interfaceFlags, [], []⟩).insert
    ⟨⟨"demo/Round"⟩, some .object, [⟨"demo/Shape"⟩], Standard.interfaceFlags, [], []⟩
  let mentioned := (Script.assemble (interfaces.insert
    (Standard.subclass ⟨"demo/Circle"⟩ .object [⟨"demo/Shape"⟩, ⟨"demo/Round"⟩] .publicBit))
    "routine static demo/Main f ([Ldemo/Disc;)V\nreturn\n").2
  mentioned.insert (Standard.subclass ⟨"demo/Coin"⟩ ⟨"demo/Circle"⟩ [⟨"demo/Shape"⟩] .publicBit)

theorem assignable_partialOrder_of_shapes : shapes.Built ∧ OrderedBy shapes := by
  have built : shapes.Built := by
    refine .insert (.script (.insert (.insert (.insert .standard rfl ?_ (fun _ => rfl)) rfl ?_
      (fun _ => rfl)) rfl ?_ (fun _ => rfl)) _) rfl ?_ ?_
    all_goals decide +kernel
  exact ⟨built, assignable_partialOrder built⟩

end Order

end ValueType

end TypedBytecode
