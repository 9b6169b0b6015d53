import TypedBytecode.ClassGraph

/-!
Contract: when a value of one reference type can be used as another.

Owns:
- the walk from a class up to a target class, which ends on every finite graph, also one
  whose interfaces form a cycle;
- assignability of objects and arrays.

Does not own: primitive values.
-/

namespace TypedBytecode.ClassGraph

/-- Classes one step above a class. Interfaces count only on the way to an interface. -/
def parents (graph : ClassGraph) (throughInterfaces : Bool) (name : ClassName) :
    List ClassName :=
  match graph.find? name with
  | none => []
  | some entry =>
    entry.superclass.toList ++ (if throughInterfaces then entry.interfaces else [])

/-- Classes of the graph that the walk has not been to. -/
def unvisited (graph : ClassGraph) (visited : List ClassName) : List ClassEntry :=
  graph.entries.filter (fun entry => decide (entry.name ∉ visited))

theorem length_unvisited_le (graph : ClassGraph) (name : ClassName)
    (visited : List ClassName) :
    (graph.unvisited (name :: visited)).length ≤ (graph.unvisited visited).length := by
  simp only [unvisited, ← List.countP_eq_length_filter]
  apply List.countP_mono_left
  intro entry _ notVisited
  simp_all

/-- Visiting a class takes away what has its name. -/
theorem unvisited_cons (graph : ClassGraph) (name : ClassName) (visited : List ClassName) :
    graph.unvisited (name :: visited) =
      (graph.unvisited visited).filter (fun other => !(other.name == name)) := by
  simp only [unvisited, List.filter_filter]
  apply List.filter_congr
  intro other _
  by_cases same : other.name = name <;> simp [same]

theorem mem_unvisited {graph : ClassGraph} {name : ClassName} {visited : List ClassName}
    {entry : ClassEntry} (found : graph.find? name = some entry) (fresh : name ∉ visited) :
    entry ∈ graph.unvisited visited ∧ entry.name = name := by
  have named : entry.name = name := by
    simpa using List.find?_some found
  refine ⟨?_, named⟩
  simp only [unvisited, List.mem_filter]
  exact ⟨List.mem_of_find?_eq_some found, by simpa [named] using fresh⟩

theorem length_unvisited_lt {graph : ClassGraph} {name : ClassName}
    {visited : List ClassName} {entry : ClassEntry} (found : graph.find? name = some entry)
    (fresh : name ∉ visited) :
    (graph.unvisited (name :: visited)).length < (graph.unvisited visited).length := by
  obtain ⟨member, named⟩ := mem_unvisited found fresh
  rw [unvisited_cons]
  apply List.length_filter_lt_length_iff_exists.mpr
  exact ⟨entry, member, by simp [named]⟩

/-- Does the walk through `pending` and everything above it come to the target? A class is
compared with the target each time it is met, and its parents are taken up once, the last of them
first. -/
def reaches (graph : ClassGraph) (target : ClassName) (throughInterfaces : Bool)
    (visited pending : List ClassName) : Bool :=
  match pending with
  | [] => false
  | name :: rest =>
    if name = target then true
    else if _seen : name ∈ visited then
      reaches graph target throughInterfaces visited rest
    else
      match _found : graph.find? name with
      | none => reaches graph target throughInterfaces (name :: visited) rest
      | some _ =>
        reaches graph target throughInterfaces (name :: visited)
          ((graph.parents throughInterfaces name).reverse ++ rest)
termination_by ((graph.unvisited visited).length, pending.length)
decreasing_by
  · exact Prod.Lex.right _ (by simp)
  · have shrinks := length_unvisited_le graph name visited
    rcases Nat.lt_or_eq_of_le shrinks with fewer | same
    · exact Prod.Lex.left _ _ fewer
    · rw [same]
      exact Prod.Lex.right _ (by simp)
  · exact Prod.Lex.left _ _ (length_unvisited_lt _found _seen)

/-- Classes are assignable upwards, through interfaces only to an interface. -/
def classAssignable (graph : ClassGraph) (sub super : ClassName) : Bool :=
  graph.reaches super (graph.isInterface super) [] [sub]

end TypedBytecode.ClassGraph

namespace TypedBytecode

namespace ClassName

def object : ClassName := ⟨"java/lang/Object"⟩
def cloneable : ClassName := ⟨"java/lang/Cloneable"⟩
def serializable : ClassName := ⟨"java/io/Serializable"⟩

/-- Every array is an `Object`, a `Cloneable` and a `Serializable`. -/
def isArraySupertype (name : ClassName) : Bool :=
  name == object || name == cloneable || name == serializable

end ClassName

namespace RefType

/-- Assignability of references. Arrays of objects are covariant; an array with more
dimensions than the target has arrays for elements, which are objects of three classes. -/
def assignable (graph : ClassGraph) : RefType → RefType → Bool
  | .object sub, .object super => graph.classAssignable sub super
  | .objectArray _ _, .object super => super.isArraySupertype
  | .primitiveArray _ _, .object super => super.isArraySupertype
  | .primitiveArray subExtra sub, .primitiveArray superExtra super =>
    subExtra == superExtra && sub == super
  | .primitiveArray subExtra _, .objectArray superExtra super =>
    decide (superExtra < subExtra) && super.isArraySupertype
  | .objectArray subExtra sub, .objectArray superExtra super =>
    if subExtra < superExtra then false
    else if subExtra = superExtra then graph.classAssignable sub super
    else super.isArraySupertype
  | .object _, .objectArray _ _ => false
  | .object _, .primitiveArray _ _ => false
  | .objectArray _ _, .primitiveArray _ _ => false

end RefType

end TypedBytecode
