import TypedBytecode.ClassGraph.Assignable
import Mathlib.Data.List.Flatten
import Mathlib.Logic.Relation

/-!
Contract: the walk from a class up to a target, as a search that ends and decides reachability.

Owns:
- `ClassGraph.Above`, the steps up from a class, said by what its entry lists;
- `ClassGraph.Frontier`, the invariant of the walk: whatever lies above a visited class is visited
  or pending;
- the walk counted in rounds, and the bound on the rounds that any walk takes;
- the verdict on two classes: there is one within the bound, and it says whether the second class
  can be reached from the first.

The graph can be any list of entries. Classes may share ancestors, interfaces may be listed in a
cycle, and a class may list names that the graph does not have.

Does not own: what makes assignability an order.
-/

namespace TypedBytecode.ClassGraph

/-! ## Steps -/

/-- One step up from a class: to its superclass, and on the way to an interface also to every
interface that it lists. -/
inductive Above (graph : ClassGraph) (throughInterfaces : Bool) (name above : ClassName) :
    Prop where
  | superclass {entry : ClassEntry} (found : graph.find? name = some entry)
      (listed : entry.superclass = some above)
  | interface {entry : ClassEntry} (found : graph.find? name = some entry)
      (allowed : throughInterfaces = true) (listed : above ∈ entry.interfaces)

/-- The second class lies any number of steps above the first. -/
abbrev Reachable (graph : ClassGraph) (throughInterfaces : Bool) :
    ClassName → ClassName → Prop :=
  Relation.ReflTransGen (graph.Above throughInterfaces)

section Walk

variable {graph : ClassGraph} {target name above : ClassName} {throughInterfaces : Bool}
  {visited pending rest : List ClassName}

theorem mem_parents :
    above ∈ graph.parents throughInterfaces name ↔ graph.Above throughInterfaces name above := by
  unfold parents
  cases found : graph.find? name with
  | none =>
      constructor
      · intro listed
        cases listed
      · rintro (⟨isFound, -⟩ | ⟨isFound, -, -⟩)
        · rw [found] at isFound
          cases isFound
        · rw [found] at isFound
          cases isFound
  | some entry =>
      dsimp only
      rw [List.mem_append, Option.mem_toList]
      constructor
      · rintro (listed | listed)
        · exact .superclass found listed
        · split at listed
          · rename_i allowed
            exact .interface found allowed listed
          · cases listed
      · rintro (⟨isFound, listed⟩ | ⟨isFound, allowed, listed⟩)
        · cases found.symm.trans isFound
          exact Or.inl listed
        · cases found.symm.trans isFound
          rw [if_pos allowed]
          exact Or.inr listed

theorem parents_of_missing (missing : graph.find? name = none) :
    graph.parents throughInterfaces name = [] := by
  rw [parents, missing]

/-- Looking above a class that is not the target changes nothing. -/
theorem exists_reachable_cons (different : name ≠ target) :
    (∃ next ∈ name :: rest, graph.Reachable throughInterfaces next target) ↔
      ∃ next ∈ (graph.parents throughInterfaces name).reverse ++ rest,
        graph.Reachable throughInterfaces next target := by
  constructor
  · rintro ⟨next, member, reachable⟩
    rcases List.mem_cons.mp member with rfl | later
    · rcases Relation.ReflTransGen.cases_head reachable with same | ⟨above, step, further⟩
      · exact absurd same different
      · have listed := List.mem_reverse.mpr (mem_parents.mpr step)
        exact ⟨above, List.mem_append_left rest listed, further⟩
    · exact ⟨next, List.mem_append_right _ later, reachable⟩
  · rintro ⟨next, member, reachable⟩
    rcases List.mem_append.mp member with above | later
    · have step := mem_parents.mp (List.mem_reverse.mp above)
      exact ⟨name, List.mem_cons_self, .head step reachable⟩
    · exact ⟨next, List.mem_cons_of_mem name later, reachable⟩

/-! ## The invariant -/

/-- Whatever lies above a visited class is visited or pending, and the target was not met. -/
structure Frontier (graph : ClassGraph) (target : ClassName) (throughInterfaces : Bool)
    (visited pending : List ClassName) : Prop where
  missed : target ∉ visited
  closed : ∀ name ∈ visited, ∀ above, graph.Above throughInterfaces name above →
    above ∈ visited ∨ above ∈ pending

namespace Frontier

theorem start (pending : List ClassName) :
    graph.Frontier target throughInterfaces [] pending where
  missed := List.not_mem_nil
  closed _ member := absurd member List.not_mem_nil

/-- A class that was visited need not be looked at again. -/
theorem skip (frontier : graph.Frontier target throughInterfaces visited (name :: rest))
    (seen : name ∈ visited) : graph.Frontier target throughInterfaces visited rest where
  missed := frontier.missed
  closed := by
    intro other member above step
    rcases frontier.closed other member above step with before | next
    · exact Or.inl before
    · rcases List.mem_cons.mp next with rfl | later
      · exact Or.inl seen
      · exact Or.inr later

/-- A class is visited by taking up all that lies above it. -/
theorem visit (frontier : graph.Frontier target throughInterfaces visited (name :: rest))
    (different : name ≠ target) :
    graph.Frontier target throughInterfaces (name :: visited)
      ((graph.parents throughInterfaces name).reverse ++ rest) where
  missed := by
    rw [List.mem_cons, not_or]
    exact ⟨different.symm, frontier.missed⟩
  closed := by
    intro other member above step
    rcases List.mem_cons.mp member with rfl | before
    · have listed := List.mem_reverse.mpr (mem_parents.mpr step)
      exact Or.inr (List.mem_append_left rest listed)
    · rcases frontier.closed other before above step with seen | next
      · exact Or.inl (List.mem_cons_of_mem name seen)
      · rcases List.mem_cons.mp next with rfl | later
        · exact Or.inl List.mem_cons_self
        · exact Or.inr (List.mem_append_right _ later)

/-- A path from a visited class to the target leaves the visited classes through a pending one. -/
theorem exists_pending (frontier : graph.Frontier target throughInterfaces visited pending)
    (seen : name ∈ visited) (reachable : graph.Reachable throughInterfaces name target) :
    ∃ next ∈ pending, graph.Reachable throughInterfaces next target := by
  induction reachable using Relation.ReflTransGen.head_induction_on with
  | refl => exact absurd seen frontier.missed
  | @head name above step further inductionHypothesis =>
      rcases frontier.closed name seen above step with before | next
      · exact inductionHypothesis before
      · exact ⟨above, next, further⟩

end Frontier

/-! ## The verdict -/

theorem reaches_of_fresh (different : name ≠ target) (fresh : name ∉ visited) :
    graph.reaches target throughInterfaces visited (name :: rest) =
      graph.reaches target throughInterfaces (name :: visited)
        ((graph.parents throughInterfaces name).reverse ++ rest) := by
  rw [reaches, if_neg different, dif_neg fresh]
  split
  · rename_i missing
    rw [parents_of_missing missing, List.reverse_nil, List.nil_append]
  · rfl

/-- The walk comes to the target exactly if a pending class lies below it. -/
theorem reaches_iff (frontier : graph.Frontier target throughInterfaces visited pending) :
    graph.reaches target throughInterfaces visited pending = true ↔
      ∃ name ∈ pending, graph.Reachable throughInterfaces name target := by
  fun_induction graph.reaches target throughInterfaces visited pending with
  | case1 => simp
  | case2 visited rest =>
      simp only [true_iff]
      exact ⟨target, List.mem_cons_self, .refl⟩
  | case3 visited name rest different seen inductionHypothesis =>
      have skipped := frontier.skip seen
      apply (inductionHypothesis skipped).trans
      constructor
      · rintro ⟨next, later, reachable⟩
        exact ⟨next, List.mem_cons_of_mem name later, reachable⟩
      · rintro ⟨next, member, reachable⟩
        rcases List.mem_cons.mp member with rfl | later
        · exact skipped.exists_pending seen reachable
        · exact ⟨next, later, reachable⟩
  | case4 visited name rest different fresh missing inductionHypothesis =>
      have taken := frontier.visit different
      rw [exists_reachable_cons different]
      rw [parents_of_missing missing, List.reverse_nil, List.nil_append] at taken ⊢
      exact inductionHypothesis taken
  | case5 visited name rest different fresh entry found inductionHypothesis =>
      rw [exists_reachable_cons different]
      exact inductionHypothesis (frontier.visit different)

theorem classAssignable_iff {sub super : ClassName} :
    graph.classAssignable sub super = true ↔
      graph.Reachable (graph.isInterface super) sub super := by
  rw [classAssignable, reaches_iff (.start [sub])]
  simp

/-! ## Rounds -/

/-- The verdict of a walk that takes no more than the given number of rounds. A round looks at one
pending class, or finds that none is left. -/
def verdictWithin (graph : ClassGraph) (target : ClassName) (throughInterfaces : Bool) :
    Nat → List ClassName → List ClassName → Option Bool
  | 0, _, _ => none
  | _ + 1, _, [] => some false
  | rounds + 1, visited, name :: rest =>
    if name = target then some true
    else if name ∈ visited then
      graph.verdictWithin target throughInterfaces rounds visited rest
    else
      graph.verdictWithin target throughInterfaces rounds (name :: visited)
        ((graph.parents throughInterfaces name).reverse ++ rest)

/-- The steps up that a walk can still take up: those from the classes not yet visited. -/
def openSteps (graph : ClassGraph) (throughInterfaces : Bool) (visited : List ClassName) :
    List ClassName :=
  (graph.unvisited visited).flatMap (fun entry => graph.parents throughInterfaces entry.name)

/-- The steps that visiting a class makes pending are not open any longer. -/
theorem length_openSteps (graph : ClassGraph) (throughInterfaces : Bool)
    (fresh : name ∉ visited) :
    (graph.parents throughInterfaces name).length +
        (graph.openSteps throughInterfaces (name :: visited)).length ≤
      (graph.openSteps throughInterfaces visited).length := by
  unfold openSteps
  cases found : graph.find? name with
  | none =>
      rw [parents_of_missing found, List.length_nil, Nat.zero_add, unvisited_cons]
      exact (List.filter_sublist.flatMap _).length_le
  | some entry =>
      obtain ⟨member, rfl⟩ := mem_unvisited found fresh
      obtain ⟨front, back, split⟩ := List.append_of_mem member
      have others : (graph.unvisited (entry.name :: visited)).Sublist (front ++ back) := by
        rw [unvisited_cons, split, List.filter_append, List.filter_cons_of_neg (by simp)]
        exact List.filter_sublist.append List.filter_sublist
      have counted := (others.flatMap
        (fun other => graph.parents throughInterfaces other.name)).length_le
      rw [List.flatMap_append, List.length_append] at counted
      rw [split, List.flatMap_append, List.flatMap_cons, List.length_append, List.length_append]
      omega

/-- Every round uses up a pending class, and a class is pending once for the start and once for
each step that leads to it, so the walk is over when both are used up. -/
theorem verdictWithin_eq {rounds : Nat}
    (enough : pending.length + (graph.openSteps throughInterfaces visited).length < rounds) :
    graph.verdictWithin target throughInterfaces rounds visited pending =
      some (graph.reaches target throughInterfaces visited pending) := by
  induction rounds generalizing visited pending with
  | zero => omega
  | succ rounds inductionHypothesis =>
      cases pending with
      | nil => rw [verdictWithin, reaches]
      | cons name rest =>
          rw [verdictWithin]
          rw [List.length_cons] at enough
          by_cases same : name = target
          · rw [if_pos same, reaches, if_pos same]
          · rw [if_neg same]
            by_cases seen : name ∈ visited
            · rw [if_pos seen, reaches, if_neg same, dif_pos seen]
              exact inductionHypothesis (by omega)
            · have fewer := length_openSteps graph throughInterfaces seen
              rw [if_neg seen, reaches_of_fresh same seen]
              apply inductionHypothesis
              rw [List.length_append, List.length_reverse]
              omega

/-- In every graph and for all classes, the walk comes to a verdict within two rounds more than
there are steps to take up. The verdict is whether the second class can be reached from the first
by steps to superclasses and, if the second class is an interface, to listed interfaces. -/
theorem walk_decides_reachability (graph : ClassGraph) (sub super : ClassName) :
    graph.verdictWithin super (graph.isInterface super)
        ((graph.openSteps (graph.isInterface super) []).length + 2) [] [sub] =
      some (graph.classAssignable sub super) ∧
    (graph.classAssignable sub super = true ↔
      graph.Reachable (graph.isInterface super) sub super) := by
  refine ⟨?_, classAssignable_iff⟩
  apply verdictWithin_eq
  rw [List.length_singleton]
  omega

/-- Two interfaces that list each other, and a class below both: four steps, hence six rounds. -/
example :
    let graph : ClassGraph :=
      ⟨[⟨⟨"C"⟩, none, [⟨"I"⟩, ⟨"J"⟩], .publicBit, [], []⟩,
        ⟨⟨"I"⟩, none, [⟨"J"⟩], .interfaceBit, [], []⟩,
        ⟨⟨"J"⟩, none, [⟨"I"⟩], .interfaceBit, [], []⟩]⟩
    graph.verdictWithin ⟨"J"⟩ true 6 [] [⟨"C"⟩] = some true ∧
      graph.verdictWithin ⟨"K"⟩ true 6 [] [⟨"C"⟩] = some false ∧
      graph.verdictWithin ⟨"K"⟩ true 5 [] [⟨"C"⟩] = none := by
  decide

end Walk

end TypedBytecode.ClassGraph
