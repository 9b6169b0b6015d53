import TypedBytecode.Proofs.Growth
import TypedBytecode.Proofs.Reachability
import TypedBytecode.Proofs.Run
import TypedBytecode.Proofs.ScriptInvariant

/-!
Contract: the field of a name that a class has or inherits.

Owns:
- `ClassGraph.Founded`: the graphs that are built up from nothing, every class below a superclass
  that is there already;
- `ClassGraph.Layered`: in the order of their age, classes have fresh names and older superclasses;
- the superclass chain by steps, and the search along it counted in rounds, without any record of
  the classes it has been to;
- the lookup theorem: the search ends, it finds the field of the nearest class that declares the
  name, and an access to an own field has a receiver of a class above the own one.

Interfaces may be listed in a cycle, since a field is never looked for in an interface.

Does not own: which values an access to a field asks for.
-/

namespace TypedBytecode

/-! ## Graphs built from nothing -/

namespace ClassEntry

/-- The fields of a class name it as their owner, and no two of them have one name. -/
structure OwnsFields (entry : ClassEntry) : Prop where
  owned : ∀ field ∈ entry.fields, field.owner = entry.name
  apart : (entry.fields.map Field.name).Nodup

/-- The class itself declares a field of that name. -/
def DeclaresField (entry : ClassEntry) (name : String) : Prop :=
  ∃ field ∈ entry.fields, field.name.text = name

section Fields

variable {entry : ClassEntry} {name : String} {field : Field}

theorem find?_field_eq_none :
    entry.fields.find? (fun field => field.name.text == name) = none ↔
      ¬ entry.DeclaresField name := by
  rw [List.find?_eq_none, DeclaresField]
  constructor
  · intro absent declared
    obtain ⟨field, member, named⟩ := declared
    exact absent field member (by simpa using named)
  · intro undeclared field member named
    exact undeclared ⟨field, member, by simpa using named⟩

/-- A class has one field of a name at most, so that field is found. -/
theorem OwnsFields.find?_field_eq_some (owns : entry.OwnsFields) :
    entry.fields.find? (fun field => field.name.text == name) = some field ↔
      field ∈ entry.fields ∧ field.name.text = name := by
  constructor
  · intro found
    exact ⟨List.mem_of_find?_eq_some found, by simpa using List.find?_some found⟩
  · intro declared
    cases found : entry.fields.find? (fun field => field.name.text == name) with
    | none => exact absurd ⟨field, declared⟩ (find?_field_eq_none.mp found)
    | some other =>
        have otherMember := List.mem_of_find?_eq_some found
        have otherNamed : other.name.text = name := by simpa using List.find?_some found
        have sameName : other.name = field.name := by
          rw [MemberName.mk.injEq, otherNamed, declared.2]
        rw [List.inj_on_of_nodup_map owns.apart otherMember declared.1 sameName]

theorem OwnsFields.of_bare (bare : entry.fields = []) : entry.OwnsFields :=
  ⟨by simp [bare], by simp [bare]⟩

theorem OwnsFields.withField (owns : entry.OwnsFields) (own : field.owner = entry.name)
    (fresh : entry.fields.find? (fun other => other.name == field.name) = none) :
    (entry.withField field).OwnsFields where
  owned := by
    intro other member
    rcases List.mem_append.mp member with before | added
    · exact owns.owned other before
    · rw [List.mem_singleton.mp added]
      exact own
  apart := nodup_keys_append owns.apart fresh

end Fields

end ClassEntry

namespace ClassGraph

/-- Graphs that are built from nothing. A class is added below a superclass that is in the graph,
if it has one, and the fields that it comes with are its own. Members and interfaces of a class are
also added later on. -/
inductive Founded : ClassGraph → Prop where
  | empty : Founded .empty
  | insert {graph : ClassGraph} (founded : Founded graph) {entry : ClassEntry}
      (owns : entry.OwnsFields)
      (below : ∀ superclass ∈ entry.superclass, graph.contains superclass = true) :
      Founded (graph.insert entry)
  | addField {graph : ClassGraph} (founded : Founded graph) (field : Field) :
      Founded (graph.addField field).2
  | addMethod {graph : ClassGraph} (founded : Founded graph) (method : Method) :
      Founded (graph.addMethod method).2
  | addInterface {graph : ClassGraph} (founded : Founded graph) (name added : ClassName) :
      Founded (graph.addInterface name added)

/-- Classes with the newest first: each has a name that no older one has, and a superclass that is
older, if any. -/
inductive Layered : List ClassEntry → Prop where
  | nil : Layered []
  | cons {entry : ClassEntry} {older : List ClassEntry} (layered : Layered older)
      (fresh : ∀ other ∈ older, other.name ≠ entry.name)
      (below : ∀ superclass ∈ entry.superclass, ∃ other ∈ older, other.name = superclass) :
      Layered (entry :: older)

/-- What building a graph keeps: superclasses are older, and fields belong to their class. -/
structure Inheriting (graph : ClassGraph) : Prop where
  layered : Layered graph.entries
  owns : ∀ entry ∈ graph.entries, entry.OwnsFields

section Building

variable {graph : ClassGraph} {entry : ClassEntry} {entries older : List ClassEntry}
  {change : ClassEntry → ClassEntry}

theorem Layered.nodup (layered : Layered entries) : (entries.map ClassEntry.name).Nodup := by
  induction layered with
  | nil => exact List.nodup_nil
  | cons layered fresh below inductionHypothesis =>
      rw [List.map_cons, List.nodup_cons]
      refine ⟨?_, inductionHypothesis⟩
      intro member
      obtain ⟨other, isOlder, same⟩ := List.mem_map.mp member
      exact fresh other isOlder same

/-- Changing members and interfaces leaves the layers alone. -/
theorem Layered.map (layered : Layered entries) (named : ∀ entry, (change entry).name = entry.name)
    (extended : ∀ entry, (change entry).superclass = entry.superclass) :
    Layered (entries.map change) := by
  induction layered with
  | nil => exact .nil
  | @cons entry older layered fresh below inductionHypothesis =>
      refine .cons inductionHypothesis ?_ ?_
      · intro other member
        obtain ⟨old, isOlder, rfl⟩ := List.mem_map.mp member
        rw [named, named]
        exact fresh old isOlder
      · intro superclass isAbove
        rw [extended] at isAbove
        obtain ⟨old, isOlder, found⟩ := below superclass isAbove
        exact ⟨change old, List.mem_map_of_mem isOlder, by rw [named, found]⟩

theorem Inheriting.insert (inheriting : graph.Inheriting) (owns : entry.OwnsFields)
    (below : ∀ superclass ∈ entry.superclass, graph.contains superclass = true) :
    (graph.insert entry).Inheriting := by
  by_cases known : graph.contains entry.name = true
  · rwa [insert_of_contains known]
  rw [insert_of_missing known]
  refine ⟨.cons inheriting.layered ?_ ?_, ?_⟩
  · intro other member same
    exact known (same ▸ contains_of_mem member)
  · intro superclass isAbove
    obtain ⟨found, isFound⟩ := contains_iff.mp (below superclass isAbove)
    exact ⟨found, mem_of_find? isFound⟩
  · exact List.forall_mem_cons.mpr ⟨owns, inheriting.owns⟩

/-- A class that goes on owning its fields can be changed in place. -/
theorem Inheriting.modify (inheriting : graph.Inheriting) {name : ClassName}
    (named : ∀ entry, (change entry).name = entry.name)
    (extended : ∀ entry, (change entry).superclass = entry.superclass)
    (owns : ∀ entry, graph.find? name = some entry → entry.OwnsFields →
      (change entry).OwnsFields) :
    (graph.modify name change).Inheriting := by
  constructor
  · apply inheriting.layered.map
    · intro entry
      split
      · exact named entry
      · rfl
    · intro entry
      split
      · exact extended entry
      · rfl
  · intro entry member
    obtain ⟨old, inGraph, rfl⟩ := List.mem_map.mp member
    have ownsBefore := inheriting.owns old inGraph
    split
    · rename_i changed
      have found := find?_of_mem inheriting.layered.nodup inGraph
      rw [beq_iff_eq.mp changed] at found
      exact owns old found ownsBefore
    · exact ownsBefore

theorem Inheriting.addField (inheriting : graph.Inheriting) (field : Field) :
    (graph.addField field).2.Inheriting := by
  cases declared : graph.declaredField? field.owner field.name with
  | some existing =>
      rw [addField_of_some declared]
      exact inheriting
  | none =>
      rw [addField_of_none declared]
      refine inheriting.modify (fun _ => rfl) (fun _ => rfl) ?_
      intro entry found owns
      rw [declaredField?, found, Option.bind_some] at declared
      exact owns.withField (mem_of_find? found).2.symm declared

theorem Inheriting.addMethod (inheriting : graph.Inheriting) (method : Method) :
    (graph.addMethod method).2.Inheriting := by
  cases declared : graph.declaredMethod? method.owner method.key with
  | some existing =>
      rw [addMethod_of_some declared]
      exact inheriting
  | none =>
      rw [addMethod_of_none declared]
      exact inheriting.modify (fun _ => rfl) (fun _ => rfl) fun _ _ owns => ⟨owns.owned, owns.apart⟩

theorem Founded.inheriting (founded : graph.Founded) : graph.Inheriting := by
  induction founded with
  | empty => exact ⟨.nil, by simp [ClassGraph.empty]⟩
  | insert _ owns below inductionHypothesis => exact inductionHypothesis.insert owns below
  | addField _ field inductionHypothesis => exact inductionHypothesis.addField field
  | addMethod _ method inductionHypothesis => exact inductionHypothesis.addMethod method
  | addInterface _ name added inductionHypothesis =>
      exact inductionHypothesis.modify (fun _ => rfl) (fun _ => rfl)
        fun _ _ owns => ⟨owns.owned, owns.apart⟩

/-- Classes that can be added one after the other, each without fields and below what is there. -/
def AllBelow : ClassGraph → List ClassEntry → Prop
  | _, [] => True
  | graph, entry :: further =>
    (entry.fields = [] ∧ ∀ superclass ∈ entry.superclass, graph.contains superclass = true) ∧
      (graph.insert entry).AllBelow further

instance decidableAllBelow :
    ∀ (graph : ClassGraph) (entries : List ClassEntry), Decidable (graph.AllBelow entries)
  | _, [] => .isTrue trivial
  | graph, entry :: further =>
    have := decidableAllBelow (graph.insert entry) further
    inferInstanceAs (Decidable
      ((entry.fields = [] ∧ ∀ superclass ∈ entry.superclass, graph.contains superclass = true) ∧
        (graph.insert entry).AllBelow further))

theorem Founded.insertAll (founded : graph.Founded) (below : graph.AllBelow entries) :
    (entries.foldl ClassGraph.insert graph).Founded := by
  induction entries generalizing graph with
  | nil => exact founded
  | cons entry further inductionHypothesis =>
      obtain ⟨added, addedLater⟩ := below
      exact inductionHypothesis (founded.insert (.of_bare added.1) added.2) addedLater

/-- The standard classes come each after its superclass. -/
theorem founded_standard : Standard.graph.Founded := by
  have built : Standard.graph = Standard.classes.foldl ClassGraph.insert .empty := by
    decide +kernel
  rw [built]
  exact Founded.empty.insertAll (by decide +kernel)

/-- Scripts add classes below the root class only. -/
theorem Founded.stable : Script.Stable Founded where
  insert graph name isInterface rooted founded := by
    refine founded.insert (.of_bare rfl) ?_
    rintro superclass ⟨⟩
    exact rooted
  addField _ field founded := founded.addField field
  addMethod _ method founded := founded.addMethod method

theorem Founded.assemble (founded : graph.Founded) (source : String) :
    (Script.assemble graph source).2.Founded :=
  Founded.stable.assemble founded source

end Building

/-! ## The superclass chain -/

/-- The class that many steps above a class, each step to the superclass. -/
def ancestor? (graph : ClassGraph) (owner : ClassName) : Nat → Option ClassEntry
  | 0 => graph.find? owner
  | steps + 1 =>
    (graph.ancestor? owner steps).bind (fun entry => entry.superclass.bind graph.find?)

/-- The search for a field from a class upwards, if it takes no more than the given number of
rounds. A round looks at one class, or finds that none is left. -/
def fieldWithin (graph : ClassGraph) (name : String) :
    Nat → Option ClassEntry → Option (Option Field)
  | 0, _ => none
  | _ + 1, none => some none
  | rounds + 1, some entry =>
    match entry.fields.find? (fun field => field.name.text == name) with
    | some field => some (some field)
    | none => graph.fieldWithin name rounds (entry.superclass.bind graph.find?)

section Chain

variable {graph : ClassGraph} {owner : ClassName} {entry : ClassEntry}
  {entries older : List ClassEntry} {name : String} {field : Field}

theorem chainIn_of_missing (missing : entries.find? (fun entry => entry.name == owner) = none) :
    chainIn entries owner = [] := by
  induction entries with
  | nil => rfl
  | cons first older inductionHypothesis =>
      rw [List.find?_cons] at missing
      split at missing
      · cases missing
      · rename_i different
        rw [chainIn, if_neg (by simpa using different)]
        exact inductionHypothesis missing

theorem Layered.superclass_mem (layered : Layered entries) (member : entry ∈ entries) :
    ∀ superclass ∈ entry.superclass, ∃ other ∈ entries, other.name = superclass := by
  induction layered with
  | nil => cases member
  | @cons first older layered fresh below inductionHypothesis =>
      intro superclass isAbove
      have inOlder : ∃ other ∈ older, other.name = superclass := by
        rcases List.mem_cons.mp member with rfl | isOlder
        · exact below superclass isAbove
        · exact inductionHypothesis isOlder superclass isAbove
      obtain ⟨other, isOlder, named⟩ := inOlder
      exact ⟨other, List.mem_cons_of_mem first isOlder, named⟩

/-- The chain of a class goes on with the chain of its superclass. It is looked for among older
classes only, and no newer class has its name. -/
theorem Layered.chainIn_of_found (layered : Layered entries)
    (found : entries.find? (fun entry => entry.name == owner) = some entry) :
    chainIn entries owner = entry :: entry.superclass.elim [] (chainIn entries) := by
  induction layered with
  | nil => cases found
  | @cons first older layered fresh below inductionHypothesis =>
      have skips : ∀ superclass, (∃ other ∈ older, other.name = superclass) →
          chainIn (first :: older) superclass = chainIn older superclass := by
        intro superclass isOlder
        obtain ⟨other, member, named⟩ := isOlder
        have different : first.name ≠ superclass := named ▸ (fresh other member).symm
        rw [chainIn, if_neg different]
      rw [List.find?_cons] at found
      split at found
      · rename_i same
        cases found
        rw [chainIn, if_pos (by simpa using same)]
        cases extended : entry.superclass with
        | none => rfl
        | some superclass =>
            have skipped := skips superclass (below superclass extended)
            rw [Option.elim_some, skipped]
      · rename_i different
        rw [chainIn, if_neg (by simpa using different), inductionHypothesis found]
        cases extended : entry.superclass with
        | none => rfl
        | some superclass =>
            have member := List.mem_of_find?_eq_some found
            have skipped := skips superclass (layered.superclass_mem member superclass extended)
            rw [Option.elim_some, Option.elim_some, skipped]

theorem length_chainIn_le (entries : List ClassEntry) (owner : ClassName) :
    (chainIn entries owner).length ≤ entries.length := by
  induction entries generalizing owner with
  | nil => exact Nat.le_refl 0
  | cons first older inductionHypothesis =>
      rw [chainIn]
      split
      · split
        · rename_i superclass _
          have bounded := inductionHypothesis superclass
          rw [List.length_cons, List.length_cons]
          omega
        · rw [List.length_singleton, List.length_cons]
          omega
      · have bounded := inductionHypothesis owner
        rw [List.length_cons]
        omega

/-- The steps above a class are those above its superclass, and one more. -/
theorem ancestor?_succ (graph : ClassGraph) (owner : ClassName) (steps : Nat) :
    graph.ancestor? owner (steps + 1) =
      (graph.find? owner).bind (fun entry =>
        entry.superclass.bind (fun superclass => graph.ancestor? superclass steps)) := by
  induction steps with
  | zero => rfl
  | succ steps inductionHypothesis =>
      rw [ancestor?, inductionHypothesis]
      simp only [Option.bind_assoc]
      rfl

theorem find?_of_ancestor? {steps : Nat} (isAncestor : graph.ancestor? owner steps = some entry) :
    graph.find? entry.name = some entry := by
  have found : ∃ name, graph.find? name = some entry := by
    cases steps with
    | zero => exact ⟨owner, isAncestor⟩
    | succ steps =>
        obtain ⟨below, -, climbed⟩ := Option.bind_eq_some_iff.mp isAncestor
        obtain ⟨superclass, -, isFound⟩ := Option.bind_eq_some_iff.mp climbed
        exact ⟨superclass, isFound⟩
  obtain ⟨name, isFound⟩ := found
  rw [(mem_of_find? isFound).2, isFound]

theorem reachable_of_ancestor? {throughInterfaces : Bool} {steps : Nat}
    (isAncestor : graph.ancestor? owner steps = some entry) :
    graph.Reachable throughInterfaces owner entry.name := by
  induction steps generalizing entry with
  | zero =>
      rw [(mem_of_find? isAncestor).2]
  | succ steps inductionHypothesis =>
      obtain ⟨below, isBelow, climbed⟩ := Option.bind_eq_some_iff.mp isAncestor
      obtain ⟨superclass, extended, isFound⟩ := Option.bind_eq_some_iff.mp climbed
      rw [(mem_of_find? isFound).2]
      exact (inductionHypothesis isBelow).tail (.superclass (find?_of_ancestor? isBelow) extended)

/-- The first hit in a list, said by its place. -/
theorem findSome?_eq_some_iff_getElem? {α β : Type} {items : List α} {select : α → Option β}
    {result : β} :
    items.findSome? select = some result ↔
      ∃ (place : Nat) (item : α), items[place]? = some item ∧ select item = some result ∧
        ∀ earlier < place, ∀ other, items[earlier]? = some other → select other = none := by
  rw [List.findSome?_eq_some_iff]
  constructor
  · intro hit
    obtain ⟨front, item, back, rfl, selected, missed⟩ := hit
    refine ⟨front.length, item, by simp, selected, ?_⟩
    intro earlier before other found
    rw [List.getElem?_append_left before] at found
    exact missed other (List.mem_of_getElem? found)
  · intro hit
    obtain ⟨place, item, found, selected, missed⟩ := hit
    obtain ⟨inside, rfl⟩ := List.getElem?_eq_some_iff.mp found
    refine ⟨items.take place, items[place], items.drop (place + 1), ?_, selected, ?_⟩
    · rw [List.getElem_cons_drop, List.take_append_drop]
    · intro other member
      obtain ⟨earlier, before, rfl⟩ := List.mem_take_iff_getElem.mp member
      have bounded : earlier < place := by omega
      exact missed earlier bounded _ (List.getElem?_eq_getElem (by omega))

namespace Inheriting

theorem superChain_of_found (inheriting : graph.Inheriting)
    (found : graph.find? owner = some entry) :
    graph.superChain owner = entry :: entry.superclass.elim [] graph.superChain :=
  inheriting.layered.chainIn_of_found found

theorem superChain_of_missing (missing : graph.find? owner = none) :
    graph.superChain owner = [] :=
  chainIn_of_missing missing

/-- The chain lists the ancestors step by step. -/
theorem getElem?_superChain (inheriting : graph.Inheriting) (owner : ClassName) (steps : Nat) :
    (graph.superChain owner)[steps]? = graph.ancestor? owner steps := by
  induction steps generalizing owner with
  | zero =>
      cases found : graph.find? owner with
      | none => rw [superChain_of_missing found, ancestor?, found, List.getElem?_nil]
      | some entry =>
          rw [inheriting.superChain_of_found found, ancestor?, found, List.getElem?_cons_zero]
  | succ steps inductionHypothesis =>
      rw [ancestor?_succ]
      cases found : graph.find? owner with
      | none => rw [superChain_of_missing found, List.getElem?_nil, Option.bind_none]
      | some entry =>
          rw [inheriting.superChain_of_found found, List.getElem?_cons_succ, Option.bind_some]
          cases entry.superclass with
          | none => rfl
          | some superclass => exact inductionHypothesis superclass

/-- The search needs one round for each class of the chain, and one to find that none is left. -/
theorem fieldWithin_eq (inheriting : graph.Inheriting) (name : String) {rounds : Nat}
    (enough : (graph.superChain owner).length < rounds) :
    graph.fieldWithin name rounds (graph.find? owner) = some (graph.findField? owner name) := by
  induction rounds generalizing owner with
  | zero => omega
  | succ rounds inductionHypothesis =>
      cases found : graph.find? owner with
      | none =>
          rw [findField?, superChain_of_missing found]
          rfl
      | some entry =>
          have chain := inheriting.superChain_of_found found
          rw [chain, List.length_cons] at enough
          rw [fieldWithin, findField?, chain, List.findSome?_cons]
          cases entry.fields.find? (fun field => field.name.text == name) with
          | some field => rfl
          | none =>
              cases extended : entry.superclass with
              | none =>
                  obtain ⟨left, rfl⟩ : ∃ left, rounds = left + 1 := ⟨rounds - 1, by omega⟩
                  rfl
              | some superclass =>
                  rw [extended, Option.elim_some] at enough
                  exact inductionHypothesis (by omega)

/-- The field that is found is the one of the nearest class with a field of the name. -/
theorem findField?_eq_some (inheriting : graph.Inheriting) :
    graph.findField? owner name = some field ↔
      ∃ steps entry, graph.ancestor? owner steps = some entry ∧ field ∈ entry.fields ∧
        field.name.text = name ∧
        ∀ nearer < steps, ∀ below, graph.ancestor? owner nearer = some below →
          ¬ below.DeclaresField name := by
  have owns : ∀ steps entry, graph.ancestor? owner steps = some entry → entry.OwnsFields :=
    fun steps entry found => inheriting.owns entry (mem_of_find? (find?_of_ancestor? found)).1
  rw [findField?, findSome?_eq_some_iff_getElem?]
  simp only [inheriting.getElem?_superChain, ClassEntry.find?_field_eq_none]
  constructor
  · intro found
    obtain ⟨steps, entry, isAncestor, declared, nearest⟩ := found
    have holds := (owns steps entry isAncestor).find?_field_eq_some.mp declared
    exact ⟨steps, entry, isAncestor, holds.1, holds.2, nearest⟩
  · intro found
    obtain ⟨steps, entry, isAncestor, member, named, nearest⟩ := found
    have declared := (owns steps entry isAncestor).find?_field_eq_some.mpr ⟨member, named⟩
    exact ⟨steps, entry, isAncestor, declared, nearest⟩

theorem findField?_eq_none (inheriting : graph.Inheriting) :
    graph.findField? owner name = none ↔
      ∀ steps entry, graph.ancestor? owner steps = some entry → ¬ entry.DeclaresField name := by
  rw [findField?, List.findSome?_eq_none_iff]
  simp only [List.mem_iff_getElem?, inheriting.getElem?_superChain,
    ClassEntry.find?_field_eq_none, forall_exists_index]
  exact forall_comm

/-- A field that is found belongs to a class that the class is assignable to. -/
theorem classAssignable_of_findField? (inheriting : graph.Inheriting)
    (found : graph.findField? owner name = some field) :
    graph.classAssignable owner field.owner = true := by
  obtain ⟨steps, entry, isAncestor, member, -, -⟩ := inheriting.findField?_eq_some.mp found
  have declaring := (mem_of_find? (find?_of_ancestor? isAncestor)).1
  rw [(inheriting.owns entry declaring).owned field member, classAssignable_iff]
  exact reachable_of_ancestor? isAncestor

end Inheriting

end Chain

end ClassGraph

/-! ## Own fields -/

/-- The instruction that reads a field. -/
def Instruction.reading (field : Field) : Instruction :=
  if field.isStatic then .getStatic field else .getField field

/-- An operation that reads an own field and succeeds has found it, and emits its reading. -/
theorem Operation.Performs.reads_own {graph : ClassGraph} {routine : Method} {offset : Nat}
    {name : String} {before after : Frame} {code : Code}
    (performed : Performs graph routine offset (.getOwnField name) before after code) :
    ∃ field, graph.findField? routine.owner name = some field ∧ code = [.reading field] := by
  cases performed with
  | getStatic reads isStatic => exact ⟨_, reads, by rw [Instruction.reading, if_pos isStatic]⟩
  | getField reads isStatic =>
      exact ⟨_, reads, by rw [Instruction.reading, if_neg (by simp [isStatic])]⟩
  | load absent | putStatic absent | putField absent | invoke absent | capture absent
  | constant absent => cases absent

namespace ClassGraph

/-- The search for a field of that name, from a class upwards, ends with the nearest one. -/
structure FindsNearest (graph : ClassGraph) (owner : ClassName) (name : String) : Prop where
  /-- The search is over after one round more than there are classes. -/
  ends : ∀ rounds, graph.entries.length < rounds →
    graph.fieldWithin name rounds (graph.find? owner) = some (graph.findField? owner name)
  found_iff : ∀ field, graph.findField? owner name = some field ↔
    ∃ steps entry, graph.ancestor? owner steps = some entry ∧ field ∈ entry.fields ∧
      field.name.text = name ∧
      ∀ nearer < steps, ∀ below, graph.ancestor? owner nearer = some below →
        ¬ below.DeclaresField name
  missing_iff : graph.findField? owner name = none ↔
    ∀ steps entry, graph.ancestor? owner steps = some entry → ¬ entry.DeclaresField name
  /-- An access to an own field that succeeds reads the field that is found, and this belongs to a
  class that the own class is assignable to. -/
  accessed : ∀ builder next : Builder, builder.routine.owner = owner →
    builder.call graph (.operation (.getOwnField name)) = .ok next →
    ∃ field, graph.findField? owner name = some field ∧
      next.emissions = builder.emissions ++ [.instruction (.reading field)] ∧
      graph.classAssignable owner field.owner = true

/-- In every graph that is built from nothing, by adding classes below superclasses that are there,
and for every class and every name: the search for a field ends, it finds just the field of that
name on the nearest class of the superclass chain, the class itself first, that declares one, and
it finds nothing exactly if no class of the chain declares one. Own fields that are read belong to a
class that the own class is assignable to. -/
theorem nearest_field_found {graph : ClassGraph} (founded : graph.Founded) (owner : ClassName)
    (name : String) : graph.FindsNearest owner name := by
  have inheriting := founded.inheriting
  refine ⟨?_, fun field => inheriting.findField?_eq_some, inheriting.findField?_eq_none, ?_⟩
  · intro rounds enough
    have bounded : (graph.superChain owner).length ≤ graph.entries.length :=
      length_chainIn_le graph.entries owner
    exact inheriting.fieldWithin_eq name (by omega)
  · intro builder next owned succeeds
    cases Builder.makes_of_call succeeds with
    | operation reachable performed =>
        obtain ⟨field, found, rfl⟩ := performed.reads_own
        rw [owned] at found
        have above := inheriting.classAssignable_of_findField? found
        exact ⟨field, found, Builder.emissions_afterCode, above⟩

/-- Three classes in a line, the upper two with a field of one name. -/
def shadowed : ClassGraph :=
  let upper := Standard.graph.insert (Standard.subclass ⟨"demo/A"⟩ .object [] .publicBit)
  let upper := (upper.addField ⟨⟨"demo/A"⟩, ⟨"n"⟩, .primitive .int, .publicBit ||| .staticBit⟩).2
  let middle := upper.insert (Standard.subclass ⟨"demo/B"⟩ ⟨"demo/A"⟩ [] .publicBit)
  let middle := (middle.addField ⟨⟨"demo/B"⟩, ⟨"n"⟩, .primitive .long, .publicBit ||| .staticBit⟩).2
  middle.insert (Standard.subclass ⟨"demo/C"⟩ ⟨"demo/B"⟩ [] .publicBit)

/-- A script in which the lowest class gets a field of its own and reads one that it inherits. -/
def inheritedSource : String :=
  "routine static demo/C f ()J\nfield static m I\nget_field n\nreturn\n"

theorem nearest_field_found_when_shadowed :
    (Script.assemble shadowed inheritedSource).1.isOk = true ∧
      (Script.assemble shadowed inheritedSource).2.Founded ∧
      ((Script.assemble shadowed inheritedSource).2.findField? ⟨"demo/C"⟩ "n").map Field.text =
        some "demo/B.n:J" ∧
      (Script.assemble shadowed inheritedSource).2.FindsNearest ⟨"demo/C"⟩ "n" := by
  have founded : shadowed.Founded :=
    .insert (.addField (.insert (.addField (.insert founded_standard (.of_bare rfl)
      (by decide +kernel)) _) (.of_bare rfl) (by decide +kernel)) _) (.of_bare rfl)
      (by decide +kernel)
  have assembled := founded.assemble inheritedSource
  exact ⟨by decide +kernel, assembled, by decide +kernel,
    nearest_field_found assembled ⟨"demo/C"⟩ "n"⟩

end ClassGraph

end TypedBytecode
