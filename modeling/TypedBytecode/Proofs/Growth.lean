import TypedBytecode.ClassGraph.Standard
import TypedBytecode.ValueType
import Mathlib.Data.List.Nodup
import Mathlib.Logic.Relation

/-!
Contract: how a class graph grows, and what growing never changes.

Owns:
- keys: what tells the classes of a graph, the fields of a class and its methods apart;
- `ClassGraph.WellFormed`: keys are unique, and whatever a class lies below is in the graph;
- `ClassGraph.Extends`: every class that was found is found again, with members only added behind
  those it had;
- `ClassGraph.Grows`: classes, fields and methods added one after the other;
- the verdict on assignability, which a graph that is extended keeps for all types it knew.

Does not own: who adds to a graph.
-/

namespace TypedBytecode

/-! ## Keys -/

/-- What tells the methods of one class apart. -/
def Method.key (method : Method) : MemberName × MethodType × Bool :=
  (method.name, method.type, method.isStatic)

theorem Method.sameKey_eq_key (left right : Method) :
    left.sameKey right = (left.key == right.key) := by
  rw [sameKey, key, key, Bool.and_assoc]
  rfl

namespace ClassEntry

/-- No two fields of a class have one name, and no two methods one key. -/
structure Keyed (entry : ClassEntry) : Prop where
  fields : (entry.fields.map Field.name).Nodup
  methods : (entry.methods.map Method.key).Nodup

instance (entry : ClassEntry) : Decidable entry.Keyed :=
  decidable_of_iff
    ((entry.fields.map Field.name).Nodup ∧ (entry.methods.map Method.key).Nodup)
    ⟨fun both => ⟨both.1, both.2⟩, fun keyed => ⟨keyed.fields, keyed.methods⟩⟩

/-- Classes that an entry lies directly below. -/
def parents (entry : ClassEntry) : List ClassName :=
  entry.superclass.toList ++ entry.interfaces

/-- The same class with members only added behind those it has. -/
structure GrowsTo (old new : ClassEntry) : Prop where
  name : new.name = old.name
  superclass : new.superclass = old.superclass
  interfaces : new.interfaces = old.interfaces
  flags : new.flags = old.flags
  fields : old.fields <+: new.fields
  methods : old.methods <+: new.methods

variable {first second third : ClassEntry}

theorem GrowsTo.refl (entry : ClassEntry) : entry.GrowsTo entry :=
  ⟨rfl, rfl, rfl, rfl, List.prefix_refl _, List.prefix_refl _⟩

theorem GrowsTo.trans (grows : first.GrowsTo second) (further : second.GrowsTo third) :
    first.GrowsTo third where
  name := further.name.trans grows.name
  superclass := further.superclass.trans grows.superclass
  interfaces := further.interfaces.trans grows.interfaces
  flags := further.flags.trans grows.flags
  fields := grows.fields.trans further.fields
  methods := grows.methods.trans further.methods

theorem GrowsTo.parents (grows : first.GrowsTo second) : second.parents = first.parents := by
  rw [ClassEntry.parents, grows.superclass, grows.interfaces, ClassEntry.parents]

def withField (entry : ClassEntry) (field : Field) : ClassEntry :=
  { entry with fields := entry.fields ++ [field] }

def withMethod (entry : ClassEntry) (method : Method) : ClassEntry :=
  { entry with methods := entry.methods ++ [method] }

theorem growsTo_withField (entry : ClassEntry) (field : Field) :
    entry.GrowsTo (entry.withField field) :=
  { GrowsTo.refl entry with fields := List.prefix_append _ _ }

theorem growsTo_withMethod (entry : ClassEntry) (method : Method) :
    entry.GrowsTo (entry.withMethod method) :=
  { GrowsTo.refl entry with methods := List.prefix_append _ _ }

theorem nodup_keys_append {α κ : Type} [BEq κ] [LawfulBEq κ] {items : List α} {key : α → κ}
    {added : α} (unique : (items.map key).Nodup)
    (fresh : items.find? (fun other => key other == key added) = none) :
    ((items ++ [added]).map key).Nodup := by
  rw [List.map_append, List.map_singleton, List.nodup_append]
  refine ⟨unique, List.nodup_singleton _, ?_⟩
  intro known member other isAdded same
  obtain ⟨item, inItems, rfl⟩ := List.mem_map.mp member
  have different := List.find?_eq_none.mp fresh item inItems
  rw [same, List.mem_singleton.mp isAdded] at different
  simp at different

theorem Keyed.withField {entry : ClassEntry} {field : Field} (keyed : entry.Keyed)
    (fresh : entry.fields.find? (fun other => other.name == field.name) = none) :
    (entry.withField field).Keyed :=
  ⟨nodup_keys_append keyed.fields fresh, keyed.methods⟩

theorem Keyed.withMethod {entry : ClassEntry} {method : Method} (keyed : entry.Keyed)
    (fresh : entry.methods.find? (fun other => other.key == method.key) = none) :
    (entry.withMethod method).Keyed :=
  ⟨keyed.fields, nodup_keys_append keyed.methods fresh⟩

end ClassEntry

/-! ## Graphs -/

namespace ClassGraph

/-- Keys are unique. Whatever a class lies below is in the graph, and the root class is. -/
structure WellFormed (graph : ClassGraph) : Prop where
  named : (graph.entries.map ClassEntry.name).Nodup
  keyed : ∀ entry ∈ graph.entries, entry.Keyed
  closed : ∀ entry ∈ graph.entries, ∀ name ∈ entry.parents, graph.contains name = true
  rooted : graph.contains .object = true

/-- Every class that was found is found again, as it was but for members added behind. -/
def Extends (earlier later : ClassGraph) : Prop :=
  ∀ name entry, earlier.find? name = some entry →
    ∃ current, later.find? name = some current ∧ entry.GrowsTo current

/-- The field of that name which a class declares itself. -/
def declaredField? (graph : ClassGraph) (owner : ClassName) (name : MemberName) : Option Field :=
  (graph.find? owner).bind (fun entry => entry.fields.find? (fun field => field.name == name))

/-- The method of that key which a class declares itself. -/
def declaredMethod? (graph : ClassGraph) (owner : ClassName)
    (key : MemberName × MethodType × Bool) : Option Method :=
  (graph.find? owner).bind (fun entry => entry.methods.find? (fun method => method.key == key))

section Lookup

variable {graph : ClassGraph} {name other : ClassName} {entry : ClassEntry}
  {change : ClassEntry → ClassEntry} {field : Field} {method : Method}

theorem mem_of_find? (found : graph.find? name = some entry) :
    entry ∈ graph.entries ∧ entry.name = name :=
  ⟨List.mem_of_find?_eq_some found, by simpa using List.find?_some found⟩

theorem contains_iff : graph.contains name = true ↔ ∃ entry, graph.find? name = some entry :=
  Option.isSome_iff_exists

theorem contains_of_mem (member : entry ∈ graph.entries) : graph.contains entry.name = true := by
  rw [contains, find?, List.find?_isSome]
  exact ⟨entry, member, by simp⟩

/-- Names are unique, so an entry is found under its own. -/
theorem find?_of_mem (unique : (graph.entries.map ClassEntry.name).Nodup)
    (member : entry ∈ graph.entries) : graph.find? entry.name = some entry := by
  obtain ⟨found, isFound⟩ := contains_iff.mp (contains_of_mem member)
  obtain ⟨foundMember, sameName⟩ := mem_of_find? isFound
  rw [isFound, List.inj_on_of_nodup_map unique foundMember member sameName]

theorem insert_of_contains (known : graph.contains entry.name = true) :
    graph.insert entry = graph := by
  rw [insert, if_pos known]

theorem insert_of_missing (missing : ¬ graph.contains entry.name = true) :
    graph.insert entry = ⟨entry :: graph.entries⟩ := by
  rw [insert, if_neg missing]

theorem find?_modify (kept : ∀ entry, (change entry).name = entry.name) :
    (graph.modify name change).find? other =
      (graph.find? other).map
        (fun entry => if entry.name == name then change entry else entry) := by
  rw [find?, modify, List.find?_map, find?]
  congr 2
  funext entry
  by_cases changed : entry.name = name
  · simp [changed, kept]
  · simp [changed]

theorem find?_modify_same (kept : ∀ entry, (change entry).name = entry.name)
    (found : graph.find? name = some entry) :
    (graph.modify name change).find? name = some (change entry) := by
  rw [find?_modify kept, found]
  simp [(mem_of_find? found).2]

theorem addField_of_some {existing : Field}
    (found : graph.declaredField? field.owner field.name = some existing) :
    graph.addField field = (existing, graph) := by
  rw [declaredField?] at found
  rw [addField, found]

theorem addField_of_none (missing : graph.declaredField? field.owner field.name = none) :
    graph.addField field =
      (field, graph.modify field.owner (fun entry => entry.withField field)) := by
  rw [declaredField?] at missing
  rw [addField, missing]
  rfl

theorem addMethod_of_some {existing : Method}
    (found : graph.declaredMethod? method.owner method.key = some existing) :
    graph.addMethod method = (existing, graph) := by
  simp only [declaredMethod?, ← Method.sameKey_eq_key] at found
  rw [addMethod, found]

theorem addMethod_of_none (missing : graph.declaredMethod? method.owner method.key = none) :
    graph.addMethod method =
      (method, graph.modify method.owner (fun entry => entry.withMethod method)) := by
  simp only [declaredMethod?, ← Method.sameKey_eq_key] at missing
  rw [addMethod, missing]
  rfl

end Lookup

/-! ## One addition -/

section Additions

variable {graph earlier later last : ClassGraph} {name : ClassName} {entry : ClassEntry}
  {change : ClassEntry → ClassEntry}

theorem Extends.refl (graph : ClassGraph) : graph.Extends graph :=
  fun _ entry found => ⟨entry, found, .refl entry⟩

theorem Extends.trans (extended : earlier.Extends later) (further : later.Extends last) :
    earlier.Extends last := by
  intro name entry found
  obtain ⟨current, isCurrent, grows⟩ := extended name entry found
  obtain ⟨newest, isNewest, growsOn⟩ := further name current isCurrent
  exact ⟨newest, isNewest, grows.trans growsOn⟩

theorem Extends.contains (extended : earlier.Extends later) (known : earlier.contains name = true) :
    later.contains name = true := by
  obtain ⟨entry, found⟩ := contains_iff.mp known
  obtain ⟨current, isCurrent, -⟩ := extended name entry found
  exact contains_iff.mpr ⟨current, isCurrent⟩

theorem extends_insert (graph : ClassGraph) (entry : ClassEntry) :
    graph.Extends (graph.insert entry) := by
  by_cases known : graph.contains entry.name = true
  · rw [insert_of_contains known]
    exact .refl graph
  · rw [insert_of_missing known]
    intro name found isFound
    have different : entry.name ≠ name := by
      rintro rfl
      exact known (contains_iff.mpr ⟨found, isFound⟩)
    refine ⟨found, ?_, .refl found⟩
    simpa [find?, different] using isFound

theorem extends_modify (grows : ∀ entry : ClassEntry, entry.GrowsTo (change entry)) :
    graph.Extends (graph.modify name change) := by
  intro other found isFound
  rw [find?_modify (fun entry => (grows entry).name), isFound]
  refine ⟨_, rfl, ?_⟩
  dsimp only
  by_cases changed : found.name == name
  · rw [if_pos changed]
    exact grows found
  · rw [if_neg changed]
    exact .refl found

theorem WellFormed.insert (wellFormed : graph.WellFormed) (keyed : entry.Keyed)
    (below : ∀ name ∈ entry.parents, graph.contains name = true) :
    (graph.insert entry).WellFormed := by
  have extended := extends_insert graph entry
  by_cases known : graph.contains entry.name = true
  · rwa [insert_of_contains known]
  · rw [insert_of_missing known] at extended ⊢
    refine ⟨?_, ?_, ?_, extended.contains wellFormed.rooted⟩
    · rw [List.map_cons, List.nodup_cons]
      refine ⟨?_, wellFormed.named⟩
      intro member
      obtain ⟨other, inGraph, sameName⟩ := List.mem_map.mp member
      exact known (sameName ▸ contains_of_mem inGraph)
    · exact List.forall_mem_cons.mpr ⟨keyed, wellFormed.keyed⟩
    · rw [List.forall_mem_cons]
      constructor
      · intro name above
        exact extended.contains (below name above)
      · intro other member name above
        exact extended.contains (wellFormed.closed other member name above)

/-- A class whose members stay apart can be changed in place. -/
theorem WellFormed.modify (wellFormed : graph.WellFormed)
    (grows : ∀ entry : ClassEntry, entry.GrowsTo (change entry))
    (keyed : ∀ entry, graph.find? name = some entry → entry.Keyed → (change entry).Keyed) :
    (graph.modify name change).WellFormed := by
  have extended : graph.Extends (graph.modify name change) := extends_modify grows
  -- The entries of the changed graph, each from the one in its place.
  have origin : ∀ entry ∈ (graph.modify name change).entries, ∃ old ∈ graph.entries,
      old.GrowsTo entry ∧ entry.Keyed := by
    intro entry member
    obtain ⟨old, inGraph, rfl⟩ := List.mem_map.mp member
    refine ⟨old, inGraph, ?_⟩
    have oldKeyed := wellFormed.keyed old inGraph
    by_cases changed : old.name == name
    · rw [if_pos changed]
      have found := find?_of_mem wellFormed.named inGraph
      rw [beq_iff_eq.mp changed] at found
      exact ⟨grows old, keyed old found oldKeyed⟩
    · rw [if_neg changed]
      exact ⟨.refl old, oldKeyed⟩
  refine ⟨?_, ?_, ?_, extended.contains wellFormed.rooted⟩
  · have sameNames : (graph.modify name change).entries.map ClassEntry.name =
        graph.entries.map ClassEntry.name := by
      rw [ClassGraph.modify, List.map_map]
      apply List.map_congr_left
      intro entry _
      by_cases changed : entry.name = name
      · simp [changed, (grows entry).name]
      · simp [changed]
    rw [sameNames]
    exact wellFormed.named
  · intro entry member
    obtain ⟨old, -, -, entryKeyed⟩ := origin entry member
    exact entryKeyed
  · intro entry member above isAbove
    obtain ⟨old, inGraph, growsTo, -⟩ := origin entry member
    rw [growsTo.parents] at isAbove
    exact extended.contains (wellFormed.closed old inGraph above isAbove)

/-- What declaring a member does: nothing, or one class gets members that stay apart. -/
inductive Declares (graph : ClassGraph) : ClassGraph → Prop where
  | nothing : Declares graph graph
  | changed {name : ClassName} {change : ClassEntry → ClassEntry}
      (grows : ∀ entry : ClassEntry, entry.GrowsTo (change entry))
      (keyed : ∀ entry, graph.find? name = some entry → entry.Keyed → (change entry).Keyed) :
      Declares graph (graph.modify name change)

theorem declares_addField (graph : ClassGraph) (field : Field) :
    graph.Declares (graph.addField field).2 := by
  cases found : graph.declaredField? field.owner field.name with
  | some existing =>
      rw [addField_of_some found]
      exact .nothing
  | none =>
      rw [addField_of_none found]
      apply Declares.changed (fun entry => entry.growsTo_withField field)
      intro entry isOwner keyed
      rw [declaredField?, isOwner] at found
      exact keyed.withField found

theorem declares_addMethod (graph : ClassGraph) (method : Method) :
    graph.Declares (graph.addMethod method).2 := by
  cases found : graph.declaredMethod? method.owner method.key with
  | some existing =>
      rw [addMethod_of_some found]
      exact .nothing
  | none =>
      rw [addMethod_of_none found]
      apply Declares.changed (fun entry => entry.growsTo_withMethod method)
      intro entry isOwner keyed
      rw [declaredMethod?, isOwner] at found
      exact keyed.withMethod found

/-- One class or member that is added. Classes are added below classes of the graph. -/
inductive Adds (graph : ClassGraph) : ClassGraph → Prop where
  | classEntry (entry : ClassEntry) (keyed : entry.Keyed)
      (below : ∀ name ∈ entry.parents, graph.contains name = true) :
      Adds graph (graph.insert entry)
  | member {later : ClassGraph} (declares : graph.Declares later) : Adds graph later

theorem Adds.extension (adds : graph.Adds later) : graph.Extends later := by
  cases adds with
  | classEntry entry => exact extends_insert graph entry
  | member declares =>
      cases declares with
      | nothing => exact .refl graph
      | changed grows => exact extends_modify grows

theorem Adds.wellFormed (adds : graph.Adds later) (wellFormed : graph.WellFormed) :
    later.WellFormed := by
  cases adds with
  | classEntry entry keyed below => exact wellFormed.insert keyed below
  | member declares =>
      cases declares with
      | nothing => exact wellFormed
      | changed grows keyed => exact wellFormed.modify grows keyed

/-- Additions one after the other. -/
abbrev Grows : ClassGraph → ClassGraph → Prop :=
  Relation.ReflTransGen Adds

theorem Grows.extension (grows : graph.Grows later) : graph.Extends later := by
  induction grows with
  | refl => exact .refl graph
  | tail _ adds inductionHypothesis => exact Extends.trans inductionHypothesis adds.extension

theorem Grows.wellFormed (grows : graph.Grows later) (wellFormed : graph.WellFormed) :
    later.WellFormed := by
  induction grows with
  | refl => exact wellFormed
  | tail _ adds inductionHypothesis => exact adds.wellFormed inductionHypothesis

end Additions

/-! ## Answers -/

/-- Adding answers with what the graph has under the key, and only then changes nothing. Otherwise
the graph has what was added from then on. -/
structure AnswersOnce {α : Type} (before after : ClassGraph) (lookup : ClassGraph → Option α)
    (added answer : α) : Prop where
  answered : answer = (lookup before).getD added
  found : lookup after = some answer
  unchanged_iff : after = before ↔ (lookup before).isSome = true

section Answers

variable {α : Type} {graph after : ClassGraph} {lookup : ClassGraph → Option α} {added : α}

theorem AnswersOnce.of_some {existing : α} (found : lookup graph = some existing) :
    AnswersOnce graph graph lookup added existing where
  answered := by rw [found, Option.getD_some]
  found := found
  unchanged_iff := by simp [found]

theorem AnswersOnce.of_none (missing : lookup graph = none) (found : lookup after = some added) :
    AnswersOnce graph after lookup added added where
  answered := by rw [missing, Option.getD_none]
  found := found
  unchanged_iff := by
    constructor
    · rintro rfl
      rw [missing] at found
      cases found
    · intro present
      rw [missing] at present
      cases present

theorem insert_answers (graph : ClassGraph) (entry : ClassEntry) :
    AnswersOnce graph (graph.insert entry) (fun graph => graph.find? entry.name) entry
      ((graph.find? entry.name).getD entry) := by
  cases found : graph.find? entry.name with
  | some existing =>
      rw [insert_of_contains (contains_iff.mpr ⟨existing, found⟩)]
      exact .of_some found
  | none =>
      have missing : ¬ graph.contains entry.name = true := by simp [contains, found]
      rw [insert_of_missing missing]
      exact .of_none found (by simp [find?])

/-- A member that its class lacks is found there once the class is changed to have it. -/
theorem AnswersOnce.of_modify {owner : ClassName} {change : ClassEntry → ClassEntry}
    {lookupIn : ClassEntry → Option α} (known : graph.contains owner = true)
    (missing : (graph.find? owner).bind lookupIn = none)
    (kept : ∀ entry, (change entry).name = entry.name)
    (declared : ∀ entry, lookupIn entry = none → lookupIn (change entry) = some added) :
    AnswersOnce graph (graph.modify owner change) (fun graph => (graph.find? owner).bind lookupIn)
      added added := by
  apply AnswersOnce.of_none missing
  obtain ⟨entry, isOwner⟩ := contains_iff.mp known
  rw [isOwner, Option.bind_some] at missing
  rw [find?_modify_same kept isOwner, Option.bind_some]
  exact declared entry missing

theorem addField_answers {field : Field} (known : graph.contains field.owner = true) :
    AnswersOnce graph (graph.addField field).2
      (fun graph => graph.declaredField? field.owner field.name) field
      (graph.addField field).1 := by
  cases found : graph.declaredField? field.owner field.name with
  | some existing =>
      rw [addField_of_some found]
      exact .of_some found
  | none =>
      rw [addField_of_none found]
      apply AnswersOnce.of_modify known found (fun entry => (entry.growsTo_withField field).name)
      intro entry missing
      simp [ClassEntry.withField, missing]

theorem addMethod_answers {method : Method} (known : graph.contains method.owner = true) :
    AnswersOnce graph (graph.addMethod method).2
      (fun graph => graph.declaredMethod? method.owner method.key) method
      (graph.addMethod method).1 := by
  cases found : graph.declaredMethod? method.owner method.key with
  | some existing =>
      rw [addMethod_of_some found]
      exact .of_some found
  | none =>
      rw [addMethod_of_none found]
      apply AnswersOnce.of_modify known found (fun entry => (entry.growsTo_withMethod method).name)
      intro entry missing
      simp [ClassEntry.withMethod, missing]

end Answers

/-! ## Assignability -/

section Assignability

variable {earlier later : ClassGraph} {name target : ClassName} {throughInterfaces : Bool}

/-- What a known class lies below never changes. -/
theorem Extends.parents (extended : earlier.Extends later) (known : earlier.contains name = true) :
    later.parents throughInterfaces name = earlier.parents throughInterfaces name := by
  obtain ⟨entry, found⟩ := contains_iff.mp known
  obtain ⟨current, isCurrent, grows⟩ := extended name entry found
  simp only [ClassGraph.parents, found, isCurrent, grows.superclass, grows.interfaces]

theorem Extends.isInterface (extended : earlier.Extends later)
    (known : earlier.contains name = true) : later.isInterface name = earlier.isInterface name := by
  obtain ⟨entry, found⟩ := contains_iff.mp known
  obtain ⟨current, isCurrent, grows⟩ := extended name entry found
  simp only [ClassGraph.isInterface, found, isCurrent, Option.any_some, ClassEntry.isInterface,
    grows.flags]

theorem WellFormed.contains_of_parents (wellFormed : earlier.WellFormed) :
    ∀ above ∈ earlier.parents throughInterfaces name, earlier.contains above = true := by
  intro above isAbove
  unfold ClassGraph.parents at isAbove
  split at isAbove
  · cases isAbove
  · rename_i entry found
    apply wellFormed.closed entry (mem_of_find? found).1
    rw [ClassEntry.parents, List.mem_append]
    rcases List.mem_append.mp isAbove with superclass | interface
    · exact .inl superclass
    · cases throughInterfaces with
      | true => exact .inr interface
      | false => cases interface

/-- The walk stays among the classes that were known, and so it takes the same course. -/
theorem reaches_of_extends (wellFormed : earlier.WellFormed) (extended : earlier.Extends later)
    {visited pending : List ClassName}
    (known : ∀ name ∈ pending, earlier.contains name = true) :
    later.reaches target throughInterfaces visited pending =
      earlier.reaches target throughInterfaces visited pending := by
  fun_induction earlier.reaches target throughInterfaces visited pending with
  | case1 => rw [reaches]
  | case2 visited rest => rw [reaches, if_pos rfl]
  | case3 visited name rest different seen inductionHypothesis =>
      rw [reaches, if_neg different, dif_pos seen]
      exact inductionHypothesis (List.forall_mem_cons.mp known).2
  | case4 visited name rest different fresh missing inductionHypothesis =>
      have found := (List.forall_mem_cons.mp known).1
      rw [contains, missing] at found
      cases found
  | case5 visited name rest different fresh entry found inductionHypothesis =>
      obtain ⟨knownName, knownRest⟩ := List.forall_mem_cons.mp known
      obtain ⟨current, isCurrent, -⟩ := extended name entry found
      have course : later.reaches target throughInterfaces visited (name :: rest) =
          later.reaches target throughInterfaces (name :: visited)
            ((later.parents throughInterfaces name).reverse ++ rest) := by
        rw [reaches, if_neg different, dif_neg fresh]
        split
        · rename_i missing
          rw [isCurrent] at missing
          cases missing
        · rfl
      rw [course, extended.parents knownName]
      apply inductionHypothesis
      refine List.forall_mem_append.mpr ⟨?_, knownRest⟩
      intro above isAbove
      exact wellFormed.contains_of_parents above (List.mem_reverse.mp isAbove)

theorem classAssignable_of_extends (wellFormed : earlier.WellFormed)
    (extended : earlier.Extends later) {sub super : ClassName}
    (knownSub : earlier.contains sub = true) (knownSuper : earlier.contains super = true) :
    later.classAssignable sub super = earlier.classAssignable sub super := by
  rw [classAssignable, extended.isInterface knownSuper, classAssignable]
  apply reaches_of_extends wellFormed extended
  simpa using knownSub

end Assignability

end ClassGraph

/-- The class that a value type names, if it names one. -/
def ValueType.className? (value : ValueType) : Option ClassName :=
  value.fieldType?.bind FieldType.className?

/-- The graph has the class that a value type names. -/
def ValueType.KnownIn (graph : ClassGraph) (value : ValueType) : Prop :=
  ∀ name ∈ value.className?, graph.contains name = true

theorem RefType.assignable_of_extends {earlier later : ClassGraph}
    (wellFormed : earlier.WellFormed) (extended : earlier.Extends later) {sub super : RefType}
    (knownSub : ∀ name ∈ sub.className?, earlier.contains name = true)
    (knownSuper : ∀ name ∈ super.className?, earlier.contains name = true) :
    sub.assignable later super = sub.assignable earlier super := by
  have sameVerdict := @ClassGraph.classAssignable_of_extends earlier later wellFormed extended
  cases sub with
  | object subName =>
      cases super with
      | object superName => exact sameVerdict (knownSub _ rfl) (knownSuper _ rfl)
      | _ => rfl
  | objectArray subExtra subName =>
      cases super with
      | objectArray superExtra superName =>
          simp only [assignable, sameVerdict (knownSub _ rfl) (knownSuper _ rfl)]
      | _ => rfl
  | primitiveArray subExtra primitive => cases super <;> rfl

theorem ValueType.assignable_of_extends {earlier later : ClassGraph}
    (wellFormed : earlier.WellFormed) (extended : earlier.Extends later) {sub super : ValueType}
    (knownSub : sub.KnownIn earlier) (knownSuper : super.KnownIn earlier) :
    sub.assignable later super = sub.assignable earlier super := by
  cases sub with
  | reference subType =>
      cases super with
      | reference superType =>
          exact RefType.assignable_of_extends wellFormed extended knownSub knownSuper
      | _ => rfl
  | _ => cases super <;> rfl

end TypedBytecode
