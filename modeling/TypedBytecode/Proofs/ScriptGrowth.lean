import TypedBytecode.Proofs.Growth
import TypedBytecode.Proofs.ScriptInvariant

/-!
Contract: what programs and scripts do to the class graph.

Owns:
- scripts as additions, also those that are refused on the way;
- the run theorem: from the standard classes on, whatever classes, members and scripts are added,
  keys stay unique and nothing that was there changes.

Does not own: what a script assembles.
-/

namespace TypedBytecode

namespace Script

/-- Whatever a script adds, the graph has grown by it. -/
theorem stable_grows (graph : ClassGraph) : Stable graph.Grows where
  insert later name isInterface rooted grows := by
    refine grows.tail (.classEntry _ ⟨List.nodup_nil, List.nodup_nil⟩ ?_)
    simpa [ClassEntry.parents, Resolving.mentionedClass] using rooted
  addField later field grows := grows.tail (.member (later.declares_addField field))
  addMethod later method grows := grows.tail (.member (later.declares_addMethod method))

/-- A script adds to the graph, whether or not it is refused. -/
theorem grows_assemble (graph : ClassGraph) (source : String) :
    graph.Grows (assemble graph source).2 :=
  (stable_grows graph).assemble .refl source

end Script

/-! ## Programs -/

namespace ClassGraph

/-- What a program can do to its class graph. -/
inductive Addition where
  | classEntry (entry : ClassEntry)
  | field (field : Field)
  | method (method : Method)
  | script (source : String)

/-- Classes are added below classes that are there. Members that come with a class are told apart
by their keys. -/
def Addition.Allowed (graph : ClassGraph) : Addition → Prop
  | .classEntry entry => entry.Keyed ∧ ∀ name ∈ entry.parents, graph.contains name = true
  | _ => True

def add (graph : ClassGraph) : Addition → ClassGraph
  | .classEntry entry => graph.insert entry
  | .field field => (graph.addField field).2
  | .method method => (graph.addMethod method).2
  | .script source => (Script.assemble graph source).2

def addAll (graph : ClassGraph) (additions : List Addition) : ClassGraph :=
  additions.foldl add graph

/-- Every addition is allowed when it is made. -/
def AllAllowed : ClassGraph → List Addition → Prop
  | _, [] => True
  | graph, addition :: further => addition.Allowed graph ∧ (graph.add addition).AllAllowed further

section Programs

variable {graph : ClassGraph} {addition : Addition} {additions front back : List Addition}

theorem grows_add (allowed : addition.Allowed graph) : graph.Grows (graph.add addition) := by
  cases addition with
  | classEntry entry => exact .single (.classEntry entry allowed.1 allowed.2)
  | field field => exact .single (.member (graph.declares_addField field))
  | method method => exact .single (.member (graph.declares_addMethod method))
  | script source => exact Script.grows_assemble graph source

theorem grows_addAll (allowed : graph.AllAllowed additions) :
    graph.Grows (graph.addAll additions) := by
  induction additions generalizing graph with
  | nil => exact .refl
  | cons addition further inductionHypothesis =>
      exact (grows_add allowed.1).trans (inductionHypothesis allowed.2)

theorem addAll_append : graph.addAll (front ++ back) = (graph.addAll front).addAll back :=
  List.foldl_append

theorem allAllowed_append :
    graph.AllAllowed (front ++ back) ↔
      graph.AllAllowed front ∧ (graph.addAll front).AllAllowed back := by
  induction front generalizing graph with
  | nil => simp [AllAllowed, addAll]
  | cons addition front inductionHypothesis =>
      rw [List.cons_append, AllAllowed, AllAllowed, inductionHypothesis, and_assoc]
      rfl

end Programs

theorem wellFormed_standard : Standard.graph.WellFormed where
  named := by decide +kernel
  keyed := by decide +kernel
  closed := by decide +kernel
  rooted := by decide +kernel

/-- What a graph that has grown from an earlier one keeps. -/
structure OnlyGrown (earlier later : ClassGraph) : Prop where
  /-- No two classes have one name, and no two members of a class one key. -/
  wellFormed : later.WellFormed
  kept : earlier.Extends later
  /-- What is added is there already exactly if its key is. -/
  classes : ∀ entry, AnswersOnce later (later.insert entry) (fun graph => graph.find? entry.name)
    entry ((later.find? entry.name).getD entry)
  fields : ∀ field, later.contains field.owner = true →
    AnswersOnce later (later.addField field).2
      (fun graph => graph.declaredField? field.owner field.name) field (later.addField field).1
  methods : ∀ method, later.contains method.owner = true →
    AnswersOnce later (later.addMethod method).2
      (fun graph => graph.declaredMethod? method.owner method.key) method
      (later.addMethod method).1
  verdicts : ∀ sub super : ValueType, sub.KnownIn earlier → super.KnownIn earlier →
    sub.assignable later super = sub.assignable earlier super

/-- From the standard classes on, whatever classes, fields, methods and scripts are added, also
scripts that are refused: keys stay unique, every class stays what it was but for members added
behind, an addition whose key is there changes nothing, and so does no verdict on types that were
known. -/
theorem only_grown (front back : List Addition)
    (allowed : Standard.graph.AllAllowed (front ++ back)) :
    OnlyGrown (Standard.graph.addAll front) (Standard.graph.addAll (front ++ back)) := by
  obtain ⟨allowedFirst, allowedThen⟩ := allAllowed_append.mp allowed
  have wellFormed := (grows_addAll allowedFirst).wellFormed wellFormed_standard
  have grows := grows_addAll allowedThen
  rw [addAll_append]
  exact {
    wellFormed := grows.wellFormed wellFormed
    kept := grows.extension
    classes := insert_answers _
    fields := fun _ known => addField_answers known
    methods := fun _ known => addMethod_answers known
    verdicts := fun _ _ knownSub knownSuper =>
      ValueType.assignable_of_extends wellFormed grows.extension knownSub knownSuper }

/-- A class, and a script that mentions it together with a new one. -/
def mentionedFirst : List Addition :=
  [.classEntry (Standard.subclass ⟨"demo/A"⟩ .object [.runnable] .publicBit),
    .script "routine static demo/B f ([Ldemo/A;)V\nreturn\n"]

/-- A script that is refused on its third line, where it has declared a field and mentioned an
interface and a class. -/
def refusedSource : String :=
  "routine instance demo/A g ()V\nfield static n J\ninvoke interface demo/I h (Ldemo/C;)V\n"

/-- The script, another field of the name that it has declared, and the first class once more,
below what the script has left. -/
def addedLater : List Addition :=
  [.script refusedSource,
    .field ⟨⟨"demo/A"⟩, ⟨"n"⟩, .primitive .int, .publicBit⟩,
    .classEntry (Standard.subclass ⟨"demo/A"⟩ ⟨"demo/C"⟩ [⟨"demo/I"⟩] .publicBit)]

theorem only_grown_by_refused_script :
    Standard.graph.AllAllowed (mentionedFirst ++ addedLater) ∧
      (Script.assemble (Standard.graph.addAll mentionedFirst) refusedSource).1.isOk = false ∧
      ((Standard.graph.addAll (mentionedFirst ++ addedLater)).entries.take 4).map
          (fun entry => (entry.name.text, entry.fields.map Field.text)) =
        [("demo/C", []), ("demo/I", []), ("demo/B", []), ("demo/A", ["demo/A.n:J"])] ∧
      OnlyGrown (Standard.graph.addAll mentionedFirst)
        (Standard.graph.addAll (mentionedFirst ++ addedLater)) := by
  have allowed : Standard.graph.AllAllowed (mentionedFirst ++ addedLater) :=
    ⟨⟨by decide, by decide +kernel⟩, trivial, trivial, trivial,
      ⟨by decide, by decide +kernel⟩, trivial⟩
  exact ⟨allowed, by decide +kernel, by decide +kernel,
    only_grown mentionedFirst addedLater allowed⟩

end ClassGraph

end TypedBytecode
